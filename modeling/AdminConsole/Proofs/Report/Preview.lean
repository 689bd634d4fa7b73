import AdminConsole.Proofs.Report.Layout
import AdminConsole.Proofs.Access.Evaluation
import AdminConsole.Proofs.Config.Environment
import AdminConsole.Proofs.PermissionSet.NormalForm

/-!
# What the report says

The report on a user follows from the name, from which identifiers are listed after it, and from the
environment. `report_exact` gives every part of it by these, and says which fault is shown when there is no
report: one of the environment, if it has any, and else that the name is missing. What is written is given as
text, of a report (`written`) and of either fault (`complaint`, `usage`).
-/

namespace AdminConsole.CommandLine

open Navigation Config

/-! ## What a run shows -/

/-- The run ends well and writes the report. -/
structure Reports (args : List String) (env : Environment) (r : Report) : Prop where
  report_eq : report args env = .ok r
  exitCode : (run args env).exitCode = 0
  output : (run args env).output = written r
  errors : (run args env).errors = ""

/-- The run ends badly and writes nothing but what is said of the failure. -/
structure Fails (args : List String) (env : Environment) (f : Failure) (said : String) : Prop where
  report_eq : report args env = .error f
  exitCode : (run args env).exitCode = 1
  output : (run args env).output = ""
  errors : (run args env).errors = said

/-- The number of milliseconds that the environment sets between checks: what the variable says, or half a
minute if the variable is absent or holds no text. -/
def SetsPollMillis (env : Environment) (n : Nat) : Prop :=
  (∃ text, env Setting.pollInterval.envName = some text.toUTF8 ∧ Denotes text n) ∨
    (∀ text : String, env Setting.pollInterval.envName ≠ some text.toUTF8) ∧ n = 30000

/-- The report is the one on a user who was granted the identifiers. -/
structure Previews (config : Config) (username : String) (names : List String) (r : Report) : Prop where
  username_eq : r.username = username
  /-- The entries of the main menu that are listed are those that an identifier unlocks. -/
  reachable : r.reachable = Table.mainTabs.entries.filter fun e => ∃ p ∈ e.required, p.wire ∈ names
  landingRoute : r.landingRoute = (r.reachable.head?.map Entry.destination).getD .forbidden
  landingRoute_ne_login : r.landingRoute ≠ .login
  /-- The identifiers outside the catalog are listed in order and none of them twice. -/
  unrecognized_increasing : r.unrecognized.Pairwise (· < ·)
  mem_unrecognized : ∀ name, name ∈ r.unrecognized ↔ name ∈ names ∧ ∀ p : Permission, p.wire ≠ name
  /-- The interval is a whole number of milliseconds, and it fits into the report. -/
  pollInterval : config.pollInterval.duration = .ofMillis r.pollMillis
  millis_le : config.pollInterval.duration.millis ≤ Report.maxMillis

section
variable {args names names' : List String} {env : Environment} {r : Report} {f : Failure} {config : Config}
  {username : String} {n : Nat}

theorem Reports.of_report (h : report args env = .ok r) : Reports args env r := by
  constructor
  · exact h
  · simp [run, h]
  · simp [run, h, text_eq_written]
  · simp [run, h]

theorem Fails.of_report {said : String} (h : report args env = .error f) (hsaid : f.message = said) :
    Fails args env f said := by
  constructor
  · exact h
  · simp [run, h]
  · simp [run, h]
  · simp [run, h, hsaid]

/-! ## The environment comes first -/

theorem report_of_error {e : ConfigError} (h : ofEnvironment env = .error e) :
    report args env = .error (.config e) := by
  simp [report, h, Except.mapError, bind, Except.bind]

theorem report_nil (h : ofEnvironment env = .ok config) : report [] env = .error .usage := by
  simp [report, h, Except.mapError, bind, Except.bind]

theorem report_cons (h : ofEnvironment env = .ok config) :
    report (username :: names) env = .ok (.ofNames config username names) := by
  simp [report, h, Except.mapError, bind, Except.bind, pure, Except.pure]

/-! ## The interval between checks -/

/-- What an environment gives for the interval is a number of milliseconds of 64 bits. -/
theorem exists_millis_of_gives {p : Period} (h : Gives env .pollInterval p) :
    ∃ n, p.duration = .ofMillis n ∧ n ≤ Report.maxMillis ∧ SetsPollMillis env n := by
  cases h with
  | absent absent =>
    refine ⟨30000, rfl, by decide, Or.inr ⟨fun text => ?_, rfl⟩⟩
    rw [absent]
    nofun
  | unreadable given unreadable =>
    refine ⟨30000, rfl, by decide, Or.inr ⟨fun text htext => ?_, rfl⟩⟩
    cases given.symm.trans htext
    exact unreadable text.isValidUTF8
  | @number text n _ given denotes duration_eq =>
    have hlt : n < UInt64.size := denotes.2.2
    exact ⟨n, duration_eq, Nat.le_sub_one_of_lt hlt, Or.inl ⟨text, given, denotes⟩⟩

theorem pollMillis_ofNames (hn : config.pollInterval.duration = .ofMillis n) (hle : n ≤ Report.maxMillis) :
    (Report.ofNames config username names).pollMillis = n := by
  have hmillis : config.pollInterval.duration.millis = n := by rw [hn, Duration.millis_ofMillis]
  rw [Report.ofNames, hmillis]
  exact Nat.min_eq_left hle

/-! ## What the identifiers decide -/

theorem unlocks_session_iff {e : Entry} :
    (Report.session username names).Unlocks e ↔ ∃ p ∈ e.required, p.wire ∈ names := by
  have hmem : ∀ p, p ∈ (Report.session username names).permissions ↔ p.wire ∈ names :=
    fun _ => PermissionSet.mem_ofNames
  simp only [Session.Unlocks, hmem]

theorem reachable_ofNames : (Report.ofNames config username names).reachable =
    Table.mainTabs.entries.filter fun e => ∃ p ∈ e.required, p.wire ∈ names :=
  Session.reachableEntries_eq_filter fun _ _ => unlocks_session_iff

theorem landingRoute_ofNames : (Report.ofNames config username names).landingRoute =
    ((Report.ofNames config username names).reachable.head?.map Entry.destination).getD .forbidden := by
  have halive : (Report.session username names).status = .alive := rfl
  have hlanding := Session.landingRoute_eq (s := Report.session username names) (t := .mainTabs)
  rwa [if_pos halive] at hlanding

/-- No section of the main menu is the login. -/
theorem destination_ne_login {e : Entry} (h : e ∈ Table.mainTabs.entries) : e.destination ≠ .login := by
  revert e
  decide

theorem landingRoute_ofNames_ne_login : (Report.ofNames config username names).landingRoute ≠ .login := by
  rw [landingRoute_ofNames, reachable_ofNames]
  cases hhead : (Table.mainTabs.entries.filter fun e => ∃ p ∈ e.required, p.wire ∈ names).head? with
  | none => nofun
  | some e => exact destination_ne_login (List.mem_of_mem_filter (List.mem_of_mem_head? hhead))

theorem previews_ofNames (hn : config.pollInterval.duration = .ofMillis n) (hle : n ≤ Report.maxMillis) :
    Previews config username names (.ofNames config username names) where
  username_eq := rfl
  reachable := reachable_ofNames
  landingRoute := landingRoute_ofNames
  landingRoute_ne_login := landingRoute_ofNames_ne_login
  unrecognized_increasing := (PermissionSet.ofNames names).unrecognized.increasing
  mem_unrecognized _ := PermissionSet.holds_ofNames.mem_unrecognized_iff
  pollInterval := by rw [pollMillis_ofNames hn hle, hn]
  millis_le := by rw [hn, Duration.millis_ofMillis]; exact hle

theorem ofNames_congr (h : ∀ name, name ∈ names ↔ name ∈ names') :
    Report.ofNames config username names = .ofNames config username names' := by
  have huser : Report.session username names = Report.session username names' := by
    rw [Report.session, Report.session, Report.user, Report.user, PermissionSet.ofNames_congr h]
  simp only [Report.ofNames, huser]

end

/-- A fault of the environment is shown whatever the arguments are, and without one a missing name. For a user
and a list of identifiers a report is written that follows from them and from the interval that the environment
sets, and the same one is written for any list of the same identifiers. -/
theorem report_exact (env : Environment) :
    (∀ e, ofEnvironment env = .error e → ∃ setting lines, (∀ line ∈ lines, '\n' ∉ String.toList line) ∧
      e = .invalidDuration setting ("\n".intercalate lines) ∧
      ∀ args, Fails args env (.config e) (complaint setting lines)) ∧
    ∀ config, ofEnvironment env = .ok config → Fails [] env .usage usage ∧
      ∀ username names, ∃ r, Reports (username :: names) env r ∧ Previews config username names r ∧
        SetsPollMillis env r.pollMillis ∧
        ∀ names', (∀ name, name ∈ names' ↔ name ∈ names) → Reports (username :: names') env r := by
  constructor
  · intro e he
    obtain ⟨setting, text, -, rfl, -⟩ := ofEnvironment_eq_error_iff.1 he
    obtain ⟨lines, hlines, rfl, hsaid⟩ := exists_complaint setting text
    exact ⟨setting, lines, hlines, rfl, fun args => .of_report (report_of_error he) hsaid⟩
  intro config hconfig
  refine ⟨.of_report (report_nil hconfig) message_usage, fun username names => ?_⟩
  obtain ⟨n, hn, hle, hsets⟩ := exists_millis_of_gives (ofEnvironment_eq_ok_iff.1 hconfig .pollInterval)
  refine ⟨.ofNames config username names, .of_report (report_cons hconfig), previews_ofNames hn hle, ?_, ?_⟩
  · rw [pollMillis_ofNames hn hle]
    exact hsets
  · intro names' hsame
    rw [← ofNames_congr hsame]
    exact .of_report (report_cons hconfig)

/-- An environment that sets the interval and nothing else. -/
def pollOnly (text : String) : Environment := fun name =>
  if name = Setting.pollInterval.envName then some text.toUTF8 else none

/-- The interval is the greatest number that fits, and the same identifiers are listed twice, the second time in
another order and repeated. An interval of zero is what a run without a name complains about. -/
theorem report_exact_greatestInterval :
    ofEnvironment (pollOnly "0") = .error (.invalidDuration .pollInterval "0") ∧
    (∃ lines, "\n".intercalate lines = "0" ∧ (run [] (pollOnly "0")).errors = complaint .pollInterval lines) ∧
    ∃ config, ofEnvironment (pollOnly " +18446744073709551615") = .ok config ∧
      (run [] (pollOnly " +18446744073709551615")).errors = usage ∧
      ∃ r, Reports ["eve", "VIEW_MEMBERS_2", "VIEW_APPROVED_TSAS", "A"] (pollOnly " +18446744073709551615") r ∧
        Reports ["eve", "A", "VIEW_APPROVED_TSAS", "A", "VIEW_MEMBERS_2"]
          (pollOnly " +18446744073709551615") r ∧
        Previews config "eve" ["VIEW_MEMBERS_2", "VIEW_APPROVED_TSAS", "A"] r ∧
        r.reachable.map Entry.key = ["trustServices"] ∧ r.landingRoute = .trustServices ∧
        r.unrecognized = ["A", "VIEW_MEMBERS_2"] ∧ r.pollMillis = 18446744073709551615 := by
  have hzero : ofEnvironment (pollOnly "0") = .error (.invalidDuration .pollInterval "0") := by
    have hno : ∀ n, ¬Denotes "0" n := millis?_eq_none_iff.1 (by decide)
    exact ofEnvironment_eq_error_iff.2 ⟨.pollInterval, "0", ⟨rfl, hno⟩, rfl, nofun⟩
  let config : Config := ⟨⟨.ofMillis 18446744073709551615, by decide⟩, standard.requestTimeout⟩
  have hgreatest : ofEnvironment (pollOnly " +18446744073709551615") = .ok config := by
    have hmillis : millis? " +18446744073709551615" = some ⟨18446744073709551615, by decide⟩ := by decide
    refine ofEnvironment_eq_ok_iff.2 fun setting => ?_
    cases setting with
    | pollInterval => exact .number rfl (millis?_eq_some_iff.1 hmillis) rfl
    | requestTimeout => exact .absent rfl
  have hsame : ∀ name, name ∈ ["A", "VIEW_APPROVED_TSAS", "A", "VIEW_MEMBERS_2"] ↔
      name ∈ ["VIEW_MEMBERS_2", "VIEW_APPROVED_TSAS", "A"] := by
    intro name
    simp only [List.mem_cons, List.not_mem_nil, or_false]
    tauto
  obtain ⟨hmissing, hreports⟩ := (report_exact (pollOnly " +18446744073709551615")).2 config hgreatest
  obtain ⟨r, reports, previews, -, again⟩ := hreports "eve" ["VIEW_MEMBERS_2", "VIEW_APPROVED_TSAS", "A"]
  obtain ⟨setting, lines, -, he, hfails⟩ := (report_exact (pollOnly "0")).1 _ hzero
  injection he with hsetting htext
  subst hsetting
  refine ⟨hzero, ⟨lines, htext.symm, (hfails []).errors⟩, config, hgreatest, hmissing.errors, r, reports,
    again _ hsame, previews, ?_⟩
  cases reports.report_eq.symm.trans (report_cons hgreatest)
  exact ⟨by decide, by decide, by decide, by decide⟩

end AdminConsole.CommandLine
