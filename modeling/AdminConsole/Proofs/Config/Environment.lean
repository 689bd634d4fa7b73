import AdminConsole.Proofs.Config.Reading

/-!
# Configuration from a process environment

A process environment sets variables to bytes, which need not be text. A setting whose variable holds no text
is treated as one whose variable is absent: it takes its standard value, in silence. Everything else that is
not a positive number of milliseconds is refused. `ofEnvironment_exact` says what comes of every environment
and in which ones a variable that is set is never passed over.
-/

namespace AdminConsole.Config

/-- What the environment makes of a setting that it does not refuse. -/
inductive Gives (env : Environment) (setting : Setting) : Period → Prop where
  | absent (absent : env setting.envName = none) : Gives env setting (standard.get setting)
  | unreadable {bytes : ByteArray} (given : env setting.envName = some bytes)
      (unreadable : ¬bytes.IsValidUTF8) : Gives env setting (standard.get setting)
  | number {text : String} {n : Nat} {p : Period} (given : env setting.envName = some text.toUTF8)
      (denotes : Denotes text n) (duration_eq : p.duration = .ofMillis n) : Gives env setting p

/-- The variable of the setting holds a text that is not a positive number of milliseconds. -/
def Refuses (env : Environment) (setting : Setting) (text : String) : Prop :=
  env setting.envName = some text.toUTF8 ∧ ∀ n, ¬Denotes text n

/-- The bytes are the text of a positive number of milliseconds. -/
def DenotesBytes (bytes : ByteArray) (n : Nat) : Prop := ∃ text : String, bytes = text.toUTF8 ∧ Denotes text n

/-- No variable that is set is passed over: it gives its setting, or there is no configuration. -/
structure FailsClosed (env : Environment) : Prop where
  /-- A setting whose variable is set does not fall back to its standard value. -/
  heeded : ∀ c, ofEnvironment env = .ok c → ∀ (setting : Setting) bytes, env setting.envName = some bytes →
    ∃ n, DenotesBytes bytes n ∧ (c.get setting).duration = .ofMillis n
  /-- A variable that is set to anything but a positive number of milliseconds is an error. -/
  refused : ∀ (setting : Setting) bytes, env setting.envName = some bytes → (∀ n, ¬DenotesBytes bytes n) →
    ∃ setting text, ofEnvironment env = .error (.invalidDuration setting text)

section
variable {env : Environment} {setting : Setting} {p : Period} {c : Config} {e : ConfigError}

/-! ## Bytes and text -/

theorem fromUTF8?_eq_some_iff {bytes : ByteArray} {text : String} :
    String.fromUTF8? bytes = some text ↔ bytes = text.toUTF8 := by
  unfold String.fromUTF8?
  split
  · rename_i h
    rw [Option.some.injEq]
    constructor
    · rintro rfl
      rfl
    · rintro rfl
      rfl
  · rename_i h
    constructor
    · nofun
    · rintro rfl
      exact absurd text.isValidUTF8 h

theorem fromUTF8?_eq_none_iff {bytes : ByteArray} : String.fromUTF8? bytes = none ↔ ¬bytes.IsValidUTF8 := by
  simp [String.fromUTF8?]

theorem lookupText_eq_some_iff {name text : String} :
    lookupText env name = some text ↔ env name = some text.toUTF8 := by
  rw [lookupText, Option.bind_eq_bind, Option.bind_eq_some_iff]
  constructor
  · rintro ⟨bytes, hbytes, htext⟩
    rw [hbytes, fromUTF8?_eq_some_iff.1 htext]
  · intro h
    exact ⟨_, h, fromUTF8?_eq_some_iff.2 rfl⟩

theorem lookupText_eq_none_iff {name : String} :
    lookupText env name = none ↔ env name = none ∨ ∃ bytes, env name = some bytes ∧ ¬bytes.IsValidUTF8 := by
  rw [lookupText, Option.bind_eq_bind, Option.bind_eq_none_iff]
  cases env name with
  | none => simp
  | some bytes => simp [fromUTF8?_eq_none_iff]

/-! ## Settings -/

theorem gives_iff : Gives env setting p ↔ read (lookupText env) setting = .ok p := by
  rw [read_eq_ok_iff, lookupText_eq_none_iff]
  constructor
  · intro h
    cases h with
    | absent absent => exact Or.inl ⟨Or.inl absent, rfl⟩
    | unreadable given unreadable => exact Or.inl ⟨Or.inr ⟨_, given, unreadable⟩, rfl⟩
    | number given denotes duration_eq =>
      exact Or.inr ⟨_, _, lookupText_eq_some_iff.2 given, denotes, duration_eq⟩
  · rintro (⟨absent | ⟨bytes, given, unreadable⟩, rfl⟩ | ⟨text, n, given, denotes, duration_eq⟩)
    · exact .absent absent
    · exact .unreadable given unreadable
    · exact .number (lookupText_eq_some_iff.1 given) denotes duration_eq

theorem offends_iff {text : String} : Offends (lookupText env) setting text ↔ Refuses env setting text :=
  and_congr_left' lookupText_eq_some_iff

theorem ofEnvironment_eq_ok_iff :
    ofEnvironment env = .ok c ↔ ∀ setting, Gives env setting (c.get setting) := by
  rw [ofEnvironment, ofLookup_eq_ok_iff]
  exact forall_congr' fun _ => gives_iff.symm

/-- A setting is given or refused. -/
theorem exists_gives_iff : (∃ p, Gives env setting p) ↔ ∀ text, ¬Refuses env setting text := by
  simp only [gives_iff, exists_read_iff, offends_iff]

/-- Of two settings that are refused the poll interval is the one that is named. -/
theorem ofEnvironment_eq_error_iff : ofEnvironment env = .error e ↔
    ∃ setting text, Refuses env setting text ∧ e = .invalidDuration setting text ∧
      (setting = .requestTimeout → ∀ other, ¬Refuses env .pollInterval other) := by
  simp only [ofEnvironment, ofLookup_eq_error_iff, offends_iff]

theorem Refuses.exists_error {text : String} (h : Refuses env setting text) :
    ∃ setting text, ofEnvironment env = .error (.invalidDuration setting text) := by
  cases hconfig : ofEnvironment env with
  | error e =>
    obtain ⟨setting, text, -, rfl, -⟩ := ofEnvironment_eq_error_iff.1 hconfig
    exact ⟨setting, text, rfl⟩
  | ok c => exact absurd h (exists_gives_iff.1 ⟨_, ofEnvironment_eq_ok_iff.1 hconfig setting⟩ text)

/-! ## Closed failures -/

theorem failsClosed_of_refuses {text : String} (h : Refuses env setting text) : FailsClosed env := by
  obtain ⟨_, _, herror⟩ := h.exists_error
  refine ⟨fun c hok => ?_, fun _ _ _ _ => ⟨_, _, herror⟩⟩
  cases hok.symm.trans herror

theorem failsClosed_of_readable
    (readable : ∀ (setting : Setting) bytes, env setting.envName = some bytes → bytes.IsValidUTF8) :
    FailsClosed env where
  heeded c hok setting bytes hbytes := by
    -- The value can only come from the variable: it is there, and it is text.
    have hgives := ofEnvironment_eq_ok_iff.1 hok setting
    generalize c.get setting = p at hgives ⊢
    cases hgives with
    | absent absent => cases absent.symm.trans hbytes
    | unreadable given unreadable => exact absurd (readable setting _ given) unreadable
    | number given denotes duration_eq =>
      cases hbytes.symm.trans given
      exact ⟨_, ⟨_, rfl, denotes⟩, duration_eq⟩
  refused setting bytes hbytes hbad := by
    obtain ⟨text, htext⟩ := Option.ne_none_iff_exists'.1 fun h =>
      fromUTF8?_eq_none_iff.1 h (readable setting bytes hbytes)
    have heq : bytes = text.toUTF8 := fromUTF8?_eq_some_iff.1 htext
    exact Refuses.exists_error ⟨heq ▸ hbytes, fun n hn => hbad n ⟨text, heq, hn⟩⟩

/-- If nothing is refused, a variable that holds no text is passed over. -/
theorem FailsClosed.readable (closed : FailsClosed env) (hnone : ∀ setting text, ¬Refuses env setting text)
    {bytes : ByteArray} (hbytes : env setting.envName = some bytes) : bytes.IsValidUTF8 := by
  refine Classical.byContradiction fun hunreadable => ?_
  have hno : ∀ n, ¬DenotesBytes bytes n := by
    rintro n ⟨text, rfl, -⟩
    exact hunreadable text.isValidUTF8
  obtain ⟨setting', text, herror⟩ := closed.refused setting bytes hbytes hno
  obtain ⟨_, _, hrefuses, -⟩ := ofEnvironment_eq_error_iff.1 herror
  exact hnone _ _ hrefuses

end

/-- What comes of an environment: a configuration that each setting gives, or an error that names the first
setting whose variable holds a text other than a positive number. No variable that is set is passed over exactly
if one is refused or each of them holds text. -/
theorem ofEnvironment_exact (env : Environment) :
    (∀ c, ofEnvironment env = .ok c ↔ ∀ setting, Gives env setting (c.get setting)) ∧
    (∀ e, ofEnvironment env = .error e ↔ ∃ setting text, Refuses env setting text ∧
      e = .invalidDuration setting text ∧
      (setting = .requestTimeout → ∀ other, ¬Refuses env .pollInterval other)) ∧
    (FailsClosed env ↔ (∃ setting text, Refuses env setting text) ∨
      ∀ (setting : Setting) bytes, env setting.envName = some bytes → bytes.IsValidUTF8) := by
  refine ⟨fun _ => ofEnvironment_eq_ok_iff, fun _ => ofEnvironment_eq_error_iff, ?_, ?_⟩
  · intro closed
    by_cases hrefuses : ∃ setting text, Refuses env setting text
    · exact Or.inl hrefuses
    · refine Or.inr fun setting bytes hbytes => closed.readable ?_ hbytes
      exact fun setting text h => hrefuses ⟨setting, text, h⟩
  · rintro (⟨setting, text, h⟩ | readable)
    · exact failsClosed_of_refuses h
    · exact failsClosed_of_readable readable

/-- The poll interval is set to a byte that stands in no text. -/
def unreadablePoll : Environment := fun name =>
  if name = Setting.pollInterval.envName then some ⟨#[0xff]⟩ else none

/-- The setting takes its standard value as if its variable were absent. -/
theorem not_failsClosed_unreadablePoll :
    unreadablePoll Setting.pollInterval.envName = some ⟨#[0xff]⟩ ∧ (∀ n, ¬DenotesBytes ⟨#[0xff]⟩ n) ∧
      ofEnvironment unreadablePoll = .ok standard ∧ ¬FailsClosed unreadablePoll := by
  have hinvalid : ¬(ByteArray.mk #[0xff]).IsValidUTF8 := by decide
  have hpoll : unreadablePoll Setting.pollInterval.envName = some ⟨#[0xff]⟩ := rfl
  have hno : ∀ n, ¬DenotesBytes ⟨#[0xff]⟩ n := by
    rintro n ⟨text, htext, -⟩
    exact hinvalid (htext ▸ text.isValidUTF8)
  have hok : ofEnvironment unreadablePoll = .ok standard := by
    refine ofEnvironment_eq_ok_iff.2 fun setting => ?_
    cases setting with
    | pollInterval => exact .unreadable hpoll hinvalid
    | requestTimeout => exact .absent rfl
  refine ⟨hpoll, hno, hok, fun closed => ?_⟩
  obtain ⟨_, _, herror⟩ := closed.refused .pollInterval _ hpoll hno
  cases hok.symm.trans herror

end AdminConsole.Config
