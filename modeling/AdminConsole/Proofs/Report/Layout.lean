import AdminConsole.CommandLine

/-!
# The layout of the report

The report as text, line by line (`written`), and what is said if there is none: of a variable that holds
anything but a positive number (`complaint`), or of a name that is missing (`usage`). `text_eq_written` and
`exists_complaint` say that these are the texts.
-/

namespace AdminConsole.CommandLine

open Navigation

/-! ## The texts -/

/-- A list with each part on a line of its own, in a text that is indented so far. -/
def listed (indent : String) (parts : List String) : String :=
  if parts = [] then "[]"
  else "[\n  " ++ indent ++ (",\n  " ++ indent).intercalate parts ++ "\n" ++ indent ++ "]"

def writtenEntry (e : Entry) : String :=
  "\x7b\n      \"destination\": " ++ Json.quote e.destination.path ++
    ",\n      \"key\": " ++ Json.quote e.key ++
    ",\n      \"name\": " ++ Json.quote e.name ++
    ",\n      \"required_permissions\": " ++
      listed "      " (e.required.map fun p => Json.quote p.wire) ++
    "\n    \x7d"

def written (r : Report) : String :=
  "\x7b\n  \"username\": " ++ Json.quote r.username ++
    ",\n  \"landing_route\": " ++ Json.quote r.landingRoute.path ++
    ",\n  \"reachable\": " ++ listed "  " (r.reachable.map writtenEntry) ++
    ",\n  \"unrecognized_permissions\": " ++ listed "  " (r.unrecognized.map Json.quote) ++
    ",\n  \"session_poll_interval_ms\": " ++ toString r.pollMillis ++
    "\n\x7d\n"

/-- What is said of a variable that holds a text of the given lines. -/
def complaint (setting : Setting) (lines : List String) : String :=
  "Error: invalid client configuration\n\nCaused by:\n    " ++ setting.envName ++
    " must be a positive number of milliseconds, got '" ++ "\n    ".intercalate lines ++ "'\n"

/-- What is said if the name is missing. -/
def usage : String := "Error: usage: csadmin-nav <username> [PERMISSION...]\n"

/-! ## Lists and objects -/

theorem bracketed_eq_listed {depth : Nat} {parts : List String} {indent : String}
    (hindent : Json.newline depth = "\n" ++ indent) (hdeeper : Json.newline (depth + 1) = "\n  " ++ indent) :
    Json.bracketed "[" "]" depth parts = listed indent parts := by
  have hcomma : "," ++ ("\n  " ++ indent) = ",\n  " ++ indent := by
    rw [← String.append_assoc]
    rfl
  unfold Json.bracketed listed
  rw [hindent, hdeeper, hcomma]
  cases parts with
  | nil => rfl
  | cons part parts =>
    rw [if_neg (by simp), if_neg (by simp)]
    simp only [← String.append_assoc]
    rfl

theorem itemTexts_eq_map {depth : Nat} {items : List Json} :
    Json.itemTexts depth items = items.map (Json.indented depth) := by
  induction items with
  | nil => rw [Json.itemTexts, List.map_nil]
  | cons v items ih => rw [Json.itemTexts, ih, List.map_cons]

theorem memberTexts_eq_map {depth : Nat} {members : List (String × Json)} : Json.memberTexts depth members =
    members.map fun m => Json.quote m.1 ++ ": " ++ m.2.indented depth := by
  induction members with
  | nil => rw [Json.memberTexts, List.map_nil]
  | cons m members ih => rw [Json.memberTexts, ih, List.map_cons]

/-- An array is written as the list of the texts of its items. -/
theorem indented_arr {α : Type} {depth : Nat} {items : List α} {toJson : α → Json} {text : α → String}
    {indent : String} (htext : ∀ a, (toJson a).indented (depth + 1) = text a)
    (hindent : Json.newline depth = "\n" ++ indent) (hdeeper : Json.newline (depth + 1) = "\n  " ++ indent) :
    Json.indented depth (.arr (items.map toJson)) = listed indent (items.map text) := by
  rw [Json.indented, itemTexts_eq_map, List.map_map, bracketed_eq_listed hindent hdeeper]
  exact congrArg _ (List.map_congr_left fun a _ => htext a)

theorem indented_str {depth : Nat} {s : String} : (Json.str s).indented depth = Json.quote s := by
  rw [Json.indented]

/-! ## The report -/

theorem indented_entry {e : Entry} : e.toJson.indented 2 = writtenEntry e := by
  have hrequired : Json.indented 3 (.arr (e.required.map Permission.toJson)) =
      listed "      " (e.required.map fun p => Json.quote p.wire) :=
    indented_arr (fun _ => indented_str) rfl rfl
  have hopens : "\x7b" ++ Json.newline 3 ++ Json.quote "destination" ++ ": " =
      "\x7b\n      \"destination\": " := rfl
  have hkey : "," ++ Json.newline 3 ++ Json.quote "key" ++ ": " = ",\n      \"key\": " := rfl
  have hname : "," ++ Json.newline 3 ++ Json.quote "name" ++ ": " = ",\n      \"name\": " := rfl
  have hpermissions : "," ++ Json.newline 3 ++ Json.quote "required_permissions" ++ ": " =
      ",\n      \"required_permissions\": " := rfl
  have hcloses : Json.newline 2 ++ "\x7d" = "\n    \x7d" := rfl
  unfold writtenEntry Entry.toJson
  rw [Json.indented, memberTexts_eq_map]
  simp only [Json.bracketed, List.map_cons, List.map_nil, List.isEmpty_cons, Bool.false_eq_true, reduceIte,
    String.intercalate_cons_cons, String.intercalate_singleton, indented_str, hrequired, ← hopens, ← hkey, ← hname,
    ← hpermissions, ← hcloses, String.append_assoc, -String.reduceAppend]

theorem text_eq_written {r : Report} : r.text = written r := by
  have hreachable : Json.indented 1 (.arr (r.reachable.map Entry.toJson)) =
      listed "  " (r.reachable.map writtenEntry) := indented_arr (fun _ => indented_entry) rfl rfl
  have hunrecognized : Json.indented 1 (Json.strings r.unrecognized) =
      listed "  " (r.unrecognized.map Json.quote) := indented_arr (fun _ => indented_str) rfl rfl
  have hmillis : (Json.int r.pollMillis).indented 1 = toString r.pollMillis := by
    rw [Json.indented]
    rfl
  have hopens : "\x7b" ++ Json.newline 1 ++ Json.quote "username" ++ ": " = "\x7b\n  \"username\": " := rfl
  have hlanding : "," ++ Json.newline 1 ++ Json.quote "landing_route" ++ ": " = ",\n  \"landing_route\": " := rfl
  have hentries : "," ++ Json.newline 1 ++ Json.quote "reachable" ++ ": " = ",\n  \"reachable\": " := rfl
  have hothers : "," ++ Json.newline 1 ++ Json.quote "unrecognized_permissions" ++ ": " =
      ",\n  \"unrecognized_permissions\": " := rfl
  have hinterval : "," ++ Json.newline 1 ++ Json.quote "session_poll_interval_ms" ++ ": " =
      ",\n  \"session_poll_interval_ms\": " := rfl
  have hcloses : Json.newline 0 ++ "\x7d" ++ "\n" = "\n\x7d\n" := rfl
  unfold written Report.text Report.toJson
  rw [Json.indented, memberTexts_eq_map]
  simp only [Json.bracketed, List.map_cons, List.map_nil, List.isEmpty_cons, Bool.false_eq_true, reduceIte,
    String.intercalate_cons_cons, String.intercalate_singleton, indented_str, hreachable, hunrecognized, hmillis,
    ← hopens, ← hlanding, ← hentries, ← hothers, ← hinterval, ← hcloses, String.append_assoc, -String.reduceAppend]

example : written ⟨"eve", .forbidden, [], ["A", "B"], 30000⟩ = "\x7b
  \"username\": \"eve\",
  \"landing_route\": \"forbidden\",
  \"reachable\": [],
  \"unrecognized_permissions\": [
    \"A\",
    \"B\"
  ],
  \"session_poll_interval_ms\": 30000
\x7d
" := by decide +kernel

/-! ## What is said of a fault -/

theorem hang_append {s t : String} : hang (s ++ t) = hang s ++ hang t := by
  simp only [hang, String.toList_append, List.flatMap_append, String.ofList_append]

/-- A text is made of lines, and each after the first is indented when the text hangs. -/
theorem exists_lines (text : String) : ∃ lines : List String, (∀ line ∈ lines, '\n' ∉ line.toList) ∧
    text = "\n".intercalate lines ∧ hang text = "\n    ".intercalate lines := by
  suffices ∀ l : List Char, ∃ line lines, (∀ x ∈ line :: lines, '\n' ∉ String.toList x) ∧
      String.ofList l = "\n".intercalate (line :: lines) ∧
      hang (String.ofList l) = "\n    ".intercalate (line :: lines) by
    obtain ⟨line, lines, h⟩ := this text.toList
    rw [String.ofList_toList] at h
    exact ⟨_, h⟩
  intro l
  induction l with
  | nil => exact ⟨"", [], by simp, rfl, rfl⟩
  | cons c l ih =>
    obtain ⟨line, lines, hlines, htext, hhang⟩ := ih
    have hcons : String.ofList (c :: l) = String.ofList [c] ++ String.ofList l := by
      rw [← String.ofList_append, List.singleton_append]
    rw [hcons, hang_append, hhang, htext]
    by_cases hc : c = '\n'
    · subst hc
      refine ⟨"", line :: lines, by simpa using hlines, ?_, ?_⟩
      · rw [String.intercalate_cons_cons]
        rfl
      · rw [String.intercalate_cons_cons]
        rfl
    · refine ⟨String.ofList [c] ++ line, lines, ?_, ?_, ?_⟩
      · simp only [List.forall_mem_cons, String.toList_append, String.toList_ofList, List.mem_append,
          List.mem_singleton] at hlines ⊢
        exact ⟨fun h => h.elim (fun h => hc h.symm) hlines.1, hlines.2⟩
      · rw [String.intercalate_cons_append]
      · rw [String.intercalate_cons_append]
        simp [hang, hc]

/-- What is said of a variable goes by the lines that its text is made of. -/
theorem exists_complaint (setting : Setting) (text : String) :
    ∃ lines : List String, (∀ line ∈ lines, '\n' ∉ line.toList) ∧ text = "\n".intercalate lines ∧
      (Failure.config (.invalidDuration setting text)).message = complaint setting lines := by
  obtain ⟨lines, hlines, htext, hhang⟩ := exists_lines text
  refine ⟨lines, hlines, htext, ?_⟩
  have hname : hang setting.envName = setting.envName := by cases setting <;> rfl
  have hmust : hang " must be a positive number of milliseconds, got '" =
      " must be a positive number of milliseconds, got '" := rfl
  have hclose : hang "'" = "'" := rfl
  have hend : "'" ++ "\n" = "'\n" := rfl
  unfold complaint Failure.message ConfigError.message
  simp only [hang_append, hname, hmust, hclose, hhang, ← hend, String.append_assoc, -String.reduceAppend]

theorem message_usage : Failure.usage.message = usage := rfl

end AdminConsole.CommandLine
