import AdminConsole.Json.Reader
import Mathlib.Data.List.Basic

/-!
# Strings in JSON text

What is written between two quotes is read back character by character, whatever the characters are
(`string_quote`), and so is a list of strings (`list_strings`). The readers are given enough steps because no
character and no item is written with less than one character.
-/

namespace AdminConsole.Json

open Reader

variable {c : Char} {cs rest : List Char} {s : String}

/-! ## Blanks -/

theorem isSpace_eq_false (hspace : c ≠ ' ') (hline : c ≠ '\n') (htab : c ≠ '\t') (hreturn : c ≠ '\r') :
    isSpace c = false := by
  simp [isSpace, hspace, hline, htab, hreturn]

theorem skipSpace_cons (h : isSpace c = false) : skipSpace (c :: cs) = c :: cs := by
  simp [skipSpace, h]

theorem token_cons (h : isSpace c = false) : token c (c :: cs) = .ok cs := by
  simp [token, skipSpace_cons h]

/-! ## One character -/

theorem hexValue?_digitChar {n : Nat} (h : n < 16) : Text.hexValue? (Nat.digitChar n) = some n := by
  revert n
  decide

theorem codeUnit_digits {n : Nat} (h : n < 0x20) :
    codeUnit ('0' :: '0' :: Nat.digitChar (n / 16) :: Nat.digitChar (n % 16) :: rest) = .ok (n, rest) := by
  have hzero : Text.hexValue? '0' = some 0 := by decide
  have hhigh : Text.hexValue? (Nat.digitChar (n / 16)) = some (n / 16) := hexValue?_digitChar (by omega)
  have hlow : Text.hexValue? (Nat.digitChar (n % 16)) = some (n % 16) := hexValue?_digitChar (by omega)
  simp only [codeUnit, hzero, hhigh, hlow, Except.ok.injEq, Prod.mk.injEq, and_true]
  omega

/-- Of the four digits of a control character's number, the reader makes what `f` says. -/
def ReadsCode (unicode : Reader Char) (f : Char → Char) : Prop :=
  ∀ (c : Char) (rest : List Char), c.toNat < 0x20 →
    unicode ('0' :: '0' :: Nat.digitChar (c.toNat / 16) :: Nat.digitChar (c.toNat % 16) :: rest) =
      .ok (f c, rest)

theorem readsCode_unicodeEscape : ReadsCode unicodeEscape id := by
  intro c rest h
  have htrailing : isTrailingSurrogate c.toNat = false := by simp [isTrailingSurrogate]; omega
  have hleading : isLeadingSurrogate c.toNat = false := by simp [isLeadingSurrogate]; omega
  simp [unicodeEscape, codeUnit_digits h, htrailing, hleading, bind, Except.bind, pure, Except.pure]

/-- A reader of code units that only looks whether they are well formed. -/
def anyUnit : Reader Char := fun cs => (codeUnit cs).map fun (_, rest) => (' ', rest)

theorem readsCode_anyUnit : ReadsCode anyUnit fun _ => ' ' := by
  intro c rest h
  rw [anyUnit, codeUnit_digits h]
  rfl

/-- The characters that are written by their number. -/
def escapedByCode (c : Char) : Bool := c.toNat < 0x20 && !(c ∈ ['\x08', '\x0c', '\n', '\r', '\t'])

/-- A written character is one step of a reader of strings. -/
theorem stringChar_escapeChar {unicode : Reader Char} {f : Char → Char} (h : ReadsCode unicode f) :
    stringChar unicode (escapeChar c ++ rest) = .ok (some (if escapedByCode c then f c else c), rest) := by
  unfold escapeChar
  split
  · rfl
  · rfl
  · rfl
  · rfl
  · rfl
  · rfl
  · rfl
  · rename_i hquote hbackslash h₁ h₂ h₃ h₄ h₅
    split
    · rename_i hlt
      have hcode : escapedByCode c = true := by
        simpa [escapedByCode, hlt] using ⟨h₁, h₂, h₃, h₄, h₅⟩
      simp [stringChar, hcode, h c rest hlt, bind, Except.bind, pure, Except.pure]
    · rename_i hlt
      have hcode : escapedByCode c = false := by simp [escapedByCode, hlt]
      simp only [List.cons_append, List.nil_append, hcode]
      unfold stringChar
      split <;> simp_all

theorem length_escapeChar_pos : 0 < (escapeChar c).length := by
  unfold escapeChar
  split
  · decide
  · decide
  · decide
  · decide
  · decide
  · decide
  · decide
  · split <;> exact Nat.zero_lt_succ _

/-! ## A whole string -/

theorem toList_quote : (quote s).toList = '"' :: (s.toList.flatMap escapeChar ++ ['"']) := by
  simp [quote]

theorem length_le_flatMap_escapeChar {l : List Char} : l.length ≤ (l.flatMap escapeChar).length := by
  induction l with
  | nil => exact Nat.le_refl _
  | cons c l ih =>
    have := length_escapeChar_pos (c := c)
    simp only [List.flatMap_cons, List.length_append, List.length_cons]
    omega

theorem stringChars_flatMap {unicode : Reader Char} {f : Char → Char} {l : List Char} {fuel : Nat}
    (h : ReadsCode unicode f) (hfuel : l.length < fuel) :
    stringChars unicode fuel (l.flatMap escapeChar ++ '"' :: rest) =
      .ok (l.map fun c => if escapedByCode c then f c else c, rest) := by
  induction l generalizing fuel with
  | nil =>
    obtain ⟨fuel, rfl⟩ := Nat.exists_eq_succ_of_ne_zero (Nat.ne_of_gt hfuel)
    simp [stringChars, stringChar, bind, Except.bind, pure, Except.pure]
  | cons c l ih =>
    obtain ⟨fuel, rfl⟩ := Nat.exists_eq_succ_of_ne_zero (Nat.ne_of_gt (Nat.zero_lt_of_lt hfuel))
    have hl := ih (Nat.lt_of_succ_lt_succ hfuel)
    rw [List.flatMap_cons, List.append_assoc, stringChars]
    simp [stringChar_escapeChar h, hl, bind, Except.bind, pure, Except.pure]

/-- As many steps as the text has characters are enough. -/
theorem length_lt_quoted {l : List Char} : l.length < (l.flatMap escapeChar ++ '"' :: rest).length + 1 := by
  have := length_le_flatMap_escapeChar (l := l)
  rw [List.length_append]
  omega

theorem openString_quoted : openString (s.toList.flatMap escapeChar ++ '"' :: rest) = .ok (s, rest) := by
  rw [openString, stringChars_flatMap readsCode_unicodeEscape length_lt_quoted]
  simp [bind, Except.bind, pure, Except.pure]

theorem skipString_eq : skipString cs = (·.2) <$> stringChars anyUnit (cs.length + 1) cs := by
  rw [skipString, map_eq_pure_bind]
  rfl

theorem skipString_quoted : skipString (s.toList.flatMap escapeChar ++ '"' :: rest) = .ok rest := by
  rw [skipString_eq, stringChars_flatMap readsCode_anyUnit length_lt_quoted]
  rfl

theorem string_quote : string ((quote s).toList ++ rest) = .ok (s, rest) := by
  rw [toList_quote, List.cons_append, List.append_assoc]
  exact openString_quoted

/-! ## Parts between commas -/

/-- The characters of several texts, each behind a comma. -/
def behindCommas (parts : List String) : List Char := parts.flatMap fun part => ',' :: part.toList

theorem behindCommas_cons {part : String} {parts : List String} :
    behindCommas (part :: parts) = ',' :: (part.toList ++ behindCommas parts) := rfl

theorem toList_intercalate_cons {part : String} {parts : List String} :
    (",".intercalate (part :: parts)).toList = part.toList ++ behindCommas parts := by
  have hcomma : ",".toList = [','] := rfl
  rw [String.toList_intercalate, hcomma]
  induction parts generalizing part with
  | nil => simp [behindCommas, List.intercalate]
  | cons next parts ih =>
    simp only [List.map_cons] at ih ⊢
    rw [behindCommas_cons, ← ih]
    simp [List.intercalate]

theorem length_le_behindCommas (parts : List String) : parts.length ≤ (behindCommas parts).length := by
  induction parts with
  | nil => exact Nat.le_refl _
  | cons part parts ih =>
    rw [behindCommas_cons, List.length_cons, List.length_cons, List.length_append]
    omega

theorem compactItems_eq_map {l : List Json} : compactItems l = l.map compact := by
  induction l with
  | nil => rfl
  | cons v l ih => rw [compactItems, ih, List.map_cons]

/-! ## A list of strings -/

theorem items_behindCommas {l : List String} {fuel : Nat} (hfuel : l.length < fuel) :
    items string fuel false (behindCommas (l.map quote) ++ ']' :: rest) = .ok (l, ']' :: rest) := by
  induction l generalizing fuel with
  | nil =>
    obtain ⟨fuel, rfl⟩ := Nat.exists_eq_succ_of_ne_zero (Nat.ne_of_gt hfuel)
    rfl
  | cons s l ih =>
    obtain ⟨fuel, rfl⟩ := Nat.exists_eq_succ_of_ne_zero (Nat.ne_of_gt (Nat.zero_lt_of_lt hfuel))
    have hl := ih (Nat.lt_of_succ_lt_succ hfuel)
    have hnext : ∀ text,
        nextItem false (',' :: ((quote s).toList ++ text)) = .ok (true, (quote s).toList ++ text) :=
      fun text => by rw [toList_quote]; rfl
    rw [List.map_cons, behindCommas_cons, List.cons_append, List.append_assoc, items, hnext]
    simp [string_quote, hl, bind, Except.bind, pure, Except.pure]

theorem list_strings {l : List String} :
    list string ((compact (strings l)).toList ++ rest) = .ok (l, rest) := by
  have hitems : compactItems (l.map str) = l.map quote := by
    rw [compactItems_eq_map, List.map_map]
    rfl
  cases l with
  | nil => rfl
  | cons s l =>
    have htext : (compact (strings (s :: l))).toList ++ rest =
        '[' :: ((quote s).toList ++ (behindCommas (l.map quote) ++ ']' :: rest)) := by
      have harr : compact (strings (s :: l)) = "[" ++ ",".intercalate (quote s :: l.map quote) ++ "]" := by
        rw [strings, compact, hitems, List.map_cons]
      simp only [harr, String.toList_append, toList_intercalate_cons]
      simp
    have hnext : ∀ text, nextItem true ((quote s).toList ++ text) = .ok (true, (quote s).toList ++ text) :=
      fun text => by rw [toList_quote]; rfl
    have hfuel : l.length < ((quote s).toList ++ (behindCommas (l.map quote) ++ ']' :: rest)).length := by
      have := length_le_behindCommas (l.map quote)
      simp only [List.length_append, List.length_cons, List.length_map] at this ⊢
      omega
    rw [htext, list, skipSpace_cons (by rfl)]
    simp only [items, hnext, string_quote, items_behindCommas hfuel, bind, Except.bind, pure, Except.pure]
    simp only [token_cons (by rfl : isSpace ']' = false)]

end AdminConsole.Json
