import AdminConsole.Proofs.Text.Digits
import AdminConsole.Text.Quoted

/-!
# Quoted text told apart

A code is self-delimiting if what it writes for one thing can be told from whatever text comes behind it. So is the
code of a character between quotes, since a reader gets the character back and stops where the next one begins
(`firstChar?_escapeChar`). A sequence of such codes is closed by a character that begins none of them, as the
quote closes a text and the bracket a list (`SelfDelimiting.flatMap_inj`). Hence no two lists of texts look the
same, whatever quotes, commas and brackets there are in the texts (`quotedList_inj`).
-/

namespace AdminConsole.Text

/-- What is written for one thing is not the beginning of something else. -/
def SelfDelimiting {α : Type} (code : α → List Char) : Prop :=
  ∀ a b rest rest', code a ++ rest = code b ++ rest' → a = b ∧ rest = rest'

variable {α : Type} {code : α → List Char} {c stop : Char} {rest rest' : List Char} {n : Nat}

/-- What can be read back, with the text behind it left over, is self-delimiting. -/
theorem SelfDelimiting.of_read {read : List Char → Option (α × List Char)}
    (h : ∀ a rest, read (code a ++ rest) = some (a, rest)) : SelfDelimiting code := by
  intro a b rest rest' heq
  have hread : some (a, rest) = some (b, rest') := by rw [← h, ← h, heq]
  exact Prod.mk.inj (Option.some.inj hread)

theorem SelfDelimiting.behind (h : SelfDelimiting code) (before : List Char) :
    SelfDelimiting fun a => before ++ code a := by
  intro a b rest rest' heq
  rw [List.append_assoc, List.append_assoc] at heq
  exact h a b rest rest' (List.append_cancel_left heq)

/-- A sequence ends where the character stands that begins none of its members. -/
theorem SelfDelimiting.flatMap_inj (h : SelfDelimiting code)
    (hstop : ∀ a rest rest', code a ++ rest ≠ stop :: rest') {l l' : List α}
    (heq : l.flatMap code ++ stop :: rest = l'.flatMap code ++ stop :: rest') : l = l' ∧ rest = rest' := by
  induction l generalizing l' with
  | nil =>
    cases l' with
    | nil => exact ⟨rfl, (List.cons.inj heq).2⟩
    | cons b l' =>
      rw [List.flatMap_cons, List.append_assoc] at heq
      exact absurd heq.symm (hstop b _ _)
  | cons a l ih =>
    rw [List.flatMap_cons, List.append_assoc] at heq
    cases l' with
    | nil => exact absurd heq (hstop a _ _)
    | cons b l' =>
      rw [List.flatMap_cons, List.append_assoc] at heq
      obtain ⟨rfl, htail⟩ := h a b _ _ heq
      obtain ⟨rfl, hrest⟩ := ih htail
      exact ⟨rfl, hrest⟩

/-! ## Characters between quotes -/

/-- The number that is written in hexadecimal digits before a closing brace. -/
def codePoint? (cs : List Char) : Option (Nat × List Char) :=
  ((cs.takeWhile (· != '\x7d')).mapM hexValue?).map fun ds =>
    (ofDigitValues 16 ds, (cs.dropWhile (· != '\x7d')).tail)

/-- The character that stands first between quotes, and what is left behind it. -/
def firstChar? : List Char → Option (Char × List Char)
  | '\\' :: '0' :: rest => some ('\x00', rest)
  | '\\' :: 't' :: rest => some ('\t', rest)
  | '\\' :: 'n' :: rest => some ('\n', rest)
  | '\\' :: 'r' :: rest => some ('\r', rest)
  | '\\' :: 'u' :: '\x7b' :: rest => (codePoint? rest).map fun (n, rest) => (Char.ofNat n, rest)
  | '\\' :: c :: rest => some (c, rest)
  | '"' :: _ => none
  | c :: rest => some (c, rest)
  | [] => none

theorem codePoint?_toDigits : codePoint? (Nat.toDigits 16 n ++ '\x7d' :: rest) = some (n, rest) := by
  obtain ⟨ds, hdigits, hds, rfl⟩ := exists_digits_toDigits (by decide : 1 < 16) n
  have hbrace : ∀ d < 16, (Nat.digitChar d != '\x7d') = true := by decide
  have hall : ∀ c ∈ ds.map Nat.digitChar, (c != '\x7d') = true := by
    intro c hc
    obtain ⟨d, hd, rfl⟩ := List.mem_map.1 hc
    exact hbrace d (hds d hd)
  rw [codePoint?, hdigits, List.takeWhile_append_of_pos hall, List.dropWhile_append_of_pos hall,
    List.takeWhile_cons_of_neg (by decide), List.dropWhile_cons_of_neg (by decide), List.append_nil,
    mapM_hexValue?_map_digitChar hds]
  rfl

/-- A character is read back, whatever stands behind it. -/
theorem firstChar?_escapeChar : firstChar? (escapeChar c ++ rest) = some (c, rest) := by
  unfold escapeChar
  split
  · rfl
  · rfl
  · rfl
  · rfl
  · rfl
  · rfl
  · rename_i hzero htab hline hreturn hquote hbackslash
    split
    · have hcode : codePointEscape c ++ rest =
          '\\' :: 'u' :: '\x7b' :: (Nat.toDigits 16 c.toNat ++ '\x7d' :: rest) := by simp [codePointEscape]
      have hread : firstChar? (codePointEscape c ++ rest) = some (Char.ofNat c.toNat, rest) := by
        rw [hcode, firstChar?, codePoint?_toDigits]
        rfl
      rw [hread, Char.ofNat_toNat]
    · show firstChar? (c :: rest) = some (c, rest)
      unfold firstChar?
      split <;> simp_all

theorem selfDelimiting_escapeChar : SelfDelimiting escapeChar := .of_read fun _ _ => firstChar?_escapeChar

/-- The quote that ends a text is not taken for a character of it. -/
theorem escapeChar_append_ne : escapeChar c ++ rest ≠ '"' :: rest' := by
  intro h
  have hread := congrArg firstChar? h
  rw [firstChar?_escapeChar] at hread
  cases hread

/-! ## Texts and lists of texts -/

theorem toList_quoted {s : String} : (quoted s).toList = '"' :: (s.toList.flatMap escapeChar ++ ['"']) := by
  simp [quoted]

theorem selfDelimiting_quoted : SelfDelimiting fun s => (quoted s).toList := by
  intro s t rest rest' heq
  simp only [toList_quoted, List.cons_append, List.cons.injEq, true_and, List.append_assoc,
    List.nil_append] at heq
  obtain ⟨hchars, hrest⟩ := selfDelimiting_escapeChar.flatMap_inj (fun _ _ _ => escapeChar_append_ne) heq
  exact ⟨String.toList_inj.1 hchars, hrest⟩

/-- The texts of a list from the second one on, each behind a comma and a space. -/
def behindCommas (texts : List String) : List Char := texts.flatMap fun s => [',', ' '] ++ (quoted s).toList

theorem behindCommas_cons {t : String} {texts : List String} :
    behindCommas (t :: texts) = [',', ' '] ++ (quoted t).toList ++ behindCommas texts := rfl

theorem toList_quotedList_nil : (quotedList []).toList = ['[', ']'] := by
  decide

theorem toList_intercalate_quoted {s : String} {texts : List String} :
    (", ".intercalate ((s :: texts).map quoted)).toList = (quoted s).toList ++ behindCommas texts := by
  have hcomma : ", ".toList = [',', ' '] := rfl
  induction texts generalizing s with
  | nil => simp [behindCommas]
  | cons t texts ih =>
    rw [List.map_cons, List.map_cons, String.intercalate_cons_cons, ← List.map_cons, String.toList_append,
      String.toList_append, ih, behindCommas_cons, hcomma]
    simp only [List.append_assoc]

theorem toList_quotedList_cons {s : String} {texts : List String} :
    (quotedList (s :: texts)).toList = '[' :: ((quoted s).toList ++ (behindCommas texts ++ [']'])) := by
  have hopen : "[".toList = ['['] := rfl
  have hclose : "]".toList = [']'] := rfl
  rw [quotedList, String.toList_append, String.toList_append, toList_intercalate_quoted, hopen, hclose,
    List.append_assoc, List.append_assoc, List.singleton_append]

/-- No two lists of texts look the same. -/
theorem quotedList_inj {texts texts' : List String} (h : quotedList texts = quotedList texts') :
    texts = texts' := by
  have hchars := congrArg String.toList h
  cases texts with
  | nil =>
    cases texts' with
    | nil => rfl
    | cons t texts' =>
      rw [toList_quotedList_nil, toList_quotedList_cons, toList_quoted] at hchars
      cases hchars
  | cons s texts =>
    cases texts' with
    | nil =>
      rw [toList_quotedList_nil, toList_quotedList_cons, toList_quoted] at hchars
      cases hchars
    | cons t texts' =>
      rw [toList_quotedList_cons, toList_quotedList_cons] at hchars
      obtain ⟨rfl, htail⟩ := selfDelimiting_quoted _ _ _ _ (List.cons.inj hchars).2
      -- The bracket begins no text, for each of them stands behind a comma.
      have hbracket : ∀ s rest rest', [',', ' '] ++ (quoted s).toList ++ rest ≠ ']' :: rest' := by
        intro s rest rest' heq
        cases heq
      obtain ⟨rfl, -⟩ := (selfDelimiting_quoted.behind [',', ' ']).flatMap_inj hbracket htail
      rfl

end AdminConsole.Text
