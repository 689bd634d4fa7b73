import AdminConsole.Proofs.Json.StringText

/-!
# Values that are passed over

A reader that nobody asked for a value passes over exactly the text of that value, whatever the value is
(`skipValue_compact`). The induction is on the value; what it carries is the number of steps, which is at most
twice the length of the text, so that the reader's own allowance is enough.
-/

namespace AdminConsole.Json

open Reader

variable {c : Char} {cs rest : List Char}

/-- What may come after a value inside a text: nothing, a comma or a closing bracket. -/
def Ends (rest : List Char) : Prop := ∀ c ∈ rest.head?, c = ',' ∨ c = ']' ∨ c = '\x7d'

theorem ends_closing {container : Container} : Ends (container.closing :: rest) := by
  cases container <;> simp [Ends, Container.closing]

theorem ends_behindCommas {container : Container} {parts : List String} :
    Ends (behindCommas parts ++ container.closing :: rest) := by
  cases parts with
  | nil => exact ends_closing
  | cons part parts => simp [Ends, behindCommas_cons]

theorem Ends.not_isDigit (ends : Ends rest) (h : c ∈ rest.head?) : c.isDigit = false := by
  rcases ends c h with rfl | rfl | rfl <;> rfl

/-! ## Numbers -/

theorem head?_toDigits_ne_zero {n : Nat} (h : (Nat.toDigits 10 n).head? = some '0') : n = 0 := by
  induction n using Nat.strongRecOn with
  | ind n ih =>
    rw [Nat.toDigits_eq_if (by decide)] at h
    split at h
    · clear ih
      revert n
      decide
    · rename_i hlt
      rw [List.head?_append_of_ne_nil _ Nat.toDigits_ne_nil] at h
      have := ih (n / 10) (by omega) h
      omega

theorem exists_head_toDigits (n : Nat) : ∃ c cs, Nat.toDigits 10 n = c :: cs ∧ c.isDigit = true := by
  obtain ⟨c, cs, h⟩ := List.exists_cons_of_ne_nil (Nat.toDigits_ne_nil (n := n) (b := 10))
  exact ⟨c, cs, h, Nat.isDigit_of_mem_toDigits (n := n) (b := 10) (by decide) (by decide) (by simp [h])⟩

theorem toList_toString_ofNat {n : Nat} : (toString (Int.ofNat n)).toList = Nat.toDigits 10 n := by
  rw [Int.toString_eq_repr, Int.repr, Nat.toList_repr]

theorem toList_toString_negSucc {n : Nat} :
    (toString (Int.negSucc n)).toList = '-' :: Nat.toDigits 10 (n + 1) := by
  rw [Int.toString_eq_repr, Int.repr]
  simp [Nat.toList_repr]

theorem exists_head_toString (i : Int) :
    ∃ c cs, (toString i).toList = c :: cs ∧ (c = '-' ∨ c.isDigit = true) := by
  cases i with
  | ofNat n =>
    obtain ⟨c, cs, h, hdigit⟩ := exists_head_toDigits n
    exact ⟨c, cs, toList_toString_ofNat.trans h, Or.inr hdigit⟩
  | negSucc n => exact ⟨'-', _, toList_toString_negSucc, Or.inl rfl⟩

theorem ne_of_numeral (h : c = '-' ∨ c.isDigit = true) :
    c ≠ 'n' ∧ c ≠ 't' ∧ c ≠ 'f' ∧ c ≠ '"' ∧ c ≠ ']' ∧ isSpace c = false := by
  have hne : ∀ d : Char, ¬(d = '-' ∨ d.isDigit = true) → c ≠ d := by
    rintro d hd rfl
    exact hd h
  refine ⟨hne _ (by decide), hne _ (by decide), hne _ (by decide), hne _ (by decide), hne _ (by decide), ?_⟩
  exact isSpace_eq_false (hne _ (by decide)) (hne _ (by decide)) (hne _ (by decide)) (hne _ (by decide))

theorem wholeDigits_toDigits {atEnd : TextFault} {n : Nat} (ends : Ends rest) :
    wholeDigits atEnd (Nat.toDigits 10 n ++ rest) = .ok (Nat.toDigits 10 n, rest) := by
  obtain ⟨c, cs, hcs, hc⟩ := exists_head_toDigits n
  by_cases hzero : c = '0'
  · have hn : n = 0 := head?_toDigits_ne_zero (by rw [hcs, hzero]; rfl)
    subst hn
    cases rest with
    | nil => rfl
    | cons d rest => simp [wholeDigits, ends.not_isDigit (c := d) rfl]
  · have hdigits : ∀ d ∈ Nat.toDigits 10 n, d.isDigit = true := fun d =>
      Nat.isDigit_of_mem_toDigits (by decide) (by decide)
    have hrest : rest.takeWhile Char.isDigit = [] ∧ rest.dropWhile Char.isDigit = rest := by
      cases rest with
      | nil => exact ⟨rfl, rfl⟩
      | cons d rest => simp [ends.not_isDigit (c := d) rfl]
    rw [wholeDigits]
    · rw [hcs, List.cons_append, digits1, if_pos hc, ← List.cons_append, ← hcs,
        List.takeWhile_append_of_pos hdigits, List.dropWhile_append_of_pos hdigits, hrest.1, hrest.2,
        List.append_nil]
    · intro rest' h
      rw [hcs] at h
      exact hzero (List.cons.inj h).1

theorem unsignedNumber_toDigits {atEnd : TextFault} {n : Nat} (ends : Ends rest) :
    unsignedNumber atEnd (Nat.toDigits 10 n ++ rest) = .ok (⟨Nat.toDigits 10 n, [], 0⟩, rest) := by
  have hfraction : fraction atEnd rest = .ok ([], rest) := by
    unfold fraction
    split
    · rcases ends '.' rfl with h | h | h <;> cases h
    · rfl
  have hexponent : exponent atEnd rest = .ok (0, rest) := by
    cases rest with
    | nil => rfl
    | cons c rest =>
      have hletter : ¬(c = 'e' ∨ c = 'E') := by
        rcases ends c rfl with rfl | rfl | rfl <;> decide
      exact if_neg hletter
  simp [unsignedNumber, wholeDigits_toDigits ends, hfraction, hexponent, bind, Except.bind, pure, Except.pure]

theorem number_toString {atEnd : TextFault} {i : Int} (ends : Ends rest) :
    ∃ n, number atEnd ((toString i).toList ++ rest) = .ok (n, rest) := by
  cases i with
  | ofNat n =>
    refine ⟨⟨Nat.toDigits 10 n, [], 0⟩, ?_⟩
    rw [toList_toString_ofNat, number]
    · exact unsignedNumber_toDigits ends
    · intro cs h
      obtain ⟨c, cs', hcs, hc⟩ := exists_head_toDigits n
      rw [hcs] at h
      cases h
      cases hc
  | negSucc n =>
    refine ⟨⟨Nat.toDigits 10 (n + 1), [], 0⟩, ?_⟩
    rw [toList_toString_negSucc]
    exact unsignedNumber_toDigits ends

/-! ## Words, numbers and strings -/

theorem skipScalar_bool {b : Bool} :
    skipScalar ((if b then "true" else "false").toList ++ rest) = .ok rest := by
  cases b <;> rfl

theorem skipScalar_int {i : Int} (ends : Ends rest) :
    skipScalar ((toString i).toList ++ rest) = .ok rest := by
  obtain ⟨n, hnumber⟩ := number_toString (i := i) ends
  obtain ⟨c, cs, htext, hc⟩ := exists_head_toString i
  obtain ⟨hn, ht, hf, hquote, -, -⟩ := ne_of_numeral hc
  rw [htext, List.cons_append] at hnumber ⊢
  rw [skipScalar, if_pos hc, hnumber]
  · rfl
  all_goals simp_all

theorem skipScalar_quote {s : String} : skipScalar ((quote s).toList ++ rest) = .ok rest := by
  rw [toList_quote, List.cons_append, List.append_assoc]
  exact skipString_quoted

theorem skipName_quote {s : String} : skipName ((quote s).toList ++ ':' :: rest) = .ok rest := by
  rw [toList_quote]
  simp [skipName, token_cons, isSpace, skipString_quoted, bind, Except.bind]

/-! ## Texts within containers -/

/-- The text is passed over as a value. -/
def Skipped (text : List Char) : Prop :=
  ∃ steps, steps ≤ 2 * text.length ∧ ∀ fuel containers rest, Ends rest →
    skipAll (fuel + steps) containers .value (text ++ rest) = skipAll fuel containers .after rest

/-- The text is passed over as a part of the container, be it the first one or one behind a comma. -/
def Passed (container : Container) (part : List Char) : Prop :=
  ∃ steps, steps ≤ 2 * part.length + 1 ∧ ∀ fuel containers rest, Ends rest →
    skipAll (fuel + steps) (container :: containers) .opened (part ++ rest) =
        skipAll fuel (container :: containers) .after rest ∧
      skipAll (fuel + steps) (container :: containers) .after (',' :: (part ++ rest)) =
        skipAll fuel (container :: containers) .after rest

section
variable {container : Container} {parts : List String} {text : List Char} {fuel : Nat}
  {containers : List Container}

theorem skipAll_scalar (h : skipScalar cs = .ok rest) :
    skipAll (fuel + 1) containers .value cs = skipAll fuel containers .after rest := by
  cases cs with
  | nil => cases h
  | cons c cs =>
    have hspace : isSpace c = false := by
      refine isSpace_eq_false ?_ ?_ ?_ ?_ <;> rintro rfl <;> cases h
    rw [skipAll, skipSpace_cons hspace]
    split
    · rename_i heq
      cases heq
      cases h
    · rename_i heq
      cases heq
      cases h
    · rw [h]
      rfl

theorem skipAll_closing {place : Place} (h : place ≠ .value) :
    skipAll (fuel + 1) (container :: containers) place (container.closing :: rest) =
      skipAll fuel containers .after rest := by
  cases place with
  | value => exact absurd rfl h
  | opened => cases container <;> rfl
  | after => cases container <;> rfl

theorem skipped_scalar (hne : text ≠ []) (h : ∀ rest, Ends rest → skipScalar (text ++ rest) = .ok rest) :
    Skipped text := by
  refine ⟨1, ?_, fun fuel containers rest ends => skipAll_scalar (h rest ends)⟩
  have := List.length_pos_iff.2 hne
  omega

theorem passed_behindCommas (h : ∀ part ∈ parts, Passed container part.toList) :
    ∃ steps, steps ≤ 2 * (behindCommas parts).length ∧ ∀ fuel containers rest,
      skipAll (fuel + steps) (container :: containers) .after
          (behindCommas parts ++ container.closing :: rest) =
        skipAll fuel (container :: containers) .after (container.closing :: rest) := by
  induction parts with
  | nil => exact ⟨0, Nat.zero_le _, fun _ _ _ => rfl⟩
  | cons part parts ih =>
    obtain ⟨first, hfirst, runFirst⟩ := h part List.mem_cons_self
    obtain ⟨others, hothers, runOthers⟩ := ih fun part hpart => h part (List.mem_cons_of_mem _ hpart)
    rw [behindCommas_cons]
    refine ⟨others + first, ?_, fun fuel containers rest => ?_⟩
    · rw [List.length_cons, List.length_append]
      omega
    · rw [List.cons_append, List.append_assoc, ← Nat.add_assoc, (runFirst _ _ _ ends_behindCommas).2,
        runOthers]

/-- A container is passed over if its parts are. -/
theorem skipped_bracketed {opening : Char}
    (hopen : ∀ fuel containers rest, skipAll (fuel + 1) containers .value (opening :: rest) =
      skipAll fuel (container :: containers) .opened rest)
    (h : ∀ part ∈ parts, Passed container part.toList) :
    Skipped (opening :: ((",".intercalate parts).toList ++ [container.closing])) := by
  cases parts with
  | nil =>
    refine ⟨2, by simp, fun fuel containers rest _ => ?_⟩
    exact (hopen _ _ _).trans (skipAll_closing nofun)
  | cons part parts =>
    obtain ⟨first, hfirst, runFirst⟩ := h part List.mem_cons_self
    obtain ⟨others, hothers, runOthers⟩ :=
      passed_behindCommas fun part hpart => h part (List.mem_cons_of_mem _ hpart)
    rw [toList_intercalate_cons]
    refine ⟨1 + others + first + 1, ?_, fun fuel containers rest _ => ?_⟩
    · simp only [List.length_cons, List.length_append, List.length_nil]
      omega
    · have hfuel : fuel + (1 + others + first + 1) = fuel + 1 + others + first + 1 := by omega
      simp only [List.cons_append, List.append_assoc, List.nil_append]
      rw [hfuel, hopen, (runFirst _ _ _ ends_behindCommas).1, runOthers]
      exact skipAll_closing nofun

theorem passed_item (hspace : isSpace c = false) (hne : c ≠ ']') (h : Skipped (c :: text)) :
    Passed .list (c :: text) := by
  obtain ⟨steps, hsteps, run⟩ := h
  refine ⟨steps + 1, by omega, fun fuel containers rest ends => ⟨?_, run _ _ _ ends⟩⟩
  rw [← run _ _ _ ends, ← Nat.add_assoc, List.cons_append, skipAll, skipSpace_cons hspace]
  · simp [Container.closing, hne, bind, Except.bind]
  all_goals simp

theorem passed_member {name : String} (h : Skipped text) :
    Passed .object ((quote name).toList ++ ':' :: text) := by
  obtain ⟨steps, hsteps, run⟩ := h
  refine ⟨steps + 1, ?_, fun fuel containers rest ends => ?_⟩
  · simp only [List.length_append, List.length_cons]
    omega
  · have hname : skipName ((quote name).toList ++ ':' :: (text ++ rest)) = .ok (text ++ rest) :=
      skipName_quote
    rw [← run _ _ _ ends, ← Nat.add_assoc, List.append_assoc, List.cons_append]
    constructor
    · obtain ⟨cs, hquote⟩ : ∃ cs, (quote name).toList = '"' :: cs := ⟨_, toList_quote⟩
      rw [hquote, List.cons_append] at hname ⊢
      rw [skipAll, skipSpace_cons (by rfl)]
      · simp [Container.closing, bind, Except.bind, hname]
      all_goals simp
    · rw [skipAll, skipSpace_cons (by rfl)]
      · simp [Container.closing, bind, Except.bind, hname]
      all_goals simp

end

/-! ## Whole values -/

theorem toList_compact_arr {items : List Json} :
    (compact (arr items)).toList = '[' :: ((",".intercalate (compactItems items)).toList ++ [']']) := by
  simp [compact]

theorem toList_compact_obj {members : List (String × Json)} :
    (compact (obj members)).toList =
      '\x7b' :: ((",".intercalate (compactMembers members)).toList ++ ['\x7d']) := by
  simp [compact]

theorem exists_head_compact (v : Json) :
    ∃ c cs, (compact v).toList = c :: cs ∧ isSpace c = false ∧ c ≠ ']' := by
  cases v with
  | null => exact ⟨'n', _, rfl, rfl, by decide⟩
  | bool b =>
    cases b with
    | false => exact ⟨'f', _, rfl, rfl, by decide⟩
    | true => exact ⟨'t', _, rfl, rfl, by decide⟩
  | int i =>
    obtain ⟨c, cs, htext, hc⟩ := exists_head_toString i
    obtain ⟨-, -, -, -, hne, hspace⟩ := ne_of_numeral hc
    exact ⟨c, cs, htext, hspace, hne⟩
  | str s => exact ⟨'"', _, toList_quote, rfl, by decide⟩
  | arr items => exact ⟨'[', _, toList_compact_arr, rfl, by decide⟩
  | obj members => exact ⟨'\x7b', _, toList_compact_obj, rfl, by decide⟩

mutual

theorem skipped_compact : ∀ v : Json, Skipped (compact v).toList
  | null => skipped_scalar nofun fun _ _ => rfl
  | bool b => skipped_scalar (by cases b <;> nofun) fun _ _ => skipScalar_bool
  | int i => by
    obtain ⟨c, cs, htext, -⟩ := exists_head_toString i
    exact skipped_scalar (by rw [compact, htext]; nofun) fun _ ends => skipScalar_int ends
  | str s => skipped_scalar (by rw [compact, toList_quote]; nofun) fun _ _ => skipScalar_quote
  | arr items => by
    have hopen : ∀ fuel containers rest, skipAll (fuel + 1) containers .value ('[' :: rest) =
        skipAll fuel (.list :: containers) .opened rest := fun _ _ _ => by rw [skipAll]; rfl
    rw [toList_compact_arr]
    exact skipped_bracketed hopen (passed_compactItems items)
  | obj members => by
    have hopen : ∀ fuel containers rest, skipAll (fuel + 1) containers .value ('\x7b' :: rest) =
        skipAll fuel (.object :: containers) .opened rest := fun _ _ _ => by rw [skipAll]; rfl
    rw [toList_compact_obj]
    exact skipped_bracketed hopen (passed_compactMembers members)

theorem passed_compactItems : ∀ items : List Json, ∀ part ∈ compactItems items, Passed .list part.toList
  | [], _, hpart => nomatch hpart
  | v :: items, part, hpart => by
    rcases List.mem_cons.1 hpart with rfl | hpart
    · obtain ⟨c, text, htext, hspace, hne⟩ := exists_head_compact v
      rw [htext]
      exact passed_item hspace hne (htext ▸ skipped_compact v)
    · exact passed_compactItems items part hpart

theorem passed_compactMembers :
    ∀ members : List (String × Json), ∀ part ∈ compactMembers members, Passed .object part.toList
  | [], _, hpart => nomatch hpart
  | (name, v) :: members, part, hpart => by
    rcases List.mem_cons.1 hpart with rfl | hpart
    · have htext : (quote name ++ ":" ++ compact v).toList =
          (quote name).toList ++ ':' :: (compact v).toList := by simp
      rw [htext]
      exact passed_member (skipped_compact v)
    · exact passed_compactMembers members part hpart

end

theorem skipValue_compact {v : Json} (ends : Ends rest) :
    skipValue ((compact v).toList ++ rest) = .ok rest := by
  obtain ⟨steps, hsteps, run⟩ := skipped_compact v
  have hfuel : 2 * ((compact v).toList ++ rest).length + 2 =
      2 * ((compact v).toList ++ rest).length + 1 - steps + 1 + steps := by
    rw [List.length_append]
    omega
  rw [skipValue, hfuel, run _ _ _ ends]
  rfl

end AdminConsole.Json
