import AdminConsole.Config
import Mathlib.Data.List.DropRight

/-!
# What a variable says

A variable gives a setting by a number of milliseconds. Here stands which texts do so (`Denotes`), that the
reader takes exactly these (`millis?_eq_some_iff`), and what configuration or error comes of the texts that a
look-up finds.
-/

namespace AdminConsole

/-! ## Blanks around a text -/

namespace Text

/-- The blanks are taken off both ends of a text that neither starts nor ends with one. -/
theorem trimBlank_append {before body after : List Char} (hbefore : ∀ c ∈ before, isBlank c = true)
    (hafter : ∀ c ∈ after, isBlank c = true) (hhead : ∀ c ∈ body.head?, isBlank c = false)
    (hlast : ∀ c ∈ body.getLast?, isBlank c = false) : trimBlank (before ++ body ++ after) = body := by
  cases body with
  | nil =>
    have hall : ∀ c ∈ before ++ [] ++ after, isBlank c = true := by
      intro c hc
      rcases List.mem_append.1 (by simpa using hc) with hc | hc
      · exact hbefore c hc
      · exact hafter c hc
    rw [trimBlank, List.dropWhile_eq_nil_iff.2 hall]
    rfl
  | cons c cs =>
    have hleft : (before ++ (c :: cs) ++ after).dropWhile isBlank = c :: cs ++ after := by
      rw [List.append_assoc, List.dropWhile_append_of_pos hbefore, List.cons_append]
      exact List.dropWhile_cons_of_neg (by simp [hhead c (by simp)])
    have hright : ((c :: cs).reverse).dropWhile isBlank = (c :: cs).reverse := by
      cases hreverse : (c :: cs).reverse with
      | nil => rfl
      | cons d ds =>
        have hd : (c :: cs).getLast? = some d := by rw [List.getLast?_eq_head?_reverse, hreverse]; rfl
        exact List.dropWhile_cons_of_neg (by simp [hlast d hd])
    rw [trimBlank, hleft, List.reverse_append, List.dropWhile_append_of_pos (by simpa using hafter), hright,
      List.reverse_reverse]

/-- What is taken off both ends of a text is blank. -/
theorem exists_trimBlank (cs : List Char) : ∃ before after, cs = before ++ trimBlank cs ++ after ∧
    (∀ c ∈ before, isBlank c = true) ∧ ∀ c ∈ after, isBlank c = true := by
  refine ⟨cs.takeWhile isBlank, (cs.dropWhile isBlank).rtakeWhile isBlank, ?_, ?_, ?_⟩
  · have hright : trimBlank cs ++ (cs.dropWhile isBlank).rtakeWhile isBlank = cs.dropWhile isBlank :=
      List.rdropWhile_append_rtakeWhile
    rw [List.append_assoc, hright, List.takeWhile_append_dropWhile]
  · exact fun c hc => List.mem_takeWhile_imp hc
  · exact fun c hc => List.mem_rtakeWhile_imp hc

/-- A decimal digit is no blank. -/
theorem isBlank_of_isDigit {c : Char} (h : c.isDigit = true) : isBlank c = false := by
  have hrange : 48 ≤ c.toNat ∧ c.toNat ≤ 57 := by
    simpa [Char.isDigit, UInt32.le_iff_toNat_le] using h
  obtain ⟨hlow, hhigh⟩ := hrange
  simp only [isBlank, blankRanges, List.any_cons, List.any_nil, Bool.or_false, Bool.or_eq_false_iff,
    Bool.and_eq_false_iff, decide_eq_false_iff_not]
  omega

end Text

theorem Period.ext {p q : Period} (h : p.duration = q.duration) : p = q := by
  cases p
  cases q
  cases h
  rfl

namespace Config

/-! ## Numbers of milliseconds -/

/-- The text is a positive number of milliseconds: one or more decimal digits, which a plus sign may precede and
blanks may surround, for a number of 64 bits. -/
def Denotes (text : String) (n : Nat) : Prop :=
  (∃ before sign digits after, text.toList = before ++ (sign ++ digits) ++ after ∧
    (∀ c ∈ before, Text.isBlank c = true) ∧ (sign = [] ∨ sign = ['+']) ∧
    digits ≠ [] ∧ (∀ c ∈ digits, c.isDigit = true) ∧ Text.decimalNumber digits = n ∧
    ∀ c ∈ after, Text.isBlank c = true) ∧ 0 < n ∧ n < UInt64.size

theorem digitsValue?_eq_some_iff {cs : List Char} {n : Nat} :
    digitsValue? cs = some n ↔ cs ≠ [] ∧ (∀ c ∈ cs, c.isDigit = true) ∧ Text.decimalNumber cs = n := by
  unfold digitsValue?
  split
  · rename_i h
    have hbad : cs = [] ∨ ∃ c ∈ cs, c.isDigit = false := by simpa using h
    constructor
    · nofun
    · rintro ⟨hne, hdigits, -⟩
      rcases hbad with h | ⟨c, hc, hdigit⟩
      · exact absurd h hne
      · cases hdigit.symm.trans (hdigits c hc)
  · rename_i h
    have hgood : cs ≠ [] ∧ ∀ c ∈ cs, c.isDigit = true := by simpa using h
    rw [Option.some.injEq]
    exact ⟨fun hn => ⟨hgood.1, hgood.2, hn⟩, fun hn => hn.2.2⟩

theorem number?_eq_some_iff {cs : List Char} {n : Nat} :
    number? cs = some n ↔ ∃ sign digits, cs = sign ++ digits ∧ (sign = [] ∨ sign = ['+']) ∧
      digits ≠ [] ∧ (∀ c ∈ digits, c.isDigit = true) ∧ Text.decimalNumber digits = n := by
  unfold number?
  split
  · rename_i rest
    rw [digitsValue?_eq_some_iff]
    constructor
    · intro h
      exact ⟨['+'], rest, rfl, Or.inr rfl, h⟩
    · rintro ⟨sign, digits, heq, rfl | rfl, hne, hdigits, hn⟩
      · -- The plus sign is no digit.
        have hmem : '+' ∈ digits := by rw [← show '+' :: rest = digits from heq]; exact List.mem_cons_self
        cases hdigits '+' hmem
      · obtain rfl : rest = digits := by simpa using heq
        exact ⟨hne, hdigits, hn⟩
  · rename_i hplus
    rw [digitsValue?_eq_some_iff]
    constructor
    · intro h
      exact ⟨[], cs, rfl, Or.inl rfl, h⟩
    · rintro ⟨sign, digits, rfl, rfl | rfl, h⟩
      · exact h
      · exact absurd rfl (hplus digits)

theorem millis?_eq_some_iff_number? {raw : String} {n : { n : Nat // 0 < n }} :
    millis? raw = some n ↔ number? (Text.trimBlank raw.toList) = some n.1 ∧ n.1 < UInt64.size := by
  unfold millis?
  split
  · rename_i m hm
    rw [hm]
    split
    · rename_i h
      constructor
      · intro heq
        cases heq
        exact ⟨rfl, h.2⟩
      · rintro ⟨heq, -⟩
        exact congrArg some (Subtype.ext (Option.some.inj heq))
    · rename_i h
      constructor
      · nofun
      · rintro ⟨heq, hlt⟩
        cases heq
        exact absurd ⟨n.2, hlt⟩ h
  · rename_i hnone
    simp [hnone]

/-- The reader takes the texts that are a positive number of milliseconds, for that number. -/
theorem millis?_eq_some_iff {raw : String} {n : { n : Nat // 0 < n }} :
    millis? raw = some n ↔ Denotes raw n := by
  rw [millis?_eq_some_iff_number?, number?_eq_some_iff]
  constructor
  · rintro ⟨⟨sign, digits, heq, hsign, hne, hdigits, hn⟩, hlt⟩
    obtain ⟨before, after, htext, hbefore, hafter⟩ := Text.exists_trimBlank raw.toList
    rw [heq] at htext
    exact ⟨⟨before, sign, digits, after, htext, hbefore, hsign, hne, hdigits, hn, hafter⟩, n.2, hlt⟩
  · rintro ⟨⟨before, sign, digits, after, htext, hbefore, hsign, hne, hdigits, hn, hafter⟩, -, hlt⟩
    refine ⟨⟨sign, digits, ?_, hsign, hne, hdigits, hn⟩, hlt⟩
    rw [htext]
    refine Text.trimBlank_append hbefore hafter ?_ ?_
    · intro c hc
      rcases hsign with rfl | rfl
      · exact Text.isBlank_of_isDigit (hdigits c (List.mem_of_mem_head? hc))
      · cases hc
        decide
    · intro c hc
      rw [List.getLast?_append_of_ne_nil _ hne] at hc
      exact Text.isBlank_of_isDigit (hdigits c (List.mem_of_getLast? hc))

theorem millis?_eq_none_iff {raw : String} : millis? raw = none ↔ ∀ n, ¬Denotes raw n := by
  constructor
  · intro h n hn
    have hsome : millis? raw = some ⟨n, hn.2.1⟩ := millis?_eq_some_iff.2 hn
    cases h.symm.trans hsome
  · intro h
    cases hraw : millis? raw with
    | none => rfl
    | some n => exact absurd (millis?_eq_some_iff.1 hraw) (h n)

/-- A text is no two numbers. -/
theorem Denotes.unique {text : String} {m n : Nat} (hm : Denotes text m) (hn : Denotes text n) : m = n := by
  have hsome : millis? text = some ⟨m, hm.2.1⟩ := millis?_eq_some_iff.2 hm
  have hother : millis? text = some ⟨n, hn.2.1⟩ := millis?_eq_some_iff.2 hn
  exact congrArg Subtype.val (Option.some.inj (hsome.symm.trans hother))

/-! ## One setting and both -/

section
variable {lookup : String → Option String} {setting : Setting} {p : Period} {c : Config} {e : ConfigError}

/-- A setting has its standard value if its variable is not found, and else the value that the variable says. -/
theorem read_eq_ok_iff : read lookup setting = .ok p ↔
    (lookup setting.envName = none ∧ p = standard.get setting) ∨
    ∃ text n, lookup setting.envName = some text ∧ Denotes text n ∧ p.duration = .ofMillis n := by
  unfold read
  split
  · rename_i hnone
    simp [hnone, eq_comm]
  · rename_i raw hraw
    rw [hraw]
    split
    · rename_i n hn
      constructor
      · intro h
        cases h
        exact Or.inr ⟨raw, n, rfl, millis?_eq_some_iff.1 hn, rfl⟩
      · rintro (⟨h, -⟩ | ⟨text, m, h, hm, hp⟩)
        · cases h
        · cases h
          have hnm : n.1 = m := (millis?_eq_some_iff.1 hn).unique hm
          exact congrArg Except.ok (Period.ext (by rw [hp, ← hnm]; rfl))
    · rename_i hn
      constructor
      · nofun
      · rintro (⟨h, -⟩ | ⟨text, m, h, hm, -⟩)
        · cases h
        · cases h
          exact absurd hm (millis?_eq_none_iff.1 hn m)

/-- The variable of the setting is found, with a text that says no number. -/
def Offends (lookup : String → Option String) (setting : Setting) (text : String) : Prop :=
  lookup setting.envName = some text ∧ ∀ n, ¬Denotes text n

theorem read_eq_error_iff : read lookup setting = .error e ↔
    ∃ text, Offends lookup setting text ∧ e = .invalidDuration setting text := by
  unfold read
  split
  · rename_i hnone
    simp [Offends, hnone]
  · rename_i raw hraw
    unfold Offends
    rw [hraw]
    split
    · rename_i n hn
      constructor
      · nofun
      · rintro ⟨text, ⟨h, hbad⟩, -⟩
        cases h
        exact absurd (millis?_eq_some_iff.1 hn) (hbad n)
    · rename_i hn
      constructor
      · intro h
        cases h
        exact ⟨raw, ⟨rfl, millis?_eq_none_iff.1 hn⟩, rfl⟩
      · rintro ⟨text, ⟨h, -⟩, rfl⟩
        cases h
        rfl

/-- A setting has a value unless its variable offends. -/
theorem exists_read_iff : (∃ p, read lookup setting = .ok p) ↔ ∀ text, ¬Offends lookup setting text := by
  constructor
  · rintro ⟨p, hp⟩ text htext
    cases hp.symm.trans (read_eq_error_iff.2 ⟨text, htext, rfl⟩)
  · intro h
    cases hread : read lookup setting with
    | ok p => exact ⟨p, rfl⟩
    | error e =>
      obtain ⟨text, htext, -⟩ := read_eq_error_iff.1 hread
      exact absurd htext (h text)

theorem ofLookup_eq_ok_iff :
    ofLookup lookup = .ok c ↔ ∀ setting, read lookup setting = .ok (c.get setting) := by
  unfold ofLookup
  cases hpoll : read lookup .pollInterval with
  | error e =>
    constructor
    · nofun
    · intro h
      cases hpoll.symm.trans (h .pollInterval)
  | ok poll =>
    cases htimeout : read lookup .requestTimeout with
    | error e =>
      constructor
      · nofun
      · intro h
        cases htimeout.symm.trans (h .requestTimeout)
    | ok timeout =>
      constructor
      · intro h setting
        cases h
        cases setting with
        | pollInterval => exact hpoll
        | requestTimeout => exact htimeout
      · intro h
        cases hpoll.symm.trans (h .pollInterval)
        cases htimeout.symm.trans (h .requestTimeout)
        rfl

/-- The poll interval is examined first: of two variables that offend its is the one that is named. -/
theorem ofLookup_eq_error_iff : ofLookup lookup = .error e ↔
    ∃ setting text, Offends lookup setting text ∧ e = .invalidDuration setting text ∧
      (setting = .requestTimeout → ∀ other, ¬Offends lookup .pollInterval other) := by
  have hreads : ofLookup lookup = .error e ↔ read lookup .pollInterval = .error e ∨
      (∃ p, read lookup .pollInterval = .ok p) ∧ read lookup .requestTimeout = .error e := by
    unfold ofLookup
    cases read lookup .pollInterval with
    | error e' => simp [bind, Except.bind]
    | ok poll =>
      cases read lookup .requestTimeout with
      | error e' => simp [bind, Except.bind]
      | ok timeout => simp [bind, Except.bind, pure, Except.pure]
  rw [hreads, read_eq_error_iff, read_eq_error_iff, exists_read_iff]
  constructor
  · rintro (⟨text, h, rfl⟩ | ⟨hpoll, text, h, rfl⟩)
    · exact ⟨.pollInterval, text, h, rfl, nofun⟩
    · exact ⟨.requestTimeout, text, h, rfl, fun _ => hpoll⟩
  · rintro ⟨setting, text, h, rfl, hpoll⟩
    cases setting with
    | pollInterval => exact Or.inl ⟨text, h, rfl⟩
    | requestTimeout => exact Or.inr ⟨hpoll rfl, text, h, rfl⟩

end

end Config

end AdminConsole
