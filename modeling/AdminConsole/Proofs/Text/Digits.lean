import AdminConsole.Text.Digits
import Mathlib.Data.List.Induction
import Mathlib.Data.List.Lex
import Mathlib.Data.String.Basic
import Mathlib.Tactic.Ring

/-!
# Numbers by their digits

Digits of one length, the most significant first, are ordered as the numbers that they denote
(`ofDigitValues_lt_iff`), and so each number has one such sequence. The hexadecimal digits keep this order as
characters, and a reader of them takes capital letters for small ones.
-/

namespace AdminConsole.Text

/-! ## Values -/

/-- The values of the last `count` digits of `n`, the most significant first. -/
def digitValues (base : Nat) : Nat → Nat → List Nat
  | 0, _ => []
  | count + 1, n => digitValues base count (n / base) ++ [n % base]

section
variable {base count n : Nat} {d : Nat} {ds es : List Nat}

theorem digits_eq_map : digits base count n = (digitValues base count n).map Nat.digitChar := by
  induction count generalizing n with
  | zero => rfl
  | succ count ih => simp [digits, digitValues, ih]

@[simp] theorem length_digitValues : (digitValues base count n).length = count := by
  induction count generalizing n with
  | zero => rfl
  | succ count ih => simp [digitValues, ih]

theorem lt_of_mem_digitValues (hbase : 0 < base) (h : d ∈ digitValues base count n) : d < base := by
  induction count generalizing n with
  | zero => cases h
  | succ count ih =>
    rw [digitValues, List.mem_append, List.mem_singleton] at h
    rcases h with h | rfl
    · exact ih h
    · exact Nat.mod_lt n hbase

theorem ofDigitValues_append_singleton :
    ofDigitValues base (ds ++ [d]) = base * ofDigitValues base ds + d := by
  simp [ofDigitValues]

theorem ofDigitValues_cons :
    ofDigitValues base (d :: ds) = d * base ^ ds.length + ofDigitValues base ds := by
  induction ds using List.reverseRecOn with
  | nil => simp [ofDigitValues]
  | append_singleton ds e ih =>
    rw [← List.cons_append, ofDigitValues_append_singleton, ih, ofDigitValues_append_singleton,
      List.length_append, List.length_singleton, pow_succ]
    ring

theorem ofDigitValues_digitValues : ofDigitValues base (digitValues base count n) = n % base ^ count := by
  induction count generalizing n with
  | zero => simp [digitValues, ofDigitValues, Nat.mod_one]
  | succ count ih =>
    rw [digitValues, ofDigitValues_append_singleton, ih, Nat.pow_succ', Nat.mod_mul]
    omega

theorem ofDigitValues_lt (h : ∀ d ∈ ds, d < base) : ofDigitValues base ds < base ^ ds.length := by
  induction ds with
  | nil => simp [ofDigitValues]
  | cons d ds ih =>
    have hd : d + 1 ≤ base := h d List.mem_cons_self
    have hds := ih fun e he => h e (List.mem_cons_of_mem d he)
    calc ofDigitValues base (d :: ds) = d * base ^ ds.length + ofDigitValues base ds := ofDigitValues_cons
      _ < d * base ^ ds.length + base ^ ds.length := Nat.add_lt_add_left hds _
      _ = (d + 1) * base ^ ds.length := (Nat.succ_mul _ _).symm
      _ ≤ base * base ^ ds.length := Nat.mul_le_mul_right _ hd
      _ = base ^ (d :: ds).length := (Nat.pow_succ').symm

/-- Of two sequences of one length the first difference decides. -/
theorem ofDigitValues_lt_iff (hlength : ds.length = es.length) (hds : ∀ d ∈ ds, d < base)
    (hes : ∀ e ∈ es, e < base) : ofDigitValues base ds < ofDigitValues base es ↔ ds < es := by
  induction ds generalizing es with
  | nil =>
    cases es with
    | nil => simp
    | cons e es => cases hlength
  | cons d ds ih =>
    cases es with
    | nil => cases hlength
    | cons e es =>
      have hlen : ds.length = es.length := Nat.succ.inj hlength
      have hds' : ∀ x ∈ ds, x < base := fun x hx => hds x (List.mem_cons_of_mem d hx)
      have hes' : ∀ x ∈ es, x < base := fun x hx => hes x (List.mem_cons_of_mem e hx)
      have hdslt := ofDigitValues_lt hds'
      have heslt := ofDigitValues_lt hes'
      rw [List.cons_lt_cons_iff, ← ih hlen hds' hes', ofDigitValues_cons, ofDigitValues_cons, hlen]
      rw [hlen] at hdslt
      rcases Nat.lt_trichotomy d e with hlt | rfl | hlt
      · -- A smaller digit is worth more than all that may follow the other one.
        have hstep : (d + 1) * base ^ es.length ≤ e * base ^ es.length := Nat.mul_le_mul_right _ hlt
        rw [Nat.succ_mul] at hstep
        have : d * base ^ es.length + ofDigitValues base ds < e * base ^ es.length + ofDigitValues base es := by
          omega
        simp [this, hlt]
      · simp
      · have hstep : (e + 1) * base ^ es.length ≤ d * base ^ es.length := Nat.mul_le_mul_right _ hlt
        rw [Nat.succ_mul] at hstep
        have hno : ¬d * base ^ es.length + ofDigitValues base ds <
            e * base ^ es.length + ofDigitValues base es := by omega
        simp [hno, Nat.lt_asymm hlt, Nat.ne_of_gt hlt]

theorem ofDigitValues_inj (hlength : ds.length = es.length) (hds : ∀ d ∈ ds, d < base)
    (hes : ∀ e ∈ es, e < base) (h : ofDigitValues base ds = ofDigitValues base es) : ds = es := by
  rcases lt_trichotomy ds es with hlt | heq | hlt
  · exact absurd h (Nat.ne_of_lt ((ofDigitValues_lt_iff hlength hds hes).2 hlt))
  · exact heq
  · exact absurd h (Nat.ne_of_gt ((ofDigitValues_lt_iff hlength.symm hes hds).2 hlt))

/-- A sequence of digits is the one of the number that it denotes. -/
theorem digitValues_ofDigitValues (h : ∀ d ∈ ds, d < base) :
    digitValues base ds.length (ofDigitValues base ds) = ds := by
  cases ds with
  | nil => rfl
  | cons d ds =>
    have hbase : 0 < base := Nat.zero_lt_of_lt (h d List.mem_cons_self)
    refine ofDigitValues_inj length_digitValues (fun _ => lt_of_mem_digitValues hbase) h ?_
    rw [ofDigitValues_digitValues, Nat.mod_eq_of_lt (ofDigitValues_lt h)]

/-- The digits of a number without leading zeros. -/
theorem exists_digits_toDigits (hbase : 1 < base) (n : Nat) :
    ∃ ds, Nat.toDigits base n = ds.map Nat.digitChar ∧ (∀ d ∈ ds, d < base) ∧ ofDigitValues base ds = n := by
  induction n using Nat.strongRecOn with
  | ind n ih =>
    rw [Nat.toDigits_eq_if hbase]
    split
    · rename_i hlt
      exact ⟨[n], rfl, by simpa using hlt, by simp [ofDigitValues]⟩
    · rename_i hge
      have hless : n / base < n := Nat.div_lt_self (by omega) hbase
      obtain ⟨ds, hdigits, hds, hvalue⟩ := ih (n / base) hless
      refine ⟨ds ++ [n % base], by simp [hdigits], ?_, ?_⟩
      · intro d hd
        rcases List.mem_append.1 hd with hd | hd
        · exact hds d hd
        · cases List.mem_singleton.1 hd
          exact Nat.mod_lt n (by omega)
      · rw [ofDigitValues_append_singleton, hvalue, Nat.div_add_mod]

theorem digitValues_lt_iff {m : Nat} (hbase : 0 < base) (hm : m < base ^ count) (hn : n < base ^ count) :
    digitValues base count m < digitValues base count n ↔ m < n := by
  have hlength : (digitValues base count m).length = (digitValues base count n).length := by
    rw [length_digitValues, length_digitValues]
  rw [← ofDigitValues_lt_iff hlength (fun _ => lt_of_mem_digitValues hbase)
    (fun _ => lt_of_mem_digitValues hbase), ofDigitValues_digitValues, ofDigitValues_digitValues,
    Nat.mod_eq_of_lt hm, Nat.mod_eq_of_lt hn]

end

/-! ## Hexadecimal characters -/

section
variable {c : Char} {d e : Nat} {cs : List Char} {ds es : List Nat}

theorem toNat_digitChar (h : d < 16) :
    (Nat.digitChar d).toNat = if d < 10 then 48 + d else 87 + d := by
  revert d
  decide

theorem toNat_toLower :
    c.toLower.toNat = if 65 ≤ c.toNat ∧ c.toNat ≤ 90 then c.toNat + 32 else c.toNat := by
  have hcapital : c.val ≥ 'A'.val ∧ c.val ≤ 'Z'.val ↔ 65 ≤ c.toNat ∧ c.toNat ≤ 90 := by
    simp only [ge_iff_le, UInt32.le_iff_toNat_le]
    rfl
  unfold Char.toLower
  by_cases h : 65 ≤ c.toNat ∧ c.toNat ≤ 90
  · rw [dif_pos (hcapital.2 h), if_pos h]
    have hval : c.val.toNat = c.toNat := rfl
    have hstep : (32 : UInt32).toNat = 32 := rfl
    have hadd : (c.val + 32).toNat = c.toNat + 32 := by
      rw [UInt32.toNat_add, hval, hstep]
      omega
    exact hadd
  · rw [dif_neg (mt hcapital.1 h), if_neg h]

theorem hexValue?_eq : hexValue? c =
    if 48 ≤ c.toNat ∧ c.toNat ≤ 57 then some (c.toNat - 48)
    else if 97 ≤ c.toNat ∧ c.toNat ≤ 102 then some (c.toNat - 97 + 10)
    else if 65 ≤ c.toNat ∧ c.toNat ≤ 70 then some (c.toNat - 65 + 10)
    else none := by
  simp only [hexValue?, decimalValue, Char.le_def, UInt32.le_iff_toNat_le]
  rfl

/-- A character is read as the digit that it is in lower case. -/
theorem hexValue?_eq_some_iff : hexValue? c = some d ↔ d < 16 ∧ c.toLower = Nat.digitChar d := by
  rw [hexValue?_eq]
  constructor
  · intro h
    have hd : d < 16 := by grind
    refine ⟨hd, Char.toNat_inj.1 ?_⟩
    rw [toNat_digitChar hd, toNat_toLower]
    grind
  · rintro ⟨hd, h⟩
    have hnat : c.toLower.toNat = (Nat.digitChar d).toNat := congrArg Char.toNat h
    rw [toNat_digitChar hd, toNat_toLower] at hnat
    grind

theorem mapM_hexValue?_eq_some_iff : cs.mapM hexValue? = some ds ↔
    (∀ d ∈ ds, d < 16) ∧ cs.map Char.toLower = ds.map Nat.digitChar := by
  induction cs generalizing ds with
  | nil => cases ds <;> simp
  | cons c cs ih =>
    cases ds with
    | nil => simp [List.mapM_cons, Option.bind_eq_some_iff]
    | cons d ds =>
      have hcons : (c :: cs).mapM hexValue? = some (d :: ds) ↔
          hexValue? c = some d ∧ cs.mapM hexValue? = some ds := by
        simp [List.mapM_cons, Option.bind_eq_some_iff]
      rw [hcons, hexValue?_eq_some_iff, ih]
      simp only [List.forall_mem_cons, List.map_cons, List.cons.injEq]
      tauto

/-- Digits are written in lower case and read back. -/
theorem mapM_hexValue?_map_digitChar (h : ∀ d ∈ ds, d < 16) : (ds.map Nat.digitChar).mapM hexValue? = some ds := by
  have hlower : ∀ d < 16, (Nat.digitChar d).toLower = Nat.digitChar d := by decide
  refine mapM_hexValue?_eq_some_iff.2 ⟨h, ?_⟩
  rw [List.map_map]
  exact List.map_congr_left fun d hd => hlower d (h d hd)

theorem digitChar_lt_iff (hd : d < 16) (he : e < 16) : Nat.digitChar d < Nat.digitChar e ↔ d < e := by
  have hall : ∀ d < 16, ∀ e < 16, Nat.digitChar d < Nat.digitChar e ↔ d < e := by decide
  exact hall d hd e he

theorem digitChar_inj (hd : d < 16) (he : e < 16) : Nat.digitChar d = Nat.digitChar e ↔ d = e := by
  have hall : ∀ d < 16, ∀ e < 16, Nat.digitChar d = Nat.digitChar e ↔ d = e := by decide
  exact hall d hd e he

theorem map_digitChar_lt_iff (hds : ∀ d ∈ ds, d < 16) (hes : ∀ e ∈ es, e < 16) :
    ds.map Nat.digitChar < es.map Nat.digitChar ↔ ds < es := by
  induction ds generalizing es with
  | nil => cases es <;> simp
  | cons d ds ih =>
    cases es with
    | nil => simp
    | cons e es =>
      obtain ⟨hd, hds⟩ := List.forall_mem_cons.1 hds
      obtain ⟨he, hes⟩ := List.forall_mem_cons.1 hes
      rw [List.map_cons, List.map_cons, List.cons_lt_cons_iff, List.cons_lt_cons_iff, ih hds hes,
        digitChar_lt_iff hd he, digitChar_inj hd he]

end

end AdminConsole.Text
