import AdminConsole.Proofs.Json.StringText
import AdminConsole.Proofs.Text.Digits
import AdminConsole.Wire

/-!
# The text of an identifier

An identifier is read from 32 digits in one of four forms, and no other text is an identifier (`Spells`). Of its
spellings one is written: small letters in groups. Texts of this form are ordered as the numbers, since the
hyphens stand in the same places and the digits are ordered as their values.
-/

namespace AdminConsole.NotificationId

/-! ## Spellings -/

/-- The digits in groups of 8, 4, 4, 4 and 12 with hyphens between the groups. -/
def Hyphenated (ds cs : List Char) : Prop :=
  ∃ g₁ g₂ g₃ g₄ g₅ : List Char,
    (g₁.length = 8 ∧ g₂.length = 4 ∧ g₃.length = 4 ∧ g₄.length = 4 ∧ g₅.length = 12) ∧
    ds = g₁ ++ g₂ ++ g₃ ++ g₄ ++ g₅ ∧
    cs = g₁ ++ '-' :: (g₂ ++ '-' :: (g₃ ++ '-' :: (g₄ ++ '-' :: g₅)))

/-- The texts that give the digits. -/
inductive Form (ds : List Char) : List Char → Prop
  | bare (length : ds.length = 32) : Form ds ds
  | hyphenated {cs : List Char} (hyphenated : Hyphenated ds cs) : Form ds cs
  | braced {cs : List Char} (hyphenated : Hyphenated ds cs) : Form ds ('\x7b' :: (cs ++ ['\x7d']))
  | named {scheme cs : List Char} (scheme_eq : scheme.map Char.toLower = urnScheme)
      (hyphenated : Hyphenated ds cs) : Form ds (scheme ++ cs)

/-- The text gives the identifier's digits, with letters of either case. -/
def Spells (text : String) (id : NotificationId) : Prop :=
  ∃ ds, Form ds text.toList ∧ ds.map Char.toLower = id.digits

/-- The sixteen bytes, the most significant first. -/
def bytes (id : NotificationId) : List Nat := Text.digitValues 256 16 id.bits.toNat

section
variable {id a b : NotificationId} {cs ds es body : List Char} {sizes : List Nat} {text : String}

/-! ## Digits -/

theorem ext {a b : NotificationId} (h : a.bits = b.bits) : a = b := by
  cases a
  cases b
  exact congrArg mk h

theorem bits_lt (id : NotificationId) : id.bits.toNat < 16 ^ 32 := id.bits.isLt

@[simp] theorem length_digits : id.digits.length = 32 := Text.length_digits 16 32 _

theorem digits_eq_map : id.digits = (Text.digitValues 16 32 id.bits.toNat).map Nat.digitChar :=
  Text.digits_eq_map

theorem digit_lt {d : Nat} (h : d ∈ Text.digitValues 16 32 id.bits.toNat) : d < 16 :=
  Text.lt_of_mem_digitValues (by decide) h

/-- Of 32 values that are digits none is lost in 128 bits. -/
theorem digits_mk {values : List Nat} (hlt : ∀ d ∈ values, d < 16) (hcount : values.length = 32) :
    digits ⟨.ofNat 128 (Text.ofDigitValues 16 values)⟩ = values.map Nat.digitChar := by
  have hbound : Text.ofDigitValues 16 values < 2 ^ 128 := by
    have := Text.ofDigitValues_lt hlt
    rwa [hcount] at this
  rw [digits_eq_map, BitVec.toNat_ofNat, Nat.mod_eq_of_lt hbound, ← hcount,
    Text.digitValues_ofDigitValues hlt]

theorem length_of_map_toLower (h : ds.map Char.toLower = id.digits) : ds.length = 32 := by
  rw [← List.length_map (f := Char.toLower), h, length_digits]

/-- Digits of either case are those of the identifier that they are read as. -/
theorem ofDigits?_eq_some_iff : ofDigits? ds = some id ↔ ds.map Char.toLower = id.digits := by
  constructor
  · intro h
    rw [ofDigits?] at h
    split at h
    · next hlength =>
      obtain ⟨values, hvalues, rfl⟩ := Option.map_eq_some_iff.1 h
      obtain ⟨hlt, hmap⟩ := Text.mapM_hexValue?_eq_some_iff.1 hvalues
      have hcount : values.length = 32 := by
        have := congrArg List.length hmap
        rwa [List.length_map, List.length_map, hlength, eq_comm] at this
      rw [hmap, digits_mk hlt hcount]
    · cases h
  · intro h
    have hvalues : ds.mapM Text.hexValue? = some (Text.digitValues 16 32 id.bits.toNat) :=
      Text.mapM_hexValue?_eq_some_iff.2 ⟨fun _ => digit_lt, h.trans digits_eq_map⟩
    rw [ofDigits?, if_pos (length_of_map_toLower h), hvalues, Option.map_some,
      Text.ofDigitValues_digitValues, Nat.mod_eq_of_lt id.bits_lt]
    exact congrArg some (ext ((BitVec.ofNat_toNat ..).trans (BitVec.setWidth_eq _)))

theorem toLower_of_mem_digits {c : Char} (h : c ∈ id.digits) : c.toLower = c := by
  rw [digits_eq_map] at h
  obtain ⟨d, hd, rfl⟩ := List.mem_map.1 h
  exact (Text.hexValue?_eq_some_iff.1 (Json.hexValue?_digitChar (digit_lt hd))).2

theorem map_toLower_eq_self (h : ∀ c ∈ ds, c.toLower = c) : ds.map Char.toLower = ds :=
  (List.map_congr_left h).trans (List.map_id ds)

/-! ## Groups -/

theorem group_cons_cons {n m : Nat} : group (n :: m :: sizes) ds =
    ds.take n ++ '-' :: group (m :: sizes) (ds.drop n) := rfl

theorem ungroup?_cons_cons {n m : Nat} : ungroup? (n :: m :: sizes) cs = some ds ↔
    ∃ rest es, cs.drop n = '-' :: rest ∧ ungroup? (m :: sizes) rest = some es ∧ ds = cs.take n ++ es := by
  rw [ungroup?]
  · split
    · next rest hrest =>
      rw [Option.map_eq_some_iff, hrest]
      constructor
      · rintro ⟨es, hes, rfl⟩
        exact ⟨rest, es, rfl, hes, rfl⟩
      · rintro ⟨rest', es, heq, hes, rfl⟩
        cases heq
        exact ⟨es, hes, rfl⟩
    · next hno =>
      constructor
      · nofun
      · rintro ⟨rest, es, hrest, -, -⟩
        exact absurd hrest (hno rest)
  · nofun

/-- Taking the hyphens out undoes grouping, and only of grouped digits can they be taken out. -/
theorem ungroup?_eq_some_iff : ungroup? sizes cs = some ds ↔
    ds.length = sizes.sum ∧ cs = group sizes ds := by
  induction sizes generalizing cs ds with
  | nil => cases cs <;> cases ds <;> simp [ungroup?, group]
  | cons n sizes ih =>
    cases sizes with
    | nil =>
      simp only [ungroup?, group, List.sum_cons, List.sum_nil, Nat.add_zero, Option.ite_none_right_eq_some,
        Option.some.injEq]
      constructor
      · rintro ⟨hlength, rfl⟩
        exact ⟨hlength, rfl⟩
      · rintro ⟨hlength, rfl⟩
        exact ⟨hlength, rfl⟩
    | cons m sizes =>
      rw [ungroup?_cons_cons, List.sum_cons, group_cons_cons]
      constructor
      · rintro ⟨rest, es, hrest, hes, rfl⟩
        obtain ⟨hlength, rfl⟩ := ih.1 hes
        have hn : (cs.take n).length = n := by
          have := congrArg List.length hrest
          rw [List.length_drop, List.length_cons] at this
          rw [List.length_take]
          omega
        refine ⟨by rw [List.length_append, hn, hlength], ?_⟩
        rw [List.take_left' hn, List.drop_left' hn, ← hrest, List.take_append_drop]
      · rintro ⟨hlength, rfl⟩
        have hn : (ds.take n).length = n := by
          rw [List.length_take]
          omega
        refine ⟨_, ds.drop n, List.drop_left' hn, ih.2 ⟨?_, rfl⟩, ?_⟩
        · rw [List.length_drop]
          omega
        · rw [List.take_left' hn, List.take_append_drop]

theorem hyphenated_iff : Hyphenated ds cs ↔ ds.length = 32 ∧ cs = group groupSizes ds := by
  constructor
  · rintro ⟨g₁, g₂, g₃, g₄, g₅, ⟨h₁, h₂, h₃, h₄, h₅⟩, rfl, rfl⟩
    refine ⟨by simp [h₁, h₂, h₃, h₄, h₅], ?_⟩
    simp [groupSizes, group, h₁, h₂, h₃, h₄]
  · rintro ⟨hlength, rfl⟩
    refine ⟨ds.take 8, (ds.drop 8).take 4, ((ds.drop 8).drop 4).take 4, (((ds.drop 8).drop 4).drop 4).take 4,
      (((ds.drop 8).drop 4).drop 4).drop 4, ?_, ?_, rfl⟩
    · simp [hlength]
    · simp only [List.append_assoc, List.take_append_drop]

theorem Hyphenated.length_eq (h : Hyphenated ds cs) : cs.length = 36 := by
  obtain ⟨g₁, g₂, g₃, g₄, g₅, ⟨h₁, h₂, h₃, h₄, h₅⟩, -, rfl⟩ := h
  simp [h₁, h₂, h₃, h₄, h₅]

theorem ungroup?_groupSizes : ungroup? groupSizes cs = some ds ↔ Hyphenated ds cs := by
  rw [ungroup?_eq_some_iff, hyphenated_iff]
  rfl

/-! ## Wrappings -/

theorem unbrace?_eq_some_iff : unbrace? cs = some body ↔ cs = '\x7b' :: (body ++ ['\x7d']) := by
  constructor
  · intro h
    unfold unbrace? at h
    split at h
    · next rest =>
      obtain ⟨hlast, hfront⟩ := Option.ite_none_right_eq_some.1 h
      cases hfront
      obtain ⟨front, rfl⟩ := List.getLast?_eq_some_iff.1 hlast
      rw [List.dropLast_concat]
    · cases h
  · rintro rfl
    simp [unbrace?]

theorem length_scheme {scheme : List Char} (h : scheme.map Char.toLower = urnScheme) : scheme.length = 9 := by
  rw [← List.length_map (f := Char.toLower), h]
  rfl

theorem stripScheme?_eq_some_iff : stripScheme? cs = some body ↔
    ∃ scheme : List Char, scheme.map Char.toLower = urnScheme ∧ cs = scheme ++ body := by
  rw [stripScheme?, Option.ite_none_right_eq_some]
  constructor
  · rintro ⟨hscheme, hbody⟩
    cases hbody
    exact ⟨cs.take 9, hscheme, (List.take_append_drop 9 cs).symm⟩
  · rintro ⟨scheme, hscheme, rfl⟩
    rw [List.take_left' (length_scheme hscheme), List.drop_left' (length_scheme hscheme)]
    exact ⟨hscheme, rfl⟩

/-- Of grouped digits the length tells the wrapping. -/
theorem groupedBody?_eq_some_iff (hbody : body.length = 36) : groupedBody? cs = some body ↔
    cs = body ∨ unbrace? cs = some body ∨ stripScheme? cs = some body := by
  have hbraced : unbrace? cs = some body → cs.length = 38 := by
    intro h
    rw [unbrace?_eq_some_iff.1 h]
    simp [hbody]
  have hnamed : stripScheme? cs = some body → cs.length = 45 := by
    intro h
    obtain ⟨scheme, hscheme, rfl⟩ := stripScheme?_eq_some_iff.1 h
    rw [List.length_append, length_scheme hscheme, hbody]
  constructor
  · intro h
    unfold groupedBody? at h
    split at h
    · exact Or.inl (Option.some.inj h)
    · exact Or.inr (Or.inl h)
    · exact Or.inr (Or.inr h)
    · cases h
  · rintro (rfl | h | h)
    · simp only [groupedBody?, hbody]
    · simp only [groupedBody?, hbraced h, h]
    · simp only [groupedBody?, hnamed h, h]

theorem length_ne_of_groupedBody? (h : groupedBody? cs = some body) : cs.length ≠ 32 := by
  intro hlength
  rw [groupedBody?, hlength] at h
  cases h

theorem form_iff : Form ds cs ↔
    (ds.length = 32 ∧ cs = ds) ∨ ∃ body, groupedBody? cs = some body ∧ Hyphenated ds body := by
  constructor
  · rintro (hlength | ⟨hyphenated⟩ | ⟨hyphenated⟩ | ⟨hscheme, hyphenated⟩)
    · exact Or.inl ⟨hlength, rfl⟩
    · exact Or.inr ⟨_, (groupedBody?_eq_some_iff hyphenated.length_eq).2 (Or.inl rfl), hyphenated⟩
    · refine Or.inr ⟨_, (groupedBody?_eq_some_iff hyphenated.length_eq).2 (Or.inr (Or.inl ?_)), hyphenated⟩
      exact unbrace?_eq_some_iff.2 rfl
    · refine Or.inr ⟨_, (groupedBody?_eq_some_iff hyphenated.length_eq).2 (Or.inr (Or.inr ?_)), hyphenated⟩
      exact stripScheme?_eq_some_iff.2 ⟨_, hscheme, rfl⟩
  · rintro (⟨hlength, rfl⟩ | ⟨body, hbody, hyphenated⟩)
    · exact .bare hlength
    · rcases (groupedBody?_eq_some_iff hyphenated.length_eq).1 hbody with rfl | h | h
      · exact .hyphenated hyphenated
      · rw [unbrace?_eq_some_iff.1 h]
        exact .braced hyphenated
      · obtain ⟨scheme, hscheme, rfl⟩ := stripScheme?_eq_some_iff.1 h
        exact .named hscheme hyphenated

/-! ## Reading -/

theorem grouped_eq_some_iff : (groupedBody? cs >>= ungroup? groupSizes >>= ofDigits?) = some id ↔
    ∃ body ds, groupedBody? cs = some body ∧ Hyphenated ds body ∧ ds.map Char.toLower = id.digits := by
  simp only [Option.bind_eq_bind, Option.bind_eq_some_iff, ungroup?_groupSizes, ofDigits?_eq_some_iff]
  constructor
  · rintro ⟨ds, ⟨body, hbody, hyphenated⟩, hds⟩
    exact ⟨body, ds, hbody, hyphenated, hds⟩
  · rintro ⟨body, ds, hbody, hyphenated, hds⟩
    exact ⟨ds, ⟨body, hbody, hyphenated⟩, hds⟩

theorem ofText?_eq_some_iff : ofText? cs = some id ↔
    ∃ ds, Form ds cs ∧ ds.map Char.toLower = id.digits := by
  rw [ofText?, Option.orElse_eq_orElse, Option.orElse_eq_or, Option.or_eq_some_iff, grouped_eq_some_iff,
    ofDigits?_eq_some_iff]
  constructor
  · rintro (h | ⟨-, body, ds, hbody, hyphenated, hds⟩)
    · exact ⟨cs, .bare (length_of_map_toLower h), h⟩
    · exact ⟨ds, form_iff.2 (Or.inr ⟨body, hbody, hyphenated⟩), hds⟩
  · rintro ⟨ds, form, hds⟩
    rcases form_iff.1 form with ⟨-, rfl⟩ | ⟨body, hbody, hyphenated⟩
    · exact Or.inl hds
    · -- Grouped digits are too long to be read as digits alone.
      have hnone : ofDigits? cs = none := by
        refine Option.eq_none_iff_forall_ne_some.2 fun other hother => ?_
        exact length_ne_of_groupedBody? hbody (length_of_map_toLower (ofDigits?_eq_some_iff.1 hother))
      exact Or.inr ⟨hnone, body, ds, hbody, hyphenated, hds⟩

theorem parse_eq_ok_iff : parse text = .ok id ↔ Spells text id := by
  rw [Spells, ← ofText?_eq_some_iff, parse]
  cases ofText? text.toList <;> simp

theorem decode_str : decode (.str text) = .ok id ↔ parse text = .ok id := by
  rw [decode]
  cases parse text <;> simp [Except.mapError]

/-! ## Writing -/

theorem hyphenated_toString : Hyphenated id.digits id.toString.toList := by
  rw [toString, String.toList_ofList]
  exact hyphenated_iff.2 ⟨length_digits, rfl⟩

theorem spells_toString : Spells id.toString id :=
  ⟨id.digits, .hyphenated hyphenated_toString, map_toLower_eq_self fun _ => toLower_of_mem_digits⟩

/-- Grouped digits are in one form only. -/
theorem Form.eq_of_hyphenated (form : Form ds cs) (hyphenated : Hyphenated es cs) : ds = es := by
  have hself : groupedBody? cs = some cs := (groupedBody?_eq_some_iff hyphenated.length_eq).2 (Or.inl rfl)
  rcases form_iff.1 form with ⟨hlength, rfl⟩ | ⟨body, hbody, hyphenated'⟩
  · exact absurd hlength (length_ne_of_groupedBody? hself)
  · obtain rfl : cs = body := Option.some.inj (hself.symm.trans hbody)
    exact Option.some.inj ((ungroup?_groupSizes.2 hyphenated').symm.trans (ungroup?_groupSizes.2 hyphenated))

/-- Among the spellings of an identifier the one that is written is in groups and in small letters. -/
theorem eq_toString_iff : text = id.toString ↔
    Spells text id ∧ ∃ ds, Hyphenated ds text.toList ∧ ∀ c ∈ ds, c.toLower = c := by
  constructor
  · rintro rfl
    exact ⟨spells_toString, id.digits, hyphenated_toString, fun _ => toLower_of_mem_digits⟩
  · rintro ⟨⟨ds, form, hds⟩, es, hyphenated, hlower⟩
    obtain rfl := form.eq_of_hyphenated hyphenated
    have hdigits : ds = id.digits := (map_toLower_eq_self hlower).symm.trans hds
    rw [toString, ← hdigits, ← (hyphenated_iff.1 hyphenated).2, String.ofList_toList]

/-! ## Order -/

theorem append_lt_append_iff {xs ys : List Char} (hlength : ds.length = es.length) :
    ds ++ xs < es ++ ys ↔ ds < es ∨ ds = es ∧ xs < ys := by
  induction ds generalizing es with
  | nil =>
    cases es with
    | nil => simp
    | cons e es => cases hlength
  | cons d ds ih =>
    cases es with
    | nil => cases hlength
    | cons e es =>
      rw [List.cons_append, List.cons_append, List.cons_lt_cons_iff, List.cons_lt_cons_iff,
        ih (Nat.succ.inj hlength), List.cons.injEq]
      tauto

/-- The hyphens stand in the same places, and so the digits decide. -/
theorem group_lt_iff (hlength : ds.length = es.length) : group sizes ds < group sizes es ↔ ds < es := by
  induction sizes generalizing ds es with
  | nil => rfl
  | cons n sizes ih =>
    cases sizes with
    | nil => rfl
    | cons m sizes =>
      have htake : (ds.take n).length = (es.take n).length := by
        rw [List.length_take, List.length_take, hlength]
      have hdrop : (ds.drop n).length = (es.drop n).length := by
        rw [List.length_drop, List.length_drop, hlength]
      have hhyphen : '-' :: group (m :: sizes) (ds.drop n) < '-' :: group (m :: sizes) (es.drop n) ↔
          ds.drop n < es.drop n := by
        rw [List.cons_lt_cons_iff, ih hdrop]
        simp
      calc group (n :: m :: sizes) ds < group (n :: m :: sizes) es
        _ ↔ ds.take n < es.take n ∨ ds.take n = es.take n ∧ ds.drop n < es.drop n := by
          rw [group_cons_cons, group_cons_cons, append_lt_append_iff htake, hhyphen]
        _ ↔ ds.take n ++ ds.drop n < es.take n ++ es.drop n := (append_lt_append_iff htake).symm
        _ ↔ ds < es := by rw [List.take_append_drop, List.take_append_drop]

theorem lt_iff_toNat_lt : a < b ↔ a.bits.toNat < b.bits.toNat := BitVec.lt_def

theorem bytes_lt_iff : a.bytes < b.bytes ↔ a < b := by
  rw [bytes, bytes, lt_iff_toNat_lt]
  exact Text.digitValues_lt_iff (by decide) a.bits.isLt b.bits.isLt

theorem digits_lt_iff : a.digits < b.digits ↔ a < b := by
  rw [digits_eq_map, digits_eq_map, Text.map_digitChar_lt_iff (fun _ => digit_lt) (fun _ => digit_lt),
    lt_iff_toNat_lt]
  exact Text.digitValues_lt_iff (by decide) a.bits_lt b.bits_lt

theorem toString_lt_iff : a.toString < b.toString ↔ a < b := by
  have hlength : a.digits.length = b.digits.length := by rw [length_digits, length_digits]
  rw [String.lt_iff_toList_lt, toString, toString, String.toList_ofList, String.toList_ofList,
    group_lt_iff hlength, digits_lt_iff]

end

/-- Every identifier is read back from its text and from its JSON. A text is an identifier as a JSON string when
it is one by itself, and it is one exactly in the four forms. Each form is written again as the one text in
groups and small letters, and these texts are ordered as the identifiers are by their bytes. -/
theorem text_roundTrip :
    (∀ id : NotificationId, parse id.toString = .ok id ∧ decode id.toJson = .ok id ∧
      Json.Reader.string id.toJson.compact.toList = .ok (id.toString, [])) ∧
    (∀ text id, decode (.str text) = .ok id ↔ parse text = .ok id) ∧
    (∀ text id, parse text = .ok id ↔ Spells text id) ∧
    (∀ text id, text = id.toString ↔
      Spells text id ∧ ∃ ds, Hyphenated ds text.toList ∧ ∀ c ∈ ds, c.toLower = c) ∧
    ∀ a b : NotificationId, (a < b ↔ a.bytes < b.bytes) ∧ (a < b ↔ a.toString < b.toString) := by
  refine ⟨fun id => ?_, fun text id => decode_str, fun text id => parse_eq_ok_iff,
    fun text id => eq_toString_iff, fun a b => ⟨bytes_lt_iff.symm, toString_lt_iff.symm⟩⟩
  have hparse : parse id.toString = .ok id := parse_eq_ok_iff.2 spells_toString
  refine ⟨hparse, decode_str.2 hparse, ?_⟩
  have hread : Json.Reader.string ((Json.quote id.toString).toList ++ []) = .ok (id.toString, []) := Json.string_quote
  rwa [List.append_nil] at hread

end AdminConsole.NotificationId
