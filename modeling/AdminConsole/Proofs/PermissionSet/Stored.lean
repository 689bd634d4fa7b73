import AdminConsole.Wire
import AdminConsole.Proofs.Json.Decode
import Mathlib.Data.List.Basic

/-!
# Stored sets

Which values are read as a granted set, and what set each of them stands for (`decode_eq_ok_iff`): the
members of both parts are taken as they are listed, and neither part is looked at for what the other holds.
-/

namespace AdminConsole.PermissionSet

open Json

/-- The value is the written form of a set with these members, as an object or as the list of its two
parts. -/
inductive Stores : Json → List Permission → List String → Prop where
  | object {members : List (String × Json)} {known : List Permission} {unrecognized : List String}
      (known_eq : member? "known" members = some (arr (known.map Permission.toJson)))
      (unrecognized_eq : member? "unrecognized" members = some (strings unrecognized)) :
    Stores (obj members) known unrecognized
  | parts {known : List Permission} {unrecognized : List String} :
    Stores (arr [arr (known.map Permission.toJson), strings unrecognized]) known unrecognized

section
variable {v : Json} {s : PermissionSet} {known : List Permission} {unrecognized : List String}

theorem permission_eq_ok_iff {p : Permission} : Permission.decode v = .ok p ↔ v = p.toJson := by
  simp only [Permission.decode, bind_eq_ok_iff, Decoder.string_eq_ok_iff, Permission.toJson]
  constructor
  · rintro ⟨name, rfl, h⟩
    cases hp : Permission.ofWire? name with
    | none => simp [hp] at h
    | some q =>
      simp only [hp, pure, Except.pure, Except.ok.injEq] at h
      rw [← h, Permission.ofWire?_eq_some_iff.1 hp]
  · rintro rfl
    exact ⟨p.wire, rfl, by simp [pure, Except.pure]⟩

theorem permissions_eq_ok_iff :
    Decoder.list Permission.decode v = .ok known ↔ v = arr (known.map Permission.toJson) :=
  Decoder.list_eq_ok_iff fun _ _ => permission_eq_ok_iff

theorem decode_obj_eq_ok_iff {members : List (String × Json)} :
    decode (obj members) = .ok s ↔ ∃ known unrecognized,
      member? "known" members = some (arr (known.map Permission.toJson)) ∧
      member? "unrecognized" members = some (strings unrecognized) ∧ s = ofLists known unrecognized := by
  simp only [decode, bind_eq_ok_iff, present_eq_ok_iff]
  constructor
  · rintro ⟨_, hknown, _, hunrecognized, known, rfl, unrecognized, rfl, hs⟩
    obtain ⟨v, hv, hlist⟩ := optional_eq_ok_some_iff.1 hknown
    obtain ⟨w, hw, hstrings⟩ := optional_eq_ok_some_iff.1 hunrecognized
    rw [permissions_eq_ok_iff.1 hlist] at hv
    rw [Decoder.strings_eq_ok_iff.1 hstrings] at hw
    exact ⟨known, unrecognized, hv, hw, (Except.ok.inj hs).symm⟩
  · rintro ⟨known, unrecognized, hknown, hunrecognized, rfl⟩
    exact ⟨some known, optional_eq_ok_some_iff.2 ⟨_, hknown, permissions_eq_ok_iff.2 rfl⟩,
      some unrecognized, optional_eq_ok_some_iff.2 ⟨_, hunrecognized, Decoder.strings_eq_ok_iff.2 rfl⟩,
      known, rfl, unrecognized, rfl, rfl⟩

theorem decode_arr_eq_ok_iff {items : List Json} :
    decode (arr items) = .ok s ↔ ∃ known unrecognized,
      items = [arr (known.map Permission.toJson), strings unrecognized] ∧
      s = ofLists known unrecognized := by
  simp only [decode, bind_eq_ok_iff]
  constructor
  · rintro ⟨_ | known, hknown, hrest⟩
    · cases hrest
    · obtain ⟨_ | unrecognized, hunrecognized, hrest⟩ := bind_eq_ok_iff.1 hrest
      · cases hrest
      · obtain ⟨_, hlength, hs⟩ := bind_eq_ok_iff.1 hrest
        obtain ⟨v, hv, hlist⟩ := optionalItem_eq_ok_some_iff.1 hknown
        obtain ⟨w, hw, hstrings⟩ := optionalItem_eq_ok_some_iff.1 hunrecognized
        -- Both parts are there, and nothing comes after them.
        have hlt : 1 < items.length := (List.getElem?_eq_some_iff.1 hw).1
        have hle : items.length ≤ 2 := noMoreThan_eq_ok_iff.1 hlength
        have htwo : items.length = 2 := by omega
        obtain ⟨x, y, rfl⟩ := List.length_eq_two.1 htwo
        cases hv
        cases hw
        refine ⟨known, unrecognized, ?_, (Except.ok.inj hs).symm⟩
        rw [permissions_eq_ok_iff.1 hlist, Decoder.strings_eq_ok_iff.1 hstrings]
  · rintro ⟨known, unrecognized, rfl, rfl⟩
    refine ⟨some known, optionalItem_eq_ok_some_iff.2 ⟨_, rfl, permissions_eq_ok_iff.2 rfl⟩, ?_⟩
    refine bind_eq_ok_iff.2 ⟨some unrecognized,
      optionalItem_eq_ok_some_iff.2 ⟨_, rfl, Decoder.strings_eq_ok_iff.2 rfl⟩, rfl⟩

/-- The stored sets are exactly the values that can be read. -/
theorem decode_eq_ok_iff :
    decode v = .ok s ↔
      ∃ known unrecognized, Stores v known unrecognized ∧ s = ofLists known unrecognized := by
  constructor
  · intro h
    cases v with
    | obj members =>
      obtain ⟨known, unrecognized, hknown, hunrecognized, hs⟩ := decode_obj_eq_ok_iff.1 h
      exact ⟨known, unrecognized, .object hknown hunrecognized, hs⟩
    | arr items =>
      obtain ⟨known, unrecognized, rfl, hs⟩ := decode_arr_eq_ok_iff.1 h
      exact ⟨known, unrecognized, .parts, hs⟩
    | null | bool _ | int _ | str _ => cases h
  · rintro ⟨known, unrecognized, stores, rfl⟩
    cases stores with
    | object hknown hunrecognized =>
      exact decode_obj_eq_ok_iff.2 ⟨known, unrecognized, hknown, hunrecognized, rfl⟩
    | parts => exact decode_arr_eq_ok_iff.2 ⟨known, unrecognized, rfl, rfl⟩

end

end AdminConsole.PermissionSet
