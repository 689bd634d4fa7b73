import AdminConsole.Proofs.PermissionSet.Stored

/-!
# The canonical value of a set

A granted set is written as one value, with the known permissions in the order of the catalog and the other
identifiers in the order of their code points, none of them twice. Whatever form and order a stored set was
written in, it reads as the set of its members (`decode_eq_iff_of_stores`), and of the values of the canonical
shape only the written one reads as that set (`canonical_iff_eq_toJson`).
-/

namespace AdminConsole

/-! ## Lists that stand for one set -/

namespace OrderedSet

variable {α : Type} [LT α] [DecidableLT α] [LE α] [Std.IsLinearOrder α] [Std.LawfulOrderLT α]
  {l m : List α}

theorem ofList_eq_iff : ofList l = ofList m ↔ ∀ a, a ∈ l ↔ a ∈ m := by
  constructor
  · intro h a
    rw [← mem_ofList, h, mem_ofList]
  · intro h
    refine ext fun a => ?_
    rw [mem_ofList, mem_ofList, h]

theorem toList_ofList (h : l.Pairwise (· < ·)) : (ofList l).toList = l :=
  list_ext (increasing _) h fun _ => mem_ofList

@[simp] theorem ofList_toList {s : OrderedSet α} : ofList s.toList = s := ext fun _ => mem_ofList

end OrderedSet

namespace PermissionSet

open Json

/-- The object of the two parts, each in its order and without repetition. -/
def Canonical (v : Json) : Prop :=
  ∃ (known : List Permission) (unrecognized : List String),
    v = obj [("known", arr (known.map Permission.toJson)), ("unrecognized", strings unrecognized)] ∧
      known.Sublist Permission.all ∧ unrecognized.Pairwise (· < ·)

section
variable {v w : Json} {s : PermissionSet} {known known' : List Permission}
  {unrecognized unrecognized' : List String}

theorem stores_toJson : Stores s.toJson s.known.toList s.unrecognized.toList := .object rfl rfl

theorem decode_of_stores (stores : Stores v known unrecognized) :
    decode v = .ok (ofLists known unrecognized) :=
  decode_eq_ok_iff.2 ⟨known, unrecognized, stores, rfl⟩

theorem ofLists_eq_iff :
    ofLists known unrecognized = ofLists known' unrecognized' ↔
      (∀ p, p ∈ known ↔ p ∈ known') ∧ ∀ name, name ∈ unrecognized ↔ name ∈ unrecognized' := by
  rw [ofLists, ofLists, PermissionSet.mk.injEq, OrderedSet.ofList_eq_iff, OrderedSet.ofList_eq_iff]

/-- Of a stored set nothing but its members counts. -/
theorem decode_eq_iff_of_stores (hv : Stores v known unrecognized) (hw : Stores w known' unrecognized') :
    decode v = decode w ↔
      (∀ p, p ∈ known ↔ p ∈ known') ∧ ∀ name, name ∈ unrecognized ↔ name ∈ unrecognized' := by
  rw [decode_of_stores hv, decode_of_stores hw, Except.ok.injEq, ofLists_eq_iff]

theorem decode_toJson : decode s.toJson = .ok s := by
  rw [decode_of_stores stores_toJson, ofLists, OrderedSet.ofList_toList, OrderedSet.ofList_toList]

/-! ## The order of the catalog -/

theorem all_increasing : Permission.all.Pairwise (· < ·) := by decide

/-- To stand in catalog order without repetition is to increase. -/
theorem sublist_all_iff : known.Sublist Permission.all ↔ known.Pairwise (· < ·) := by
  refine ⟨fun h => all_increasing.sublist h, fun h => ?_⟩
  have hfilter : known = Permission.all.filter (· ∈ known) := by
    refine OrderedSet.list_ext h (all_increasing.filter _) fun p => ?_
    simp [Permission.mem_all]
  rw [hfilter]
  exact List.filter_sublist

theorem canonical_toJson : Canonical s.toJson :=
  ⟨s.known.toList, s.unrecognized.toList, rfl, sublist_all_iff.2 s.known.increasing,
    s.unrecognized.increasing⟩

/-- One value of the canonical shape reads as a given set: the one that is written. -/
theorem canonical_iff_eq_toJson (h : decode v = .ok s) : Canonical v ↔ v = s.toJson := by
  constructor
  · rintro ⟨known, unrecognized, rfl, hknown, hunrecognized⟩
    cases h.symm.trans (decode_of_stores (.object rfl rfl))
    have hk := OrderedSet.toList_ofList (sublist_all_iff.1 hknown)
    have hu := OrderedSet.toList_ofList hunrecognized
    rw [toJson, ofLists, hk, hu]
  · rintro rfl
    exact canonical_toJson

end

end PermissionSet

end AdminConsole
