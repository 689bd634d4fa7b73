import AdminConsole.PermissionSet.Operation
import AdminConsole.Proofs.PermissionSet.Stored
import Mathlib.Data.Finset.Card
import Mathlib.Data.List.Induction

/-!
# The two parts of a granted set

A granted set answers for its identifiers as one set does, with no identifier counted twice and each
permission of the catalog granted that it names, exactly if it keeps no identifier of the catalog among the
unrecognized ones (`separated_iff_consistent`). Identifiers and permissions that are added keep it so. A
stored set is taken as it was written, and so it may come in with its parts mixed; nothing but a replacement
mends that (`build_separated_iff`).
-/

namespace AdminConsole.PermissionSet

open Json

/-! ## Separated sets -/

/-- No identifier of the catalog is among the unrecognized ones. -/
def Separated (s : PermissionSet) : Prop := ∀ name ∈ s.unrecognized.toList, Permission.ofWire? name = none

instance (s : PermissionSet) : Decidable s.Separated :=
  inferInstanceAs (Decidable (∀ name ∈ s.unrecognized.toList, Permission.ofWire? name = none))

/-- The set answers for its identifiers as one set does. -/
structure Consistent (s : PermissionSet) : Prop where
  names_nodup : s.names.Nodup
  size_eq : s.size = s.names.toFinset.card
  contains_iff : ∀ p, s.contains p = true ↔ p.wire ∈ s.names
  lacksName_iff : ∀ name, s.lacksName name = false ↔ name ∈ s.names

section
variable {s : PermissionSet} {p : Permission} {name : String}

theorem wire_mem_names : p.wire ∈ s.names ↔ p ∈ s ∨ p.wire ∈ s.unrecognized.toList := by
  rw [names, List.mem_append, List.mem_map]
  constructor
  · rintro (⟨q, hq, hwire⟩ | h)
    · exact Or.inl (Permission.wire_inj hwire ▸ hq)
    · exact Or.inr h
  · rintro (h | h)
    · exact Or.inl ⟨p, h, rfl⟩
    · exact Or.inr h

/-- An identifier outside the catalog stands among the unrecognized ones or nowhere. -/
theorem mem_names_of_ofWire?_eq_none (h : Permission.ofWire? name = none) :
    name ∈ s.names ↔ name ∈ s.unrecognized.toList := by
  rw [names, List.mem_append, List.mem_map]
  refine or_iff_right ?_
  rintro ⟨p, -, rfl⟩
  cases h.symm.trans (Permission.ofWire?_wire p)

theorem length_names : s.names.length = s.size := by
  simp [names, size, OrderedSet.size]

theorem separated_iff_forall_not_mem : s.Separated ↔ ∀ p : Permission, p.wire ∉ s.unrecognized.toList := by
  constructor
  · intro h p hmem
    cases (h p.wire hmem).symm.trans (Permission.ofWire?_wire p)
  · intro h name hname
    cases hp : Permission.ofWire? name with
    | none => rfl
    | some p => exact absurd (Permission.ofWire?_eq_some_iff.1 hp ▸ hname) (h p)

theorem Separated.not_mem (h : s.Separated) : p.wire ∉ s.unrecognized.toList :=
  separated_iff_forall_not_mem.1 h p

theorem Separated.nodup (h : s.Separated) : s.names.Nodup := by
  rw [names, List.nodup_append]
  refine ⟨?_, s.unrecognized.nodup, ?_⟩
  · exact s.known.nodup.map fun _ _ => Permission.wire_inj
  · rintro _ hmem name hname rfl
    obtain ⟨p, -, rfl⟩ := List.mem_map.1 hmem
    exact h.not_mem hname

theorem Separated.consistent (h : s.Separated) : s.Consistent where
  names_nodup := h.nodup
  size_eq := by rw [List.toFinset_card_of_nodup h.nodup, length_names]
  contains_iff p := by rw [PermissionSet.contains_iff, wire_mem_names, or_iff_left h.not_mem]
  lacksName_iff name := by
    unfold lacksName
    split
    · rename_i p hp
      rw [← Permission.ofWire?_eq_some_iff.1 hp, wire_mem_names, or_iff_left h.not_mem, Bool.not_eq_false']
      exact OrderedSet.contains_iff
    · rename_i hnone
      rw [mem_names_of_ofWire?_eq_none hnone, Bool.not_eq_false']
      exact OrderedSet.contains_iff

theorem Separated.mem_unrecognized_iff (h : s.Separated) :
    name ∈ s.unrecognized.toList ↔ name ∈ s.names ∧ Permission.ofWire? name = none := by
  constructor
  · intro hname
    have hnone := h name hname
    exact ⟨(mem_names_of_ofWire?_eq_none hnone).2 hname, hnone⟩
  · rintro ⟨hname, hnone⟩
    exact (mem_names_of_ofWire?_eq_none hnone).1 hname

/-- Sets with separate parts are equal if they have the same identifiers. -/
theorem Separated.ext {s' : PermissionSet} (h : s.Separated) (h' : s'.Separated)
    (hnames : ∀ name, name ∈ s.names ↔ name ∈ s'.names) : s = s' := by
  have hknown : s.known = s'.known := by
    refine OrderedSet.ext fun p => ?_
    rw [← OrderedSet.contains_iff, ← OrderedSet.contains_iff]
    exact (h.consistent.contains_iff p).trans ((hnames p.wire).trans (h'.consistent.contains_iff p).symm)
  have hunrecognized : s.unrecognized = s'.unrecognized := by
    refine OrderedSet.ext fun name => ?_
    rw [OrderedSet.mem_def, OrderedSet.mem_def, h.mem_unrecognized_iff, h'.mem_unrecognized_iff, hnames]
  cases s
  cases s'
  cases hknown
  cases hunrecognized
  rfl

/-- A catalog identifier among the unrecognized ones is granted to nobody or stands in the set twice. -/
theorem separated_iff_consistent : s.Separated ↔ s.Consistent := by
  refine ⟨Separated.consistent, fun h => separated_iff_forall_not_mem.2 fun p hp => ?_⟩
  have hmem : p ∈ s := by
    rw [← PermissionSet.contains_iff, h.contains_iff, wire_mem_names]
    exact Or.inr hp
  have hdisjoint := (List.nodup_append.1 h.names_nodup).2.2
  exact absurd rfl (hdisjoint _ (List.mem_map_of_mem hmem) _ hp)

/-! ## What a call leaves -/

theorem separated_insert : (s.insert p).Separated ↔ s.Separated := Iff.rfl

theorem separated_insertName : (s.insertName name).Separated ↔ s.Separated := by
  unfold insertName
  split
  · exact separated_insert
  · rename_i hnone
    constructor
    · intro h other hother
      exact h other (OrderedSet.mem_insert.2 (Or.inr hother))
    · intro h other hother
      rcases OrderedSet.mem_insert.1 hother with rfl | hother
      · exact hnone
      · exact h other hother

theorem separated_empty : empty.Separated := by
  intro name hname
  cases hname

theorem separated_foldl_insertName {names : List String} :
    (names.foldl insertName s).Separated ↔ s.Separated := by
  induction names generalizing s with
  | nil => rfl
  | cons name names ih => rw [List.foldl_cons, ih, separated_insertName]

theorem separated_ofNames {names : List String} : (ofNames names).Separated :=
  separated_foldl_insertName.2 separated_empty

theorem separated_ofPermissions {ps : List Permission} : (ofPermissions ps).Separated := by
  intro name hname
  cases hname

theorem mem_names_insertName {other : String} :
    other ∈ (s.insertName name).names ↔ other = name ∨ other ∈ s.names := by
  unfold insertName
  split
  · rename_i p hp
    have hname : p.wire = name := Permission.ofWire?_eq_some_iff.1 hp
    have hknown : ∀ q, q ∈ (s.insert p).known.toList ↔ q = p ∨ q ∈ s.known.toList :=
      fun _ => OrderedSet.mem_insert
    simp only [names, List.mem_append, List.mem_map, hknown]
    constructor
    · rintro (⟨q, rfl | hq, rfl⟩ | h)
      · exact Or.inl hname
      · exact Or.inr (Or.inl ⟨q, hq, rfl⟩)
      · exact Or.inr (Or.inr h)
    · rintro (rfl | ⟨q, hq, rfl⟩ | h)
      · exact Or.inl ⟨p, Or.inl rfl, hname⟩
      · exact Or.inl ⟨q, Or.inr hq, rfl⟩
      · exact Or.inr h
  · have hunrecognized :
        other ∈ (s.unrecognized.insert name).toList ↔ other = name ∨ other ∈ s.unrecognized.toList :=
      OrderedSet.mem_insert
    simp only [names, List.mem_append, hunrecognized]
    exact or_left_comm

theorem mem_names_foldl_insertName {names : List String} :
    name ∈ (names.foldl insertName s).names ↔ name ∈ names ∨ name ∈ s.names := by
  induction names generalizing s with
  | nil => simp
  | cons first names ih =>
    rw [List.foldl_cons, ih, mem_names_insertName, List.mem_cons]
    exact or_left_comm.trans or_assoc.symm

theorem mem_names_ofNames {names : List String} : name ∈ (ofNames names).names ↔ name ∈ names := by
  rw [ofNames, mem_names_foldl_insertName]
  simp [PermissionSet.names, empty, OrderedSet.empty]

/-- It does not matter in which order and how often the identifiers are listed. -/
theorem ofNames_congr {names names' : List String} (h : ∀ name, name ∈ names ↔ name ∈ names') :
    ofNames names = ofNames names' := by
  refine separated_ofNames.ext separated_ofNames fun name => ?_
  rw [mem_names_ofNames, mem_names_ofNames, h]

/-- A set made of identifiers has as many members as there are different ones. -/
theorem size_ofNames {names : List String} : (ofNames names).size = names.toFinset.card := by
  have hnames : (ofNames names).names.toFinset = names.toFinset := by
    ext name
    rw [List.mem_toFinset, List.mem_toFinset, mem_names_ofNames]
  rw [separated_ofNames.consistent.size_eq, hnames]

/-- The value is a stored set that lists an identifier of the catalog among the unrecognized ones. -/
def Mixed (v : Json) : Prop :=
  ∃ known unrecognized, Stores v known unrecognized ∧ ∃ p : Permission, p.wire ∈ unrecognized

theorem separated_iff_of_decode {v : Json} (h : decode v = .ok s) : s.Separated ↔ ¬Mixed v := by
  constructor
  · rintro hs ⟨known, unrecognized, stores, p, hp⟩
    have heq : decode v = .ok (ofLists known unrecognized) := decode_eq_ok_iff.2 ⟨_, _, stores, rfl⟩
    cases h.symm.trans heq
    exact hs.not_mem (OrderedSet.mem_ofList.2 hp)
  · intro unmixed
    obtain ⟨known, unrecognized, stores, rfl⟩ := decode_eq_ok_iff.1 h
    refine separated_iff_forall_not_mem.2 fun p hp => unmixed ?_
    exact ⟨known, unrecognized, stores, p, OrderedSet.mem_ofList.1 hp⟩

/-- A call that replaces the set mixes its parts only if it reads a stored set that has them mixed. -/
theorem separated_perform_of_replaces {op : Operation} (h : op.replaces = true) :
    (s.perform op).Separated ↔ ∀ v, op = .load v → ¬Mixed v := by
  cases op with
  | new => simp [perform, separated_empty]
  | ofNames names => simp [perform, separated_ofNames]
  | ofPermissions ps => simp [perform, separated_ofPermissions]
  | insert p | insertName name => cases h
  | load v =>
    cases hdecode : decode v with
    | error e => simp [Operation.replaces, hdecode, Except.isOk, Except.toBool] at h
    | ok stored =>
      have heq : s.perform (.load v) = stored := by simp [perform, hdecode]
      rw [heq, separated_iff_of_decode hdecode]
      simp

theorem separated_perform_of_keeps {op : Operation} (h : op.replaces = false) :
    (s.perform op).Separated ↔ s.Separated := by
  cases op with
  | new | ofNames names | ofPermissions ps => cases h
  | insert p => exact separated_insert
  | insertName name => exact separated_insertName
  | load v =>
    cases hdecode : decode v with
    | ok stored => simp [Operation.replaces, hdecode, Except.isOk, Except.toBool] at h
    | error e => simp [perform, hdecode]

end

/-! ## Histories -/

/-- The latest call that leaves nothing of the set that was there before it. -/
def lastReplacement? (ops : List Operation) : Option Operation := ops.reverse.find? Operation.replaces

theorem lastReplacement?_append {ops : List Operation} {op : Operation} :
    lastReplacement? (ops ++ [op]) = if op.replaces then some op else lastReplacement? ops := by
  rw [lastReplacement?, List.reverse_concat, List.find?_cons]
  cases op.replaces <;> rfl

/-- A history leaves a set whose parts are separate unless the last call in it that replaced the set read
a stored one with mixed parts. Exactly if they are separate, no identifier is listed twice, the size is the
number of distinct identifiers, the permissions that are granted are those listed, and an identifier is new
to the set if it is not listed. -/
theorem build_separated_iff (ops : List Operation) :
    ((build ops).Separated ↔ ∀ v, lastReplacement? ops = some (.load v) → ¬Mixed v) ∧
      ((build ops).Separated ↔ (build ops).Consistent) := by
  refine ⟨?_, separated_iff_consistent⟩
  induction ops using List.reverseRecOn with
  | nil => simp [lastReplacement?, separated_empty]
  | append_singleton ops op ih =>
    rw [build_append_singleton, lastReplacement?_append]
    -- A replacement leaves nothing of what the earlier calls did, and any other call adds to it.
    cases hreplaces : op.replaces with
    | true => simp [separated_perform_of_replaces hreplaces]
    | false => simp [separated_perform_of_keeps hreplaces, ih]

/-- A set that was stored when the catalog did not have `VIEW_MEMBERS` yet. -/
def storedEarlier : Json := obj [("known", arr []), ("unrecognized", strings ["VIEW_MEMBERS"])]

/-- The set that is read back lists an identifier of the catalog and does not grant it, and when the
identifier is added it is counted twice. -/
theorem load_storedEarlier :
    ¬(build [.load storedEarlier]).Separated ∧ ¬(build [.load storedEarlier]).Consistent ∧
      (build [.load storedEarlier]).names = ["VIEW_MEMBERS"] ∧
      (build [.load storedEarlier]).contains .viewMembers = false ∧
      (build [.load storedEarlier]).lacksName "VIEW_MEMBERS" = true ∧
      (build [.load storedEarlier, .insertName "VIEW_MEMBERS"]).names = ["VIEW_MEMBERS", "VIEW_MEMBERS"] ∧
      (build [.load storedEarlier, .insertName "VIEW_MEMBERS"]).size = 2 := by
  have hmixed : ¬(build [.load storedEarlier]).Separated := by decide
  exact ⟨hmixed, fun h => hmixed (separated_iff_consistent.2 h), by decide, by decide, by decide, by decide,
    by decide⟩

end AdminConsole.PermissionSet
