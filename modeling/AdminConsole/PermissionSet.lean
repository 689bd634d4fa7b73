import AdminConsole.OrderedSet
import AdminConsole.Permission

/-!
# Granted permissions

The set of permissions that the server grants to a user. The server may grant identifiers outside
the catalog; they are kept beside the known ones, so that they are shown again, and unlock nothing.

A set built from identifiers alone keeps a catalog identifier among the known permissions only. A
set that was stored and read back is taken as it was written, whatever its two parts hold.

| here | there |
| --- | --- |
| `insert`, `insertName`, `lacksName` | `insert`, `insert_name` and whether that returns `true` |
| `ofNames`, `ofPermissions` | `from_names`, `from_iter` |
| `contains`, `size`, `isEmpty`, `names` | `contains`, `len`, `is_empty`, `names` |
-/

namespace AdminConsole

/-- Granted identifiers, those of the catalog apart from the others. -/
structure PermissionSet where
  known : OrderedSet Permission
  /-- Granted identifiers kept as text, in the order of their code points. -/
  unrecognized : OrderedSet String
deriving DecidableEq, Repr

namespace PermissionSet

def empty : PermissionSet := ⟨.empty, .empty⟩

instance : Inhabited PermissionSet := ⟨empty⟩

/-- Only a known permission is ever granted. -/
def contains (s : PermissionSet) (p : Permission) : Bool := s.known.contains p

instance : Membership Permission PermissionSet := ⟨fun s p => p ∈ s.known⟩

instance (p : Permission) (s : PermissionSet) : Decidable (p ∈ s) :=
  inferInstanceAs (Decidable (p ∈ s.known.toList))

def insert (s : PermissionSet) (p : Permission) : PermissionSet :=
  { s with known := s.known.insert p }

/-- Adds an identifier: to the known permissions if the catalog has it, else as text. -/
def insertName (s : PermissionSet) (name : String) : PermissionSet :=
  match Permission.ofWire? name with
  | some p => s.insert p
  | none => { s with unrecognized := s.unrecognized.insert name }

/-- Whether adding the identifier would change the set. -/
def lacksName (s : PermissionSet) (name : String) : Bool :=
  match Permission.ofWire? name with
  | some p => !s.known.contains p
  | none => !s.unrecognized.contains name

/-- The set of the identifiers that the server sent. -/
def ofNames (names : List String) : PermissionSet := names.foldl insertName empty

def ofPermissions (ps : List Permission) : PermissionSet := ⟨.ofList ps, .empty⟩

def size (s : PermissionSet) : Nat := s.known.size + s.unrecognized.size

def isEmpty (s : PermissionSet) : Bool := s.known.isEmpty && s.unrecognized.isEmpty

/-- Every identifier of the set: the known ones in catalog order, then the others. -/
def names (s : PermissionSet) : List String :=
  s.known.toList.map Permission.wire ++ s.unrecognized.toList

/-! ## Membership -/

@[simp] theorem contains_iff {s : PermissionSet} {p : Permission} :
    s.contains p = true ↔ p ∈ s := OrderedSet.contains_iff

@[simp] theorem not_mem_empty {p : Permission} : ¬ p ∈ empty := OrderedSet.not_mem_empty

@[simp] theorem mem_insert {s : PermissionSet} {p q : Permission} :
    q ∈ s.insert p ↔ q = p ∨ q ∈ s := OrderedSet.mem_insert

@[simp] theorem mem_insertName {s : PermissionSet} {name : String} {q : Permission} :
    q ∈ s.insertName name ↔ q.wire = name ∨ q ∈ s := by
  unfold insertName
  split
  · rename_i p h
    rw [mem_insert, ← Permission.ofWire?_eq_some_iff, h, Option.some.injEq, eq_comm]
  · rename_i h
    have : ¬ q.wire = name := by
      rw [← Permission.ofWire?_eq_some_iff, h]; simp
    simp [this, Membership.mem]

end PermissionSet

end AdminConsole
