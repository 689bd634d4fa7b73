import AdminConsole.Wire

/-!
# Calls that make a granted set

A granted set is made from what the server sent, from permissions or from a stored set, and grows by
single identifiers and permissions. `PermissionSet.build` is the set that a history of such calls leaves.
-/

namespace AdminConsole.PermissionSet

/-- A call that makes a granted set or adds to it. -/
inductive Operation where
  | new
  | ofNames (names : List String)
  | ofPermissions (ps : List Permission)
  | insert (p : Permission)
  | insertName (name : String)
  /-- Reads a stored set. A value that cannot be read changes nothing. -/
  | load (v : Json)
deriving Repr

/-- Whether the call leaves nothing of the set that was there. -/
def Operation.replaces : Operation → Bool
  | new | ofNames _ | ofPermissions _ => true
  | insert _ | insertName _ => false
  | load v => (decode v).isOk

def perform (s : PermissionSet) : Operation → PermissionSet
  | .new => .empty
  | .ofNames names => .ofNames names
  | .ofPermissions ps => .ofPermissions ps
  | .insert p => s.insert p
  | .insertName name => s.insertName name
  | .load v =>
    match decode v with
    | .ok stored => stored
    | .error _ => s

/-- What a call that adds one identifier answers: whether the set did not have it. -/
def answer? (s : PermissionSet) : Operation → Option Bool
  | .insert p => some !s.contains p
  | .insertName name => some (s.lacksName name)
  | .new | .ofNames _ | .ofPermissions _ | .load _ => none

/-- The set after a history of calls. -/
def build (ops : List Operation) : PermissionSet := ops.foldl perform .empty

@[simp] theorem build_nil : build [] = .empty := rfl

@[simp] theorem build_append_singleton {ops : List Operation} {op : Operation} :
    build (ops ++ [op]) = (build ops).perform op := by
  simp [build]

end AdminConsole.PermissionSet
