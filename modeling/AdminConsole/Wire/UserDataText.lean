import AdminConsole.Json.Reader
import AdminConsole.Provider

/-!
# Reading a user's data from text

A user's data as JSON text, read from its first character on and refused at the first fault. The
data are an object, of whose members those with other names are passed over, or the list of the
three fields, of which the user's name alone must be given. No known member may be given twice.
-/

namespace AdminConsole.UserData

open Json Json.Reader

/-- The fields read so far. -/
structure Draft where
  username : Option String
  roles : Option (List String)
  permissions : Option (List String)

def Draft.blank : Draft := ⟨none, none, none⟩

/-- The user's data, of which the name must be there. -/
def Draft.complete (d : Draft) : Except TextFault UserData :=
  match d.username with
  | some username => .ok ⟨username, d.roles.getD [], d.permissions.getD []⟩
  | none => .error .mismatch

/-- Reads the value of a member that must not have been given before. -/
def once {α : Type} (given : Option α) (value : Reader α) : Reader α := fun cs =>
  if given.isSome then .error .mismatch
  else do value (← token ':' cs)

/-- Reads what follows the name of a member. -/
def member (d : Draft) (name : String) : Reader Draft := fun cs => do
  if name = "username" then
    let (s, rest) ← once d.username string cs
    return ({ d with username := some s }, rest)
  else if name = "roles" then
    let (l, rest) ← once d.roles (list string) cs
    return ({ d with roles := some l }, rest)
  else if name = "permissions" then
    let (l, rest) ← once d.permissions (list string) cs
    return ({ d with permissions := some l }, rest)
  else
    return (d, ← skipValue (← token ':' cs))

/-- Reads the members of an object up to its closing brace, which is left in place. -/
def members : Nat → Bool → Draft → Reader Draft
  | 0, _, _, _ => .error .truncated
  | fuel + 1, first, d, cs => do
    match ← nextName first cs with
    | (none, rest) => return (d, rest)
    | (some name, rest) =>
      let (d, rest) ← member d name rest
      members fuel false d rest

/-- Reads a field of the list form, if there is one more item. -/
def field {α : Type} (first : Bool) (value : Reader α) : Reader (Option α) := fun cs => do
  match ← nextItem first cs with
  | (false, rest) => return (none, rest)
  | (true, rest) =>
    let (a, rest) ← value rest
    return (some a, rest)

/-- Reads a user's data at the start of a text. -/
def read : Reader UserData := fun cs =>
  match skipSpace cs with
  | [] => .error .truncated
  | '[' :: rest => do
    let (some username, rest) ← field true string rest | .error .mismatch
    let (roles, rest) ← field false (list string) rest
    let (permissions, rest) ← field false (list string) rest
    let user ← Draft.complete ⟨some username, roles, permissions⟩
    return (user, ← token ']' rest)
  | '\x7b' :: rest => do
    let (draft, rest) ← members (rest.length + 1) true .blank rest
    let user ← draft.complete
    return (user, ← token '\x7d' rest)
  | cs => .error (otherType cs)

/-- Reads a text that holds a user's data and nothing else. -/
def ofText (text : String) : Except TextFault UserData := do
  let (user, rest) ← read text.toList
  finish rest
  return user

end AdminConsole.UserData
