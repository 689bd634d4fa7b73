import AdminConsole.Explanation
import AdminConsole.Json.Decode

/-!
# JSON forms

How the values of the console are written as JSON and read back: permissions and granted sets,
roles, the user's data, the server's word on a session, identifiers, navigation entries,
explanations.
-/

namespace AdminConsole

open Json

/-! ## Permissions -/

def Permission.toJson (p : Permission) : Json := str p.wire

def Permission.decode : Decoder Permission := fun v => do
  let name ← Decoder.string v
  match ofWire? name with
  | some p => return p
  | none => .error (.unknownPermission name)

namespace PermissionSet

def recordName : String := "PermissionSet"

def toJson (s : PermissionSet) : Json :=
  obj [("known", arr (s.known.toList.map Permission.toJson)),
    ("unrecognized", strings s.unrecognized.toList)]

/-- The set with the given members, in whatever order and however often they are listed. -/
def ofLists (known : List Permission) (unrecognized : List String) : PermissionSet :=
  ⟨.ofList known, .ofList unrecognized⟩

/-- Reads a stored set. Both parts must be given. -/
def decode : Decoder PermissionSet
  | obj members => do
    let known ← optional (.list Permission.decode) "known" members
    let unrecognized ← optional (.list .string) "unrecognized" members
    return ofLists (← present "known" known) (← present "unrecognized" unrecognized)
  | arr items => do
    let some known ← optionalItem (.list Permission.decode) 0 items
      | .error (.tooShort items.length recordName 2)
    let some unrecognized ← optionalItem (.list .string) 1 items
      | .error (.tooShort items.length recordName 2)
    noMoreThan 2 items
    return ofLists known unrecognized
  | v => .error (.wrongType v.found (.record recordName))

end PermissionSet

/-! ## Roles and identifiers -/

def Role.toJson (r : Role) : Json := str r.name

def Role.decode : Decoder Role := fun v => Role.mk <$> Decoder.string v

def NotificationId.toJson (id : NotificationId) : Json := str id.toString

def NotificationId.decode : Decoder NotificationId
  | str s => (parse s).mapError .badIdentifier
  | v => .error (.wrongType v.found .identifier)

/-! ## The provider's answers -/

namespace UserData

def recordName : String := "UserData"

def toJson (u : UserData) : Json :=
  obj [("username", str u.username), ("roles", strings u.roles),
    ("permissions", strings u.permissions)]

/-- Reads a user's data. Roles and permissions that are not given are none. -/
def decode : Decoder UserData
  | obj members => do
    let permissions ← optional (.list .string) "permissions" members
    let roles ← optional (.list .string) "roles" members
    let username ← optional .string "username" members
    return ⟨← present "username" username, roles.getD [], permissions.getD []⟩
  | arr items => do
    let some username ← optionalItem .string 0 items
      | .error (.tooShort items.length recordName 3)
    let roles ← optionalItem (.list .string) 1 items
    let permissions ← optionalItem (.list .string) 2 items
    noMoreThan 3 items
    return ⟨username, roles.getD [], permissions.getD []⟩
  | v => .error (.wrongType v.found (.record recordName))

end UserData

namespace RemoteStatus

def all : List RemoteStatus := [alive, expired]

def ofText (name : String) : Except DecodeError RemoteStatus :=
  match all.find? (·.text == name) with
  | some r => .ok r
  | none => .error (.unknownChoice name (all.map text))

/-- Reads the server's word on a session: a word, or an object that holds nothing under it. -/
def decode : Decoder RemoteStatus
  | str s => ofText s
  | obj [(name, v)] => do
    let status ← ofText name
    Decoder.unit v
    return status
  | obj _ => .error .notOneChoice
  | v => .error (.wrongType v.found .choice)

end RemoteStatus

/-! ## Navigation and explanations -/

def Navigation.Entry.toJson (e : Navigation.Entry) : Json :=
  obj [("destination", str e.destination.path), ("key", str e.key), ("name", str e.name),
    ("required_permissions", arr (e.required.map Permission.toJson))]

def SessionSummary.toJson (s : SessionSummary) : Json :=
  obj [("status", str s.status.text), ("username", ofOption (s.username.map str)),
    ("roles", strings s.roles), ("effective_permissions", strings s.permissions)]

def Refusal.toJson (r : Refusal) : Json :=
  obj [("kind", str r.kind.text), ("message", str r.message),
    ("suggestions", strings r.suggestions)]

def Explanation.toJson (e : Explanation) : Json :=
  obj [("required_permission", e.required.toJson), ("granted", bool e.granted),
    ("reason", str e.reason), ("session", e.session.toJson),
    ("denial_reason", ofOption (e.refusal.map Refusal.toJson))]

end AdminConsole
