import AdminConsole.Access

/-!
# Explanations of access decisions

A record of why a permission is or is not granted, what the session looked like, and what a user who
was refused may do about it. It is shown as diagnostics.

| here | there |
| --- | --- |
| `Session.explain` | `Access::explain`, that is `explain_authorization` |
| `Explanation`, `SessionSummary` | `AuthorizationExplanation`, `SessionSummary` |
| `Refusal`, `DenialKind` | `DenialReason`, `DenialKind` |
| `Navigation.Table.keysRequiring` | `unlocks` of `explain_authorization` |
-/

namespace AdminConsole

open Navigation

/-- The kinds of refusal. -/
inductive DenialKind where
  | notAuthenticated
  | sessionExpired
  | missingPermission
deriving DecidableEq, Repr

def DenialKind.text : DenialKind → String
  | .notAuthenticated => "not_authenticated"
  | .sessionExpired => "session_expired"
  | .missingPermission => "missing_permission"

def Denial.kind : Denial → DenialKind
  | .notAuthenticated => .notAuthenticated
  | .sessionExpired => .sessionExpired
  | .forbidden _ => .missingPermission

/-- A refusal with what may be done about it. -/
structure Refusal where
  kind : DenialKind
  message : String
  suggestions : List String
deriving DecidableEq, Repr

/-- What the session looked like when a decision was made. -/
structure SessionSummary where
  status : SessionStatus
  username : Option String
  roles : List String
  permissions : List String
deriving DecidableEq, Repr

def Session.summary (s : Session) : SessionSummary where
  status := s.status
  username := s.username?
  roles := s.roles.map Role.name
  permissions := s.permissions.names

structure Explanation where
  required : Permission
  granted : Bool
  reason : String
  session : SessionSummary
  refusal : Option Refusal
deriving DecidableEq, Repr

/-- The keys of the entries that a permission opens, in the table's order. -/
def Navigation.Table.keysRequiring (t : Table) (p : Permission) : List String :=
  (t.entries.filter fun e => e.required.contains p).map Entry.key

namespace Denial

/-- One sentence on why the session was refused. -/
def reason (s : Session) : Denial → String
  | notAuthenticated => "No user is logged in"
  | sessionExpired => "Session of '" ++ s.username?.getD "unknown user" ++ "' has expired"
  | forbidden p =>
    "Session does not hold permission '" ++ p.wire ++ "'. Current permissions: " ++
      Text.quotedList s.permissions.names

def advice (t : Table) : Denial → List String
  | notAuthenticated => ["Log in"]
  | sessionExpired => ["Log in again to restore the granted permissions"]
  | forbidden p =>
    ("Ask a system administrator for a role that grants '" ++ p.wire ++ "'") ::
      match t.keysRequiring p with
      | [] => []
      | keys => ["Granting '" ++ p.wire ++ "' would also unlock: " ++ ", ".intercalate keys]

def summary : Denial → String
  | notAuthenticated => "Permissions are only evaluated for an authenticated session"
  | sessionExpired => "An expired session holds no permissions"
  | forbidden p => "Missing required permission: '" ++ p.wire ++ "'"

def refusal (t : Table) (d : Denial) : Refusal := ⟨d.kind, d.summary, d.advice t⟩

end Denial

def Permission.grantReason (p : Permission) : String :=
  "Session holds permission '" ++ p.wire ++ "'"

/-- Explains why the session is or is not granted a permission. -/
def Session.explain (s : Session) (t : Table) (p : Permission) : Explanation :=
  match s.authorize p with
  | .ok () => ⟨p, true, p.grantReason, s.summary, none⟩
  | .error d => ⟨p, false, d.reason s, s.summary, some (d.refusal t)⟩

end AdminConsole
