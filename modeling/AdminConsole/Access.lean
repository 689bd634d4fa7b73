import AdminConsole.Navigation
import AdminConsole.Session

/-!
# Access

What a session may do and which sections of the console are open to it. Every answer is computed
from the current session and the navigation table alone.

| here | there |
| --- | --- |
| `authorize`, `Denial` | `authorize`, which `Access::require` calls, and `AuthzError` |
| `hasPermission`, `hasAnyPermission` | `Access::has_permission`, `has_any_permission` |
| `reachableEntries`, `firstReachableEntry?` | `Access::reachable_entries`, `first_reachable_entry` |
| `landingRoute` | `Access::landing_route` |
-/

namespace AdminConsole

open Navigation

/-- Why a permission is not granted. -/
inductive Denial where
  | notAuthenticated
  | sessionExpired
  | forbidden (missing : Permission)
deriving DecidableEq, Repr

def Denial.message : Denial → String
  | .notAuthenticated => "not authenticated"
  | .sessionExpired => "session expired"
  | .forbidden missing => "forbidden: missing permission '" ++ missing.wire ++ "'"

namespace Session

/-- Grants a permission or says why not. Only a live session holds permissions. -/
def authorize (s : Session) (p : Permission) : Except Denial Unit :=
  match s with
  | unauthenticated => .error .notAuthenticated
  | expired .. => .error .sessionExpired
  | alive profile _ =>
    if profile.permissions.contains p then .ok () else .error (.forbidden p)

def hasPermission (s : Session) (p : Permission) : Bool := (s.authorize p).isOk

/-- Whether any of the permissions is held; of none at all, none is. -/
def hasAnyPermission (s : Session) (ps : List Permission) : Bool := ps.any s.hasPermission

/-- Whether an entry is open to the session. -/
def reaches (s : Session) (e : Entry) : Bool := s.hasAnyPermission e.required

/-- The entries open to the session, in the table's order. -/
def reachableEntries (s : Session) (t : Table) : List Entry := t.entries.filter s.reaches

def firstReachableEntry? (s : Session) (t : Table) : Option Entry := t.entries.find? s.reaches

/-- Where the router sends the user: to the login unless the session is alive, then to the first
open entry, and to the refusal if there is none. -/
def landingRoute (s : Session) (t : Table) : Route :=
  if s.isAlive then
    match s.firstReachableEntry? t with
    | some e => e.destination
    | none => .forbidden
  else .login

end Session

end AdminConsole
