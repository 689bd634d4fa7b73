import AdminConsole.LogEvent

/-!
# The session of one user

Who is logged in, with what grants and since which login. An expired session keeps the user's name
and the time of the login, for display, and no grant; a cleared session keeps nothing.

A session changes by transitions only, and each replaces the whole session at once: what one login
brought is never seen with what another brought. `events` says what a transition writes to the log.

| here | there |
| --- | --- |
| `Session` | `Session`; `Snapshot` lists the fields of its `SessionState` |
| `Transition`, `apply` | `authenticate_profile`, `mark_expired`, `clear` |
| `LoginTime` | the moment that `authenticate_profile` takes from the clock |
| `since?` | `SessionState::authenticated_at` |
-/

namespace AdminConsole

/-- When a login happened. Two logins have different times. -/
abbrev LoginTime := Nat

/-- The session of one user. -/
inductive Session where
  | unauthenticated
  | alive (profile : UserProfile) (since : LoginTime)
  | expired (username : String) (since : LoginTime)
deriving DecidableEq, Repr, Inhabited

namespace Session

/-! ## What a session shows -/

def status : Session → SessionStatus
  | unauthenticated => .unauthenticated
  | alive .. => .alive
  | expired .. => .expired

def isAlive (s : Session) : Bool := s.status == .alive

def username? : Session → Option String
  | unauthenticated => none
  | alive profile _ => some profile.username
  | expired username _ => some username

def roles : Session → List Role
  | alive profile _ => profile.roles
  | _ => []

/-- The granted permissions, of which only a live session has any. -/
def permissions : Session → PermissionSet
  | alive profile _ => profile.permissions
  | _ => .empty

/-- The time of the login that the session stems from. -/
def since? : Session → Option LoginTime
  | unauthenticated => none
  | alive _ since => some since
  | expired _ since => some since

/-! ## Transitions -/

/-- What may happen to a session. -/
inductive Transition where
  /-- A login succeeded. -/
  | authenticate (profile : UserProfile) (time : LoginTime)
  /-- The server no longer honours the login. -/
  | expire
  /-- The user logged out. -/
  | clear
deriving DecidableEq, Repr

/-- A login replaces whatever was there. Only a live session expires, and only from being
unauthenticated is there nothing to clear. -/
def apply : Session → Transition → Session
  | _, .authenticate profile time => alive profile time
  | alive profile since, .expire => expired profile.username since
  | s, .expire => s
  | _, .clear => unauthenticated

def authenticated (profile : UserProfile) : LogEvent :=
  .sessionAuthenticated profile.username profile.permissions.size profile.roles.length

/-- What a transition writes to the log. -/
def events : Session → Transition → List LogEvent
  | _, .authenticate profile _ => [authenticated profile]
  | alive profile _, .expire => [.sessionExpired profile.username]
  | expired .., .expire => []
  | unauthenticated, .expire => [.expiryIgnored]
  | unauthenticated, .clear => []
  | alive profile _, .clear => [.sessionCleared profile.username]
  | expired username _, .clear => [.sessionCleared username]

/-- The session after a sequence of transitions. -/
def run (s : Session) (ts : List Transition) : Session := ts.foldl apply s

@[simp] theorem run_nil {s : Session} : s.run [] = s := rfl

@[simp] theorem run_cons {s : Session} {t : Transition} {ts : List Transition} :
    s.run (t :: ts) = (s.apply t).run ts := rfl

theorem run_append {s : Session} {ts us : List Transition} :
    s.run (ts ++ us) = (s.run ts).run us := List.foldl_append

end Session

end AdminConsole
