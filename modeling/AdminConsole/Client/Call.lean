import AdminConsole.Session

/-!
# Calls

A call is one use of a client: a login, a refresh of the user's data, a logout, a check of the
session or a question whether it is being polled. Calls run side by side. Each stands in a phase
between two points at which others may run, and it ends with an outcome.

A call is named by a number that no other call of the client has; pollers are numbered from zero in
the order in which they are spawned. Moments and deadlines count nanoseconds on the client's clock.

A check, made by a call or by a poller, starts by noting the login that it is about, and its answer
counts only if the session still stems from that login: `demotes` says when it does.

| here | there |
| --- | --- |
| `Request` | `login`, `refresh_user_data`, `logout`, `check_session` and `is_polling` of an `AdminSession` |
| `Ask`, `Answer` | the calls of an `AuthProvider` and what they resolve to |
| `CheckPhase` | where `check_session` stands: at its first look at the session, in `bounded`, at its second look |
| `demotes` | `same_session` of `check_session`, for an answer that is no `Alive` |
| `CallPhase` | what the call awaits next: the provider, the session, the poller slot or a poller that it stops |
-/

namespace AdminConsole.Client

/-- Whatever runs by itself: a call or a poller. -/
inductive Task where
  | call (c : Nat)
  | poller (p : Nat)
deriving DecidableEq, Repr

/-- What a client can be used for. -/
inductive Request where
  | login (credentials : Credentials)
  | refresh
  | logout
  | check
  /-- Asks whether a poller watches the session. -/
  | polling
deriving DecidableEq

/-- What is asked of the provider. -/
inductive Ask where
  | login (credentials : Credentials)
  | userData
  | status
  | logout
deriving DecidableEq

/-- What the provider answers, or why it does not. -/
inductive Answer where
  | failed (error : AuthError)
  | user (data : UserData)
  | status (status : RemoteStatus)
  | loggedOut
deriving DecidableEq, Repr

/-- How a call ended. -/
inductive Outcome where
  | completed
  | failed (error : AuthError)
  | status (status : SessionStatus)
  | polling (active : Bool)
deriving DecidableEq, Repr

/-! ## Checks -/

inductive CheckPhase where
  /-- Has not looked at the session yet. -/
  | opening
  /-- Waits for the provider's word on the session of a login, until a deadline. -/
  | asking (login : LoginTime) (deadline : Nat)
  /-- Has the provider's word and has not acted on it yet. -/
  | judging (login : LoginTime) (reply : Reply RemoteStatus)
deriving DecidableEq, Repr

/-- The login of a live session, which is what a check asks about. -/
def loginOf? : Session → Option LoginTime
  | .alive _ since => some since
  | _ => none

/-- Whether the provider's word means that the session is over. A failure to answer does. -/
def speaksAgainst : Reply RemoteStatus → Bool
  | .ok .alive => false
  | _ => true

/-- Whether a check of a login ends the session: only if the session still stems from that login. -/
def demotes (s : Session) (login : LoginTime) (reply : Reply RemoteStatus) : Bool :=
  speaksAgainst reply && loginOf? s == some login

/-- The session after a check of a login has acted on the provider's word. -/
def judge (s : Session) (login : LoginTime) (reply : Reply RemoteStatus) : Session :=
  if demotes s login reply then s.apply .expire else s

/-- What acting on the provider's word writes to the log. -/
def judgeEvents (s : Session) (login : LoginTime) (reply : Reply RemoteStatus) : List LogEvent :=
  match reply with
  | .ok .alive => [.checkPassed]
  | .ok .expired => if loginOf? s = some login then s.events .expire else [.checkOutdated]
  | .error e =>
    if loginOf? s = some login then .checkFailed e :: s.events .expire else [.checkOutdated]

/-! ## Phases of a call -/

inductive CallPhase where
  /-- Has not done anything yet. -/
  | ready
  /-- Waits for the provider, until a deadline. -/
  | asking (deadline : Nat)
  /-- Has the user's data and has not applied them yet. -/
  | applying (user : UserData)
  /-- Has applied the user's data and has not asked for the poller slot yet. -/
  | adopted
  /-- Waits for its turn at the poller slot. -/
  | queued
  /-- Waits for a poller to finish. -/
  | stopping (p : Nat)
  /-- Has the provider's answer to a logout and has not cleared the session yet. -/
  | clearing
  | checking (phase : CheckPhase)
  | done (outcome : Outcome)
deriving DecidableEq, Repr

structure Call where
  request : Request
  phase : CallPhase
deriving DecidableEq

namespace Call

/-- A call that has just been made. -/
def ofRequest (r : Request) : Call :=
  ⟨r, if r = .check then .checking .opening else .ready⟩

def outcome? (c : Call) : Option Outcome :=
  match c.phase with
  | .done o => some o
  | _ => none

def isOpen (c : Call) : Bool := c.outcome?.isNone

/-- Until when the call waits for the provider, if it does. -/
def deadline? (c : Call) : Option Nat :=
  match c.phase with
  | .asking d | .checking (.asking _ d) => some d
  | _ => none

end Call

end AdminConsole.Client
