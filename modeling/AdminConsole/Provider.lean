import AdminConsole.PermissionSet
import AdminConsole.Role
import AdminConsole.Text.Quoted

/-!
# The authentication provider

What the console asks of the server and what the server answers. The provider only answers; its
answers are applied to the session by the client.

| here | there |
| --- | --- |
| `UserData.profile` | `UserData::into_profile` |
| `RemoteStatus`, `AuthError` | `RemoteSessionStatus`, `AuthError` |
| `Credentials.redacted` | the `Debug` text of a `Credentials` |
-/

namespace AdminConsole

/-- A user's name and password. The password appears in no text made of the credentials. -/
structure Credentials where
  username : String
  password : String
deriving DecidableEq

/-- The credentials with the password blacked out. -/
def Credentials.redacted (c : Credentials) : String :=
  "Credentials \x7b username: " ++ Text.quoted c.username ++
    ", password: SecretBox<str>([REDACTED]) \x7d"

/-- Why a call to the provider failed. -/
inductive AuthError where
  | invalidCredentials
  | network (text : String)
  | api (code : UInt16) (text : String)
  | timeout
deriving DecidableEq, Repr

def AuthError.message : AuthError → String
  | .invalidCredentials => "invalid username or password"
  | .network text => "network error: " ++ text
  | .api code text => "API error (" ++ toString code.toNat ++ "): " ++ text
  | .timeout => "request timed out"

/-- Identity and grants of a user, as the session holds them. -/
structure UserProfile where
  username : String
  roles : List Role
  permissions : PermissionSet
deriving DecidableEq, Repr, Inhabited

/-- A user's data as the server sends them after a login or when asked again. -/
structure UserData where
  username : String
  roles : List String
  permissions : List String
deriving DecidableEq, Repr, Inhabited

def UserData.profile (u : UserData) : UserProfile where
  username := u.username
  roles := u.roles.map Role.mk
  permissions := .ofNames u.permissions

/-- The server's word on whether a session is still valid. -/
inductive RemoteStatus where
  | alive
  | expired
deriving DecidableEq, Repr

def RemoteStatus.text : RemoteStatus → String
  | .alive => "alive"
  | .expired => "expired"

/-- What a call to the provider returns: an answer of the type it is asked for, or why it failed. -/
abbrev Reply (α : Type) := Except AuthError α

instance Reply.decidableEq {α : Type} [DecidableEq α] : DecidableEq (Reply α)
  | .ok a, .ok b => decidable_of_iff (a = b) ⟨congrArg _, Except.ok.inj⟩
  | .error a, .error b => decidable_of_iff (a = b) ⟨congrArg _, Except.error.inj⟩
  | .ok _, .error _ => isFalse nofun
  | .error _, .ok _ => isFalse nofun

end AdminConsole
