/-!
# Authentication status
-/

namespace AdminConsole

/-- Whether a user is logged in, and whether the server still honours the login. -/
inductive SessionStatus where
  | unauthenticated
  | alive
  | expired
deriving DecidableEq, Repr, Inhabited

namespace SessionStatus

def text : SessionStatus → String
  | .unauthenticated => "unauthenticated"
  | .alive => "alive"
  | .expired => "expired"

def all : List SessionStatus := [.unauthenticated, .alive, .expired]

end SessionStatus

end AdminConsole
