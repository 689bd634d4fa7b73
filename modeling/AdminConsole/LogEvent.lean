import AdminConsole.Duration
import AdminConsole.Notification.Id
import AdminConsole.Provider
import AdminConsole.Session.Status

/-!
# Log events

What the console writes to its log. An event records what happened and with what; its level, its
message and its named fields follow from that.
-/

namespace AdminConsole

namespace Log

/-- How much an event matters, from the least on. -/
inductive Level where
  | debug
  | info
  | warn
deriving DecidableEq, Repr

def Level.text : Level → String
  | .debug => "DEBUG"
  | .info => "INFO"
  | .warn => "WARN"

/-- The part of the console that writes an event. -/
inductive Source where
  /-- The granted permissions. -/
  | permissions
  /-- Logins, expiry and logouts. -/
  | session
  | notifications
  | config
  /-- What a client asks the provider. -/
  | client
  | poller
deriving DecidableEq, Repr

/-- The name of the part, by which a filter chooses its events. -/
def Source.text : Source → String
  | .permissions => "csadmin_auth::permissions"
  | .session => "csadmin_auth::session"
  | .notifications => "csadmin_notifications::queue"
  | .config => "csadmin_client::config"
  | .client => "csadmin_client::session"
  | .poller => "csadmin_client::poller"

/-- The value of a field: a number where something is counted, else a text. -/
inductive Field where
  | count (n : Nat)
  | text (s : String)
deriving DecidableEq, Repr

end Log

/-- Something that the console logs. -/
inductive LogEvent where
  /-- The server granted an identifier outside the catalog. -/
  | unrecognizedPermission (name : String)
  /-- A login was recorded, with the numbers of granted identifiers and of roles. -/
  | sessionAuthenticated (username : String) (permissions roles : Nat)
  | sessionExpired (username : String)
  /-- Nobody was logged in whose session could expire. -/
  | expiryIgnored
  | sessionCleared (username : String)
  | settingAbsent (key : String)
  | errorNotified (id : NotificationId) (message : String)
  | loginFailed (username : String) (error : AuthError)
  | logoutRequestFailed (error : AuthError)
  /-- The server says that the session is still valid. -/
  | checkPassed
  /-- The server could not be asked, which counts as expiry. -/
  | checkFailed (error : AuthError)
  /-- The session that was asked about is no longer the current one. -/
  | checkOutdated
  | pollerStarted (period : Duration)
  | pollerSignalled
  /-- Nobody holds the session any more. -/
  | pollerAbandoned
  /-- A check found the session with this status, which is not `alive`. -/
  | pollerEnded (status : SessionStatus)
  | pollerStopped
  /-- A poller that a call waited for had failed. The text of its error, which names a task of the
  runtime, is left out. -/
  | pollerFailed
deriving DecidableEq, Repr

namespace LogEvent

open Log

def level : LogEvent → Level
  | unrecognizedPermission _ | expiryIgnored | settingAbsent _ | errorNotified .. | checkPassed
  | checkOutdated => .debug
  | sessionAuthenticated .. | sessionCleared _ | pollerStarted _ | pollerSignalled
  | pollerAbandoned | pollerEnded _ | pollerStopped => .info
  | sessionExpired _ | loginFailed .. | logoutRequestFailed _ | checkFailed _ | pollerFailed => .warn

def source : LogEvent → Source
  | unrecognizedPermission _ => .permissions
  | sessionAuthenticated .. | sessionExpired _ | expiryIgnored | sessionCleared _ => .session
  | errorNotified .. => .notifications
  | settingAbsent _ => .config
  | loginFailed .. | logoutRequestFailed _ | checkPassed | checkFailed _ | checkOutdated => .client
  | pollerStarted _ | pollerSignalled | pollerAbandoned | pollerEnded _ | pollerStopped
  | pollerFailed => .poller

/-- The event's message. An error notification is logged with the notification's own. -/
def message : LogEvent → String
  | unrecognizedPermission _ => "keeping unrecognized permission"
  | sessionAuthenticated .. => "session authenticated"
  | sessionExpired _ => "session expired"
  | expiryIgnored => "ignoring expiry of unauthenticated session"
  | sessionCleared _ => "session cleared"
  | settingAbsent _ => "not set; using default"
  | errorNotified _ message => message
  | loginFailed .. => "login failed"
  | logoutRequestFailed _ => "logout request failed; clearing local session anyway"
  | checkPassed => "session still alive"
  | checkFailed _ => "session status check failed; treating as expired"
  | checkOutdated => "session changed during status check; ignoring result"
  | pollerStarted _ => "session poller started"
  | pollerSignalled => "session poller received shutdown signal"
  | pollerAbandoned => "session dropped; stopping poller"
  | pollerEnded _ => "session no longer alive; stopping poller"
  | pollerStopped => "session poller stopped"
  | pollerFailed => "session poller task failed"

/-- The event's fields beside its message. -/
def fields : LogEvent → List (String × Field)
  | unrecognizedPermission name => [("permission", .text name)]
  | sessionAuthenticated username permissions roles =>
    [("username", .text username), ("permissions", .count permissions), ("roles", .count roles)]
  | sessionExpired username | sessionCleared username =>
    [("username", .text (Text.quotedOption (some username)))]
  | settingAbsent key => [("key", .text key)]
  | errorNotified id _ => [("id", .text id.toString)]
  | loginFailed username error =>
    [("username", .text username), ("error", .text error.message)]
  | logoutRequestFailed error | checkFailed error => [("error", .text error.message)]
  | pollerStarted period => [("period", .text period.text)]
  | pollerEnded status => [("status", .text status.text)]
  | expiryIgnored | checkPassed | checkOutdated | pollerSignalled | pollerAbandoned
  | pollerStopped | pollerFailed => []

/-- The events of sorting granted identifiers: one for each that the catalog does not have. -/
def ofNames (names : List String) : List LogEvent :=
  (names.filter fun n => (Permission.ofWire? n).isNone).map unrecognizedPermission

end LogEvent

end AdminConsole
