import AdminConsole.LogEvent

/-!
# The notification queue

Messages to the user about what succeeded and what failed, each kind in the order in which it was
pushed. A message stays until it is dismissed by its identifier or all are reset.

Who pushes a notification supplies its identifier, which must be one that was not used before.

| here | there |
| --- | --- |
| `ErrorChain.text` | what `{:#}` shows of an `anyhow::Error` |
| `pushSuccess`, `pushError` | `push_success`, `push_error`; the latter for `push_error_object` too |
| `Operation.dismiss`, `reset`, `setContinueInit` | `dismiss`, `reset_all`, `set_continue_init` |
| the identifier of a push | `NotificationId::new` |
-/

namespace AdminConsole

/-- An error with the contexts in which it was seen, each added around the ones before. -/
structure ErrorChain where
  root : String
  /-- From the innermost to the outermost. -/
  contexts : List String
deriving DecidableEq, Repr, Inhabited

namespace ErrorChain

/-- The messages from the outermost to the root. -/
def messages (e : ErrorChain) : List String := e.contexts.reverse ++ [e.root]

/-- The outermost message. -/
def top (e : ErrorChain) : String := e.contexts.getLast?.getD e.root

def text (e : ErrorChain) : String := ": ".intercalate e.messages

end ErrorChain

inductive NotificationKind where
  | success
  | error
deriving DecidableEq, Repr

def NotificationKind.text : NotificationKind → String
  | .success => "success"
  | .error => "error"

/-- A message to the user. A failure may carry the error that caused it, unexamined. -/
structure Notification where
  id : NotificationId
  kind : NotificationKind
  message : String
  cause : Option ErrorChain
deriving DecidableEq, Repr

structure NotificationQueue where
  successes : List Notification
  errors : List Notification
  /-- Whether the initialisation may go on past a warning. -/
  continueInit : Bool
deriving DecidableEq, Repr

namespace NotificationQueue

def empty : NotificationQueue := ⟨[], [], false⟩

instance : Inhabited NotificationQueue := ⟨empty⟩

def isEmpty (q : NotificationQueue) : Bool := q.successes.isEmpty && q.errors.isEmpty

/-- What may happen to a queue. -/
inductive Operation where
  | pushSuccess (id : NotificationId) (message : String)
  | pushError (id : NotificationId) (message : String) (cause : Option ErrorChain)
  /-- Pushes an error whose message is the text of its own chain. -/
  | pushErrorChain (id : NotificationId) (cause : ErrorChain)
  /-- Removes the notification with the identifier, if there is one. -/
  | dismiss (id : NotificationId)
  /-- Removes everything, as when the view that showed the notifications is left. -/
  | reset
  | setContinueInit (value : Bool)
deriving DecidableEq, Repr

def pushSuccess (q : NotificationQueue) (id : NotificationId) (message : String) :
    NotificationQueue :=
  { q with successes := q.successes ++ [⟨id, .success, message, none⟩] }

def pushError (q : NotificationQueue) (id : NotificationId) (message : String)
    (cause : Option ErrorChain) : NotificationQueue :=
  { q with errors := q.errors ++ [⟨id, .error, message, cause⟩] }

def dismiss (q : NotificationQueue) (id : NotificationId) : NotificationQueue :=
  { q with successes := q.successes.filter (·.id != id), errors := q.errors.filter (·.id != id) }

def apply (q : NotificationQueue) : Operation → NotificationQueue
  | .pushSuccess id message => q.pushSuccess id message
  | .pushError id message cause => q.pushError id message cause
  | .pushErrorChain id cause => q.pushError id cause.text (some cause)
  | .dismiss id => q.dismiss id
  | .reset => empty
  | .setContinueInit value => { q with continueInit := value }

/-- What an operation writes to the log. -/
def events : Operation → List LogEvent
  | .pushError id message _ => [.errorNotified id message]
  | .pushErrorChain id cause => [.errorNotified id cause.text]
  | _ => []

/-- The queue after a sequence of operations. -/
def run (q : NotificationQueue) (ops : List Operation) : NotificationQueue := ops.foldl apply q

end NotificationQueue

end AdminConsole
