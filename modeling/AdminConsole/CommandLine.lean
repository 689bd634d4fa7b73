import AdminConsole.LogFilter
import AdminConsole.Report

/-!
# The command line

The report on a user named on the command line, with the permissions listed after the name. The
configuration is read from the environment before anything else, and a fault in it is reported even
if the name is missing too.

| here | there |
| --- | --- |
| `report`, `run` | `main` of `csadmin-nav` |
| `Failure.message` | what is shown of the `anyhow::Error` that `main` returns |
| `filter` | the filter that `csadmin_observability::init` installs |
-/

namespace AdminConsole.CommandLine

/-- Why there is no report. -/
inductive Failure where
  | config (error : ConfigError)
  | usage
deriving DecidableEq, Repr

/-- The text with every line after the first indented by four blanks. -/
def hang (text : String) : String :=
  String.ofList (text.toList.flatMap fun c => if c = '\n' then "\n    ".toList else [c])

/-- What is written on standard error. -/
def Failure.message : Failure → String
  | .config error =>
    "Error: invalid client configuration\n\nCaused by:\n    " ++ hang error.message ++ "\n"
  | .usage => "Error: usage: csadmin-nav <username> [PERMISSION...]\n"

/-- The report, or why there is none. -/
def report (args : List String) (env : Config.Environment) : Except Failure Report := do
  let config ← (Config.ofEnvironment env).mapError .config
  match args with
  | [] => .error .usage
  | username :: names => return .ofNames config username names

/-- Everything that is logged on the way. -/
def events (args : List String) (env : Config.Environment) : List LogEvent :=
  let lookup := Config.lookupText env
  Config.events lookup ++
    match Config.ofLookup lookup, args with
    | .ok _, username :: names => Report.events username names
    | _, _ => []

/-- The environment variable that chooses what is logged. -/
def filterVariable : String := "RUST_LOG"

def filter (env : Config.Environment) : Log.Filter :=
  .ofOption (Config.lookupText env filterVariable)

/-- What a run leaves behind. -/
structure Result where
  exitCode : UInt32
  /-- The events that are shown. -/
  log : List LogEvent
  output : String
  errors : String
deriving DecidableEq, Repr

def run (args : List String) (env : Config.Environment) : Result :=
  let log := (events args env).filter (filter env).shows
  match report args env with
  | .ok r => ⟨0, log, r.text, ""⟩
  | .error f => ⟨1, log, "", f.message⟩

/-- The line that shows an event. -/
def logLine (e : LogEvent) : String :=
  let field : String × Log.Field → String × Json
    | (name, .count n) => (name, .int n)
    | (name, .text s) => (name, .str s)
  (Json.obj [("level", .str e.level.text),
    ("fields", .obj (("message", .str e.message) :: e.fields.map field))]).compact

end AdminConsole.CommandLine
