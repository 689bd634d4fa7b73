import AdminConsole.LogEvent
import AdminConsole.Text.Blank

/-!
# Configuration

How often the session is checked and how long the client waits for the server. Both spans are
positive whatever the configuration was built from: `ofLookup` refuses a variable that holds
anything but a positive number of milliseconds, and the builders refuse a span of zero.

| here | there |
| --- | --- |
| `Config.standard` | `ClientConfig::default` |
| `Config.replace` | `with_poll_interval`, `with_request_timeout`, and `non_zero`, which they share |
| `Config.read`, `Config.millis?` | `millis` |
| `Config.ofLookup`, `Config.ofEnvironment` | `from_lookup`, `from_env` |
-/

namespace AdminConsole

/-- The spans that can be configured. -/
inductive Setting where
  | pollInterval
  | requestTimeout
deriving DecidableEq, Repr

namespace Setting

/-- The environment variable that overrides the setting. -/
def envName : Setting → String
  | .pollInterval => "CSADMIN_SESSION_POLL_MS"
  | .requestTimeout => "CSADMIN_REQUEST_TIMEOUT_MS"

def field : Setting → String
  | .pollInterval => "poll_interval"
  | .requestTimeout => "request_timeout"

end Setting

inductive ConfigError where
  /-- A variable is set to a text that is not a positive number of milliseconds. -/
  | invalidDuration (setting : Setting) (value : String)
  | zeroDuration (setting : Setting)
deriving DecidableEq, Repr

def ConfigError.message : ConfigError → String
  | .invalidDuration setting value =>
    setting.envName ++ " must be a positive number of milliseconds, got '" ++ value ++ "'"
  | .zeroDuration setting => setting.field ++ " must be non-zero"

/-- A span longer than nothing. -/
structure Period where
  duration : Duration
  positive : 0 < duration.nanoseconds
deriving DecidableEq, Repr

def Period.nanoseconds (p : Period) : Nat := p.duration.nanoseconds

/-- The timing of the client. -/
structure Config where
  pollInterval : Period
  requestTimeout : Period
deriving DecidableEq, Repr

namespace Config

/-- Half a minute between checks and ten seconds for an answer. -/
def standard : Config where
  pollInterval := ⟨.ofMillis 30000, by decide⟩
  requestTimeout := ⟨.ofMillis 10000, by decide⟩

instance : Inhabited Config := ⟨standard⟩

def get (c : Config) : Setting → Period
  | .pollInterval => c.pollInterval
  | .requestTimeout => c.requestTimeout

def set (c : Config) (setting : Setting) (p : Period) : Config :=
  match setting with
  | .pollInterval => { c with pollInterval := p }
  | .requestTimeout => { c with requestTimeout := p }

/-- The configuration with one span replaced, unless the new span is zero. -/
def replace (c : Config) (setting : Setting) (d : Duration) : Except ConfigError Config :=
  if h : 0 < d.nanoseconds then .ok (c.set setting ⟨d, h⟩) else .error (.zeroDuration setting)

/-! ## Reading variables -/

/-- The value of a sequence of decimal digits, of which there must be one. -/
def digitsValue? (cs : List Char) : Option Nat :=
  if cs.isEmpty || !cs.all Char.isDigit then none
  else some (Text.decimalNumber cs)

/-- The number written in digits, which a plus sign may precede. -/
def number? : List Char → Option Nat
  | '+' :: cs => digitsValue? cs
  | cs => digitsValue? cs

/-- The milliseconds that a text gives, blanks around them aside: a number of 64 bits above zero. -/
def millis? (raw : String) : Option { n : Nat // 0 < n } :=
  match number? (Text.trimBlank raw.toList) with
  | some n => if h : 0 < n ∧ n < UInt64.size then some ⟨n, h.1⟩ else none
  | none => none

def periodOfMillis (n : { n : Nat // 0 < n }) : Period where
  duration := .ofMillis n
  positive := Nat.mul_pos n.2 (by decide)

/-- The value of a setting: what its variable says, else the standard value. -/
def read (lookup : String → Option String) (setting : Setting) : Except ConfigError Period :=
  match lookup setting.envName with
  | none => .ok (standard.get setting)
  | some raw =>
    match millis? raw with
    | some n => .ok (periodOfMillis n)
    | none => .error (.invalidDuration setting raw)

/-- The configuration that the variables give. The poll interval is examined first. -/
def ofLookup (lookup : String → Option String) : Except ConfigError Config := do
  let poll ← read lookup .pollInterval
  let timeout ← read lookup .requestTimeout
  return ⟨poll, timeout⟩

/-- What reading the variables writes to the log: each one examined and found absent. -/
def events (lookup : String → Option String) : List LogEvent :=
  let absent (setting : Setting) : List LogEvent :=
    if (lookup setting.envName).isNone then [.settingAbsent setting.envName] else []
  match read lookup .pollInterval with
  | .ok _ => absent .pollInterval ++ absent .requestTimeout
  | .error _ => []

/-- A process environment: the bytes that each variable is set to. -/
abbrev Environment := String → Option ByteArray

/-- A variable that does not hold UTF-8 text counts as absent. -/
def lookupText (env : Environment) (name : String) : Option String :=
  env name >>= String.fromUTF8?

def ofEnvironment (env : Environment) : Except ConfigError Config := ofLookup (lookupText env)

end Config

end AdminConsole
