import AdminConsole.LogEvent
import AdminConsole.Pattern

/-!
# Directives

A directive says how far down the events are shown that it is about: all events, those of the parts
of the program whose name starts with a text, or those with a certain field. It is written as
`name[span{field}]=level`, where parts may be left out.

A directive for a span, or for the value that a field has in one, is about nothing, since the
console opens no spans; but the value has to be a pattern or a number.
-/

namespace AdminConsole.Log

/-- How far down a filter looks: from nothing at 0 over errors to everything at 5. -/
abbrev Verbosity := Nat

/-- From which verbosity on an event of the level is shown. -/
def Level.verbosity : Level → Verbosity
  | .warn => 2
  | .info => 3
  | .debug => 4

/-! ## What a directive is about -/

/-- Conditions on an event. Each that is there has to hold. -/
structure Scope where
  /-- What the name of the part that writes the event starts with. -/
  target : Option String
  /-- The name of a field that the event has. -/
  field : Option String
deriving DecidableEq, Repr

namespace Scope

/-- All events. -/
def all : Scope := ⟨none, none⟩

def covers (s : Scope) (e : LogEvent) : Bool :=
  s.target.all (fun t => t.toList.isPrefixOf e.source.text.toList) &&
    s.field.all fun f => ("message" :: e.fields.map (·.1)).contains f

/-- How much of the name of a part the scope gives: one more than the characters, or nothing. -/
def depth (s : Scope) : Nat := (s.target.map fun t => t.length + 1).getD 0

/-- Whether another scope goes before this one: it gives more of the name of a part, or else a field
where this one gives none or an earlier one. -/
def isBroader (s t : Scope) : Bool :=
  s.depth < t.depth ||
    s.depth == t.depth &&
      match s.field, t.field with
      | _, none => false
      | none, some _ => true
      | some f, some g => f < g

end Scope

structure Directive where
  /-- Nothing if the directive is about nothing. -/
  scope : Option Scope
  verbosity : Verbosity
deriving DecidableEq, Repr

namespace Directive

/-! ## Levels -/

def everything : Verbosity := 5

def verbosityWords : List String := ["off", "error", "warn", "info", "debug", "trace"]

/-- The number that decimal digits denote, perhaps after a plus. -/
def number? (cs : List Char) : Option Nat :=
  let ds := match cs with
    | '+' :: ds => ds
    | ds => ds
  if !ds.isEmpty && ds.all Char.isDigit then some (Text.decimalNumber ds) else none

/-- The verbosity that a number or a word of either case names. -/
def verbosity? (cs : List Char) : Option Verbosity :=
  match (number? cs).filter (· ≤ everything) with
  | some n => some n
  | none => verbosityWords.findIdx? (· == (String.ofList cs).toLower)

/-! ## Values of fields -/

/-- Whether nothing is left, or a power of ten. -/
def isPower : List Char → Bool
  | [] => true
  | c :: cs =>
    let ds := match cs with
      | '+' :: ds | '-' :: ds => ds
      | ds => ds
    (c == 'e' || c == 'E') && !ds.isEmpty && ds.all Char.isDigit

/-- Whether a text is a number without a sign: digits, perhaps with a point among or beside them and
with a power of ten, or the word for infinity or for no number. -/
def isNumber (cs : List Char) : Bool :=
  let whole := cs.takeWhile Char.isDigit
  let (fraction, power) := match cs.dropWhile Char.isDigit with
    | '.' :: rest => (rest.takeWhile Char.isDigit, rest.dropWhile Char.isDigit)
    | rest => ([], rest)
  ((!whole.isEmpty || !fraction.isEmpty) && isPower power) ||
    ["inf", "infinity", "nan"].contains (String.ofList cs).toLower

/-- Whether a text may be the value of a field. Numbers are patterns, unless they have a plus. -/
def isValue (cs : List Char) : Bool :=
  match cs with
  | '+' :: number => isNumber number
  | cs => Pattern.isPattern cs

/-! ## Directives as written -/

/-- What stands between the brackets of a directive. -/
structure Bracket where
  span : List Char
  /-- What stands between the braces after the span. -/
  field : Option (List Char)
deriving DecidableEq, Repr

/-- The words of a directive. -/
structure Written where
  name : List Char
  bracket : Option Bracket
  level : Option (List Char)
deriving DecidableEq, Repr

/-- Reads from after the bracket that opens to after the one that closes. -/
def bracket? (cs : List Char) : Option (Bracket × List Char) :=
  let inSpan (c : Char) : Bool := c != ']' && c != '\x7b'
  let span := cs.takeWhile inSpan
  match cs.dropWhile inSpan with
  | ']' :: rest => some (⟨span, none⟩, rest)
  | '\x7b' :: cs =>
    let field := cs.takeWhile (· != '\x7d')
    match cs.dropWhile (· != '\x7d') with
    | '\x7d' :: ']' :: rest => if field.isEmpty then none else some (⟨span, some field⟩, rest)
    | _ => none
  | _ => none

/-- Reads the level at the end of a directive, where there may be none. -/
def levelPart? : List Char → Option (Option (List Char))
  | [] => some none
  | '=' :: level => some (some level)
  | _ => none

def mayStart (c : Char) : Bool := c == '-' || c == ':' || c == '_' || Text.isAlphanumeric c

/-- Takes a directive apart into a name, a part in brackets and a level after an equals sign. One of
the first two has to be there. -/
def written? (cs : List Char) : Option Written := do
  let inName (c : Char) : Bool := c != '[' && c != '='
  let name := cs.takeWhile inName
  if !name.head?.all mayStart then none
  match cs.dropWhile inName with
  | '[' :: rest =>
    let (bracket, rest) ← bracket? rest
    return ⟨name, some bracket, ← levelPart? rest⟩
  | rest => if name.isEmpty then none else return ⟨name, none, ← levelPart? rest⟩

/-- The words that another text has in the places of these, which were taken from a text of the
given length. The last word goes on to the end. -/
def Written.over (w : Written) (length : Nat) (cs : List Char) : Written where
  name := if w.bracket.isNone && w.level.isNone then cs else cs.take w.name.length
  bracket := w.bracket.map fun b =>
    { b with field := b.field.map fun f =>
        (cs.drop (w.name.length + b.span.length + 2)).take f.length }
  level := w.level.map fun l => cs.drop (length - l.length)

/-! ## What is written -/

/-- The name of the field in the braces. -/
def Bracket.fieldName? (b : Bracket) : Option (List Char) := b.field.map (·.takeWhile (· != '='))

/-- The value after the name of the field, up to another equals sign. -/
def Bracket.fieldValue? (b : Bracket) : Option (List Char) :=
  match b.field.map (·.dropWhile (· != '=')) with
  | some (_ :: value) => some (value.takeWhile (· != '='))
  | _ => none

/-- Whether the bracket is about spans only. -/
def Bracket.isForSpans (b : Bracket) : Bool :=
  b.field.isNone || !b.span.isEmpty || b.fieldValue?.isSome

def Written.scope? (w : Written) : Option Scope :=
  let target := if w.name.isEmpty then none else some (String.ofList w.name)
  match w.bracket with
  | none => some ⟨target, none⟩
  | some b => if b.isForSpans then none else some ⟨target, b.fieldName?.map String.ofList⟩

def Written.verbosity? (w : Written) : Option Verbosity :=
  match w.level with
  | none | some [] => some everything
  | some level => Directive.verbosity? level

/-- Reads a directive. A word alone is a level if it can be one, and else a name.

Blanks around a directive are passed over to find where its words are, but the words are those in
these places of the text with the blanks: so the word ` debug` is no level. -/
def ofText? (text : String) : Option Directive := do
  let body := Text.trimBlank text.toList
  let w := (← written? body).over body.length text.toList
  if !(w.bracket >>= Bracket.fieldValue?).all isValue then none
  match if w.bracket.isNone && w.level.isNone then Directive.verbosity? w.name else none with
  | some v => return ⟨some .all, v⟩
  | none => return ⟨w.scope?, ← w.verbosity?⟩

end Directive

end AdminConsole.Log
