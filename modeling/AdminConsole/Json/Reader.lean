import AdminConsole.Json
import AdminConsole.Json.Numeral
import AdminConsole.Text.Bytes
import AdminConsole.Text.Digits

/-!
# Reading JSON text

How a reader moves through JSON text: over blanks, words, numbers, strings and whole values. A
reader takes the characters that are left and gives what it read with the characters after it, or
the first fault it met: a character that the grammar does not allow, the end of a text that has to
go on, or a value of another type than the one asked for.

A value that nobody asked for is passed over and only its form is checked: halves of surrogate pairs
and numbers of any size are let through there.
-/

namespace AdminConsole.Json

/-- Why a text cannot be read. -/
inductive TextFault where
  /-- A character that cannot stand where it does. -/
  | malformed
  /-- The text ends too early. -/
  | truncated
  /-- A well-formed value of another type, a member given twice or a value left out. -/
  | mismatch
deriving DecidableEq, Repr

/-- A step through a text: from the characters left to a result and the characters then left. -/
abbrev Reader (α : Type) := List Char → Except TextFault (α × List Char)

namespace Reader

def isSpace (c : Char) : Bool := c == ' ' || c == '\n' || c == '\t' || c == '\r'

def skipSpace (cs : List Char) : List Char := cs.dropWhile isSpace

/-- Passes over one expected character, after any blanks. -/
def token (c : Char) (cs : List Char) : Except TextFault (List Char) :=
  match skipSpace cs with
  | d :: rest => if d = c then .ok rest else .error .malformed
  | [] => .error .truncated

/-- Passes over the characters of a word. -/
def word : List Char → List Char → Except TextFault (List Char)
  | [], cs => .ok cs
  | _ :: _, [] => .error .truncated
  | w :: ws, c :: cs => if c = w then word ws cs else .error .malformed

/-- Nothing but blanks may be left. -/
def finish (cs : List Char) : Except TextFault Unit :=
  if (skipSpace cs).isEmpty then .ok () else .error .malformed

/-! ## Numbers -/

/-- Digits of which there must be one. Where the text ends instead, the fault is `atEnd`. -/
def digits1 (atEnd : TextFault) (cs : List Char) : Except TextFault (List Char × List Char) :=
  match cs with
  | [] => .error atEnd
  | c :: _ =>
    if c.isDigit then .ok (cs.takeWhile Char.isDigit, cs.dropWhile Char.isDigit)
    else .error .malformed

/-- The digits before the point: a zero stands alone. -/
def wholeDigits (atEnd : TextFault) (cs : List Char) : Except TextFault (List Char × List Char) :=
  match cs with
  | '0' :: rest =>
    match rest with
    | c :: _ => if c.isDigit then .error .malformed else .ok (['0'], rest)
    | [] => .ok (['0'], [])
  | _ => digits1 atEnd cs

def fraction (atEnd : TextFault) : Reader (List Char)
  | '.' :: rest => digits1 atEnd rest
  | cs => .ok ([], cs)

/-- The power of ten after an `e`. -/
def exponent (atEnd : TextFault) : Reader Int
  | c :: rest =>
    if c = 'e' ∨ c = 'E' then
      match rest with
      | '-' :: rest => do
        let (ds, rest) ← digits1 atEnd rest
        return (-(Text.decimalNumber ds : Int), rest)
      | '+' :: rest => do
        let (ds, rest) ← digits1 atEnd rest
        return ((Text.decimalNumber ds : Int), rest)
      | rest => do
        let (ds, rest) ← digits1 atEnd rest
        return ((Text.decimalNumber ds : Int), rest)
    else .ok (0, c :: rest)
  | [] => .ok (0, [])

/-- A number without its sign. -/
def unsignedNumber (atEnd : TextFault) : Reader Numeral := fun cs => do
  let (whole, cs) ← wholeDigits atEnd cs
  let (part, cs) ← fraction atEnd cs
  let (power, cs) ← exponent atEnd cs
  return (⟨whole, part, power⟩, cs)

def number (atEnd : TextFault) : Reader Numeral
  | '-' :: cs => unsignedNumber atEnd cs
  | cs => unsignedNumber atEnd cs

/-! ## Strings -/

/-- A code unit in four hexadecimal digits. Fewer than four bytes are too few, whatever they are. -/
def codeUnit : Reader Nat := fun cs =>
  match cs with
  | a :: b :: c :: d :: rest =>
    match Text.hexValue? a, Text.hexValue? b, Text.hexValue? c, Text.hexValue? d with
    | some a, some b, some c, some d => .ok (4096 * a + 256 * b + 16 * c + d, rest)
    | _, _, _, _ => .error .malformed
  | cs => .error (if Text.byteLength cs < 4 then .truncated else .malformed)

def isLeadingSurrogate (n : Nat) : Bool := 0xd800 ≤ n && n < 0xdc00

def isTrailingSurrogate (n : Nat) : Bool := 0xdc00 ≤ n && n < 0xe000

/-- The character after `\u`: the halves of a surrogate pair belong together. -/
def unicodeEscape : Reader Char := fun cs => do
  let (n, cs) ← codeUnit cs
  if isTrailingSurrogate n then .error .malformed
  else if isLeadingSurrogate n then
    match cs with
    | '\\' :: 'u' :: cs => do
      let (m, cs) ← codeUnit cs
      if isTrailingSurrogate m then
        return (.ofNat (0x10000 + 0x400 * (n - 0xd800) + (m - 0xdc00)), cs)
      else .error .malformed
    | [] | ['\\'] => .error .truncated
    | _ => .error .malformed
  else return (.ofNat n, cs)

/-- The character that an escape by a letter stands for. -/
def letterEscape? : Char → Option Char
  | '"' => some '"'
  | '\\' => some '\\'
  | '/' => some '/'
  | 'b' => some '\x08'
  | 'f' => some '\x0c'
  | 'n' => some '\n'
  | 'r' => some '\r'
  | 't' => some '\t'
  | _ => none

/-- One character of a string that has been opened, or nothing at the quote that closes it. -/
def stringChar (unicode : Reader Char) : Reader (Option Char)
  | [] => .error .truncated
  | '"' :: rest => .ok (none, rest)
  | ['\\'] => .error .truncated
  | '\\' :: 'u' :: rest => do
    let (c, rest) ← unicode rest
    return (some c, rest)
  | '\\' :: c :: rest =>
    match letterEscape? c with
    | some d => .ok (some d, rest)
    | none => .error .malformed
  | c :: rest => if c.toNat < 0x20 then .error .malformed else .ok (some c, rest)

/-- The characters up to the closing quote; each takes at least one character of the text. -/
def stringChars (unicode : Reader Char) : Nat → Reader (List Char)
  | 0, _ => .error .truncated
  | fuel + 1, cs => do
    match ← stringChar unicode cs with
    | (none, rest) => return ([], rest)
    | (some c, rest) =>
      let (more, rest) ← stringChars unicode fuel rest
      return (c :: more, rest)

/-- The rest of a string whose opening quote has been read. -/
def openString : Reader String := fun cs => do
  let (s, rest) ← stringChars unicodeEscape (cs.length + 1) cs
  return (.ofList s, rest)

/-- Passes over the rest of a string: of an escaped code unit only the digits are checked. -/
def skipString (cs : List Char) : Except TextFault (List Char) := do
  let unit : Reader Char := fun cs => (codeUnit cs).map fun (_, rest) => (' ', rest)
  let (_, rest) ← stringChars unit (cs.length + 1) cs
  return rest

/-! ## Whole values -/

/-- A list or an object that has been opened and not yet closed. -/
inductive Container where
  | list
  | object
deriving DecidableEq, Repr

def Container.closing : Container → Char
  | .list => ']'
  | .object => '\x7d'

/-- Passes over a word, a number or a string. -/
def skipScalar (cs : List Char) : Except TextFault (List Char) :=
  match cs with
  | 'n' :: rest => word ['u', 'l', 'l'] rest
  | 't' :: rest => word ['r', 'u', 'e'] rest
  | 'f' :: rest => word ['a', 'l', 's', 'e'] rest
  | '"' :: rest => skipString rest
  | c :: _ =>
    if c = '-' ∨ c.isDigit then (number .malformed cs).map (·.2) else .error .malformed
  | [] => .error .truncated

/-- Passes over the name of a member and its colon. -/
def skipName (cs : List Char) : Except TextFault (List Char) := do
  let rest ← token '"' cs
  let rest ← skipString rest
  token ':' rest

/-- Where a reader stands that passes over a value. -/
inductive Place where
  /-- Before a value. -/
  | value
  /-- After the bracket that opens the innermost container. -/
  | opened
  /-- After a value within the innermost container. -/
  | after
deriving DecidableEq, Repr

/-- Passes over values until the containers that are open have been closed. Every second step takes
a character. -/
def skipAll : Nat → List Container → Place → List Char → Except TextFault (List Char)
  | 0, _, _, _ => .error .truncated
  | _ + 1, [], .after, cs => .ok cs
  | fuel + 1, containers, .value, cs =>
    match skipSpace cs with
    | '[' :: rest => skipAll fuel (.list :: containers) .opened rest
    | '\x7b' :: rest => skipAll fuel (.object :: containers) .opened rest
    | cs => do skipAll fuel containers .after (← skipScalar cs)
  | fuel + 1, [], .opened, cs => skipAll fuel [] .value cs
  | fuel + 1, c :: containers, place, cs =>
    match skipSpace cs with
    | [] => .error .truncated
    | d :: rest =>
      if d = c.closing then skipAll fuel containers .after rest
      else if place = .after ∧ d ≠ ',' then .error .malformed
      else do
        let cs := if place = .after then rest else d :: rest
        skipAll fuel (c :: containers) .value (← if c = .object then skipName cs else .ok cs)

/-- Passes over one value. -/
def skipValue (cs : List Char) : Except TextFault (List Char) :=
  skipAll (2 * cs.length + 2) [] .value cs

/-! ## Values of a known type -/

/-- The fault of finding a value of another type. A scalar is read first, and must be well formed.
-/
def otherType (cs : List Char) : TextFault :=
  let scalar : Except TextFault Unit :=
    match cs with
    | 'n' :: rest => (word ['u', 'l', 'l'] rest).map fun _ => ()
    | 't' :: rest => (word ['r', 'u', 'e'] rest).map fun _ => ()
    | 'f' :: rest => (word ['a', 'l', 's', 'e'] rest).map fun _ => ()
    | '"' :: rest => (openString rest).map fun _ => ()
    | '[' :: _ | '\x7b' :: _ => .ok ()
    | c :: _ =>
      if c = '-' ∨ c.isDigit then do
        let (n, _) ← number .truncated cs
        if n.overflows then .error .malformed else .ok ()
      else .error .malformed
    | [] => .error .truncated
  match scalar with
  | .ok () => .mismatch
  | .error f => f

def string : Reader String := fun cs =>
  match skipSpace cs with
  | '"' :: rest => openString rest
  | cs => .error (otherType cs)

/-- Moves to the next item of a list, or finds none: the closing bracket is left in place. -/
def nextItem (first : Bool) : Reader Bool := fun cs =>
  match skipSpace cs with
  | [] => .error .truncated
  | ']' :: rest => .ok (false, ']' :: rest)
  | c :: rest =>
    if first then .ok (true, c :: rest)
    else if c = ',' then
      match skipSpace rest with
      | [] => .error .truncated
      | ']' :: _ => .error .malformed
      | cs => .ok (true, cs)
    else .error .malformed

/-- The items of a list up to its closing bracket, which is left in place. -/
def items {α : Type} (item : Reader α) : Nat → Bool → Reader (List α)
  | 0, _, _ => .error .truncated
  | fuel + 1, first, cs => do
    match ← nextItem first cs with
    | (false, rest) => return ([], rest)
    | (true, rest) =>
      let (a, rest) ← item rest
      let (as, rest) ← items item fuel false rest
      return (a :: as, rest)

def list {α : Type} (item : Reader α) : Reader (List α) := fun cs =>
  match skipSpace cs with
  | '[' :: rest => do
    let (as, rest) ← items item (rest.length + 1) true rest
    return (as, ← token ']' rest)
  | cs => .error (otherType cs)

/-- Moves to the next name of an object and reads it, or finds none: the closing brace is left in
place. -/
def nextName (first : Bool) : Reader (Option String) := fun cs =>
  match skipSpace cs with
  | [] => .error .truncated
  | '\x7d' :: rest => .ok (none, '\x7d' :: rest)
  | c :: rest => do
    let rest ← if first then pure (c :: rest)
      else if c = ',' then pure rest else .error .malformed
    let rest ← token '"' rest
    let (name, rest) ← openString rest
    return (some name, rest)

end Reader

end AdminConsole.Json
