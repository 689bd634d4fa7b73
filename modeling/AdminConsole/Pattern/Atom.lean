import AdminConsole.Text.Blank
import AdminConsole.Text.Digits

/-!
# Atoms of patterns

The least parts of a pattern and the mode in which they are read. Most characters stand for
themselves; a backslash makes a character stand for itself that does not, or something else of one
that does.

Patterns are matched against text. Where a mode has them read byte by byte, no more than ASCII may
be asked for, since a byte beyond it is no text. Without that mode, folding case, the classes of
digits, blanks and word characters and the edges of words would go by tables of all characters,
which are not at hand.
-/

namespace AdminConsole.Pattern

/-- How a part of a pattern is read. -/
structure Mode where
  /-- Letters stand for both cases. -/
  ignoreCase : Bool
  /-- A pattern is about characters and not about bytes. -/
  unicode : Bool
  /-- Blanks and comments are passed over. -/
  verbose : Bool
deriving DecidableEq, Repr

namespace Mode

def standard : Mode := ⟨false, true, false⟩

/-- Whether characters may be named at all: folding the case of any needs a table. -/
def namesCharacters (m : Mode) : Bool := !(m.ignoreCase && m.unicode)

/-- The text after blanks and after comments, which go from a `#` to the end of the line. -/
def skipComments (inComment : Bool) : List Char → List Char
  | [] => []
  | c :: cs =>
    if inComment then skipComments (c != '\n') cs
    else if Text.isBlank c then skipComments false cs
    else if c = '#' then skipComments true cs
    else c :: cs

/-- The text from the next character on that counts. -/
def skip (m : Mode) (cs : List Char) : List Char := if m.verbose then skipComments false cs else cs

end Mode

inductive Atom where
  /-- A character, perhaps given by the number of a byte. -/
  | char (c : Char) (byByte : Bool)
  /-- The digits, the blanks or the word characters, or all others. -/
  | shorthand (negated : Bool)
  /-- An end of the text or of a line. -/
  | edge
  /-- An edge of a word, or a place that is none. -/
  | wordEdge
deriving DecidableEq, Repr

namespace Atom

/-- Whether the atom may stand on its own. -/
def isAllowed (m : Mode) : Atom → Bool
  | char c byByte => m.namesCharacters && (m.unicode || !byByte || c.toNat < 0x80)
  | shorthand negated => !m.unicode && !negated
  | edge => true
  | wordEdge => !m.unicode

/-- Whether the atom may stand in a class of characters. -/
def isAllowedInClass (m : Mode) : Atom → Bool
  | char c _ => m.namesCharacters && (m.unicode || c.toNat < 0x80)
  | shorthand negated => !m.unicode && !negated
  | edge | wordEdge => false

end Atom

/-! ## Escapes -/

/-- How many hexadecimal digits follow a letter that announces them. -/
def hexLength? : Char → Option Nat
  | 'x' => some 2
  | 'u' => some 4
  | 'U' => some 8
  | _ => none

/-- Reads the values of so many hexadecimal digits. -/
def hexDigits? (m : Mode) : Nat → List Char → Option (List Nat × List Char)
  | 0, cs => some ([], cs)
  | n + 1, cs =>
    match m.skip cs with
    | [] => none
    | c :: cs => do
      let d ← Text.hexValue? c
      let (ds, cs) ← hexDigits? m n cs
      return (d :: ds, cs)

/-- What a single escaped character stands for. Every ASCII character but the letters and digits may
be escaped without need. -/
def escaped? (c : Char) : Option Atom :=
  match c with
  | 'a' => some (.char '\x07' false)
  | 'f' => some (.char '\x0c' false)
  | 'n' => some (.char '\n' false)
  | 'r' => some (.char '\r' false)
  | 't' => some (.char '\t' false)
  | 'v' => some (.char '\x0b' false)
  | 'd' | 's' | 'w' => some (.shorthand false)
  | 'D' | 'S' | 'W' => some (.shorthand true)
  | 'A' | 'z' => some .edge
  | 'b' | 'B' | '<' | '>' => some .wordEdge
  | c => if c.toNat < 0x80 && !c.isAlphanum then some (.char c false) else none

/-- Reads what follows a backslash. -/
def escape? (m : Mode) : List Char → Option (Atom × List Char)
  | [] => none
  | c :: cs =>
    match hexLength? c with
    | none => (escaped? c).map (·, cs)
    | some n => do
      let (ds, cs) ← hexDigits? m n cs
      let code := Text.ofDigitValues 16 ds
      if code.isValidChar then some (.char (.ofNat code) (c == 'x'), cs) else none

/-- Reads an atom in which only the backslash is special. -/
def atom? (m : Mode) : List Char → Option (Atom × List Char)
  | [] => none
  | '\\' :: cs => escape? m cs
  | c :: cs => some (.char c false, cs)

end AdminConsole.Pattern
