import AdminConsole.Text.Unprintable

/-!
# Quoted text

How a text is shown inside a sentence so that its ends and its invisible characters can be seen: in
double quotes, with the quote and the backslash escaped by a backslash, the common controls by a
letter and every other unprintable character by its code point, as in `"a\u{301}"`.
-/

namespace AdminConsole.Text

/-- The escape of a code point: its hexadecimal digits, lower case and without leading zeros. -/
def codePointEscape (c : Char) : List Char :=
  ['\\', 'u', '\x7b'] ++ Nat.toDigits 16 c.toNat ++ ['\x7d']

/-- What stands for one character between the quotes. -/
def escapeChar (c : Char) : List Char :=
  match c with
  | '\x00' => ['\\', '0']
  | '\t' => ['\\', 't']
  | '\n' => ['\\', 'n']
  | '\r' => ['\\', 'r']
  | '"' => ['\\', '"']
  | '\\' => ['\\', '\\']
  | c => if isUnprintable c then codePointEscape c else [c]

/-- The text in quotes. -/
def quoted (s : String) : String :=
  String.ofList ('"' :: s.toList.flatMap escapeChar ++ ['"'])

/-- Quoted texts in brackets, separated by a comma and a space. -/
def quotedList (texts : List String) : String :=
  "[" ++ ", ".intercalate (texts.map quoted) ++ "]"

/-- A text that may be absent, shown as `None` or as `Some` around the quoted text. -/
def quotedOption : Option String → String
  | none => "None"
  | some s => "Some(" ++ quoted s ++ ")"

end AdminConsole.Text
