/-!
# JSON values

A JSON document without fractions, its indented text and its text on one line. An object keeps its
members in the order in which they are written; of members with one name, the last is the one that
counts. A number with a fraction or an exponent is in none of the console's values; `Json.Reader` passes over
one in a text, where nobody asks for it.
-/

namespace AdminConsole

inductive Json where
  | null
  | bool (b : Bool)
  | int (i : Int)
  | str (s : String)
  | arr (items : List Json)
  | obj (members : List (String × Json))
deriving Repr, Inhabited

namespace Json

/-- The value of a member. -/
def member? (name : String) : List (String × Json) → Option Json
  | [] => none
  | (n, v) :: rest =>
    match member? name rest with
    | some w => some w
    | none => if n = name then some v else none

def ofOption : Option Json → Json := (·.getD null)

def strings (l : List String) : Json := arr (l.map str)

/-! ## Indented text -/

/-- What stands for a character inside a JSON string. -/
def escapeChar (c : Char) : List Char :=
  match c with
  | '"' => ['\\', '"']
  | '\\' => ['\\', '\\']
  | '\x08' => ['\\', 'b']
  | '\x0c' => ['\\', 'f']
  | '\n' => ['\\', 'n']
  | '\r' => ['\\', 'r']
  | '\t' => ['\\', 't']
  | c =>
    if c.toNat < 0x20 then
      ['\\', 'u', '0', '0', Nat.digitChar (c.toNat / 16), Nat.digitChar (c.toNat % 16)]
    else [c]

def quote (s : String) : String := String.ofList ('"' :: s.toList.flatMap escapeChar ++ ['"'])

/-- A line break and the indentation of a depth. -/
def newline (depth : Nat) : String := String.ofList ('\n' :: List.replicate (2 * depth) ' ')

/-- Parts on lines of their own between two brackets, or the two brackets alone. -/
def bracketed (left right : String) (depth : Nat) (parts : List String) : String :=
  if parts.isEmpty then left ++ right
  else
    left ++ newline (depth + 1) ++ ("," ++ newline (depth + 1)).intercalate parts ++
      newline depth ++ right

mutual

/-- The text of a value that stands at a depth, each item and each member on a line of its own. -/
def indented (depth : Nat) : Json → String
  | null => "null"
  | bool b => if b then "true" else "false"
  | int i => toString i
  | str s => quote s
  | arr items => bracketed "[" "]" depth (itemTexts (depth + 1) items)
  | obj members => bracketed "\x7b" "\x7d" depth (memberTexts (depth + 1) members)

def itemTexts (depth : Nat) : List Json → List String
  | [] => []
  | v :: rest => indented depth v :: itemTexts depth rest

def memberTexts (depth : Nat) : List (String × Json) → List String
  | [] => []
  | (n, v) :: rest => (quote n ++ ": " ++ indented depth v) :: memberTexts depth rest

end

/-! ## Text on one line -/

mutual

/-- The text of a value without any blanks. -/
def compact : Json → String
  | null => "null"
  | bool b => if b then "true" else "false"
  | int i => toString i
  | str s => quote s
  | arr items => "[" ++ ",".intercalate (compactItems items) ++ "]"
  | obj members => "\x7b" ++ ",".intercalate (compactMembers members) ++ "\x7d"

def compactItems : List Json → List String
  | [] => []
  | v :: rest => compact v :: compactItems rest

def compactMembers : List (String × Json) → List String
  | [] => []
  | (n, v) :: rest => (quote n ++ ":" ++ compact v) :: compactMembers rest

end

end Json

end AdminConsole
