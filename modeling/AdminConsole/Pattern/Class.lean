import AdminConsole.Pattern.Atom
import AdminConsole.Pattern.Nesting

/-!
# Classes of characters

A class in brackets: characters, ranges, named classes and further classes, perhaps negated, and
joined by the operators `&&`, `--` and `~~`. Right after the bracket that opens, hyphens stand for
themselves and so does a closing bracket.
-/

namespace AdminConsole.Pattern

/-- The classes that are named between colons. -/
def classNames : List String :=
  ["alnum", "alpha", "ascii", "blank", "cntrl", "digit", "graph", "lower", "print", "punct",
   "space", "upper", "word", "xdigit"]

/-- Reads a named class after its bracket, and whether it is negated. -/
def namedClass? : List Char → Option (Bool × List Char)
  | ':' :: cs =>
    let (negated, cs) := match cs with
      | '^' :: cs => (true, cs)
      | cs => (false, cs)
    let name := String.ofList (cs.takeWhile (· != ':'))
    match cs.dropWhile (· != ':') with
    | ':' :: ']' :: cs => if classNames.contains name then some (negated, cs) else none
    | _ => none
  | _ => none

/-- The next character that counts, as far as it can be told before a comment has been read. -/
def glance (m : Mode) (cs : List Char) : Option Char :=
  if m.verbose then
    let ahead := match cs.dropWhile Text.isBlank with
      | '#' :: ahead => ahead.dropWhile Text.isBlank
      | ahead => ahead
    (ahead.head?).orElse fun _ => cs.head?
  else cs.head?

/-- Reads a character, a range or a class by a letter. -/
def classItem? (m : Mode) (cs : List Char) : Option (List Char) := do
  let (first, cs) ← atom? m cs
  let cs := m.skip cs
  match cs with
  | '-' :: after =>
    if glance m after == some ']' || glance m after == some '-' then
      if first.isAllowedInClass m then some cs else none
    else
      match first, ← atom? m (m.skip after) with
      | .char a _, (.char b byByte, cs) =>
        if a ≤ b && first.isAllowedInClass m && (Atom.char b byByte).isAllowedInClass m then some cs
        else none
      | _, _ => none
  | _ => if first.isAllowedInClass m then some cs else none

/-- Where a reader stands in a class. -/
inductive ClassPlace where
  /-- Right after the bracket that opens. -/
  | opened
  /-- After hyphens that follow the bracket that opens. -/
  | hyphens
  | inside
deriving DecidableEq, Repr

/-- Reads on to the end of the outermost class and gives its depth. The branches are those of the
classes around the innermost one and of that one itself. -/
def classRest? (m : Mode) : Nat → List Branch → Branch → ClassPlace → List Char →
    Option (Nat × List Char)
  | 0, _, _, _, _ => none
  | fuel + 1, outer, b, place, cs =>
    let character (place : ClassPlace) (cs : List Char) : Option (Nat × List Char) :=
      if m.namesCharacters then classRest? m fuel outer (b.push (some 0)) place cs else none
    let cs := m.skip cs
    match cs with
    | [] => none
    | c :: rest =>
      if c = '-' ∧ place ≠ .inside then character .hyphens rest
      else if c = ']' ∧ place = .opened then character .inside rest
      else if c = ']' then
        match outer with
        | [] => some (b.depth + 1, rest)
        | o :: outer => classRest? m fuel outer (o.push (some (b.depth + 1))) .inside rest
      else if c = '[' then
        match namedClass? rest with
        | some (negated, rest) =>
          if negated && !m.unicode then none else character .inside rest
        | none =>
          match m.skip rest with
          | '^' :: rest =>
            if m.unicode then classRest? m fuel (b :: outer) .empty .opened rest else none
          | rest => classRest? m fuel (b :: outer) .empty .opened rest
      else if (c = '&' ∨ c = '-' ∨ c = '~') ∧ rest.head? = some c then
        classRest? m fuel outer b.nextOperand .inside rest.tail
      else
        match classItem? m cs with
        | some rest => classRest? m fuel outer (b.push (some 0)) .inside rest
        | none => none

/-- Reads a class from after the bracket that opens it, and gives its depth. -/
def readClass? (m : Mode) (cs : List Char) : Option (Nat × List Char) :=
  match m.skip cs with
  | '^' :: rest =>
    if m.unicode then classRest? m (cs.length + 1) [] .empty .opened rest else none
  | rest => classRest? m (cs.length + 1) [] .empty .opened rest

end AdminConsole.Pattern
