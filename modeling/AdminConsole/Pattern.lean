import AdminConsole.Pattern.Class
import AdminConsole.Text.Alphanumeric

/-!
# Patterns

Which texts are patterns, that is, regular expressions that a log filter takes for the values of
fields. No value is ever compared with one, so that only the form of a pattern matters.

A pattern is read once from left to right. A group remembers the mode that holds after it; a mode
that is set within a group holds up to its end.
-/

namespace AdminConsole.Pattern

/-! ## Reading -/

/-- A group that has been opened: what holds again after it. -/
structure Group where
  mode : Mode
  branch : Branch
deriving DecidableEq, Repr

/-- Where a reader stands in a pattern. -/
structure State where
  mode : Mode
  branch : Branch
  /-- The groups around, the innermost first. -/
  groups : List Group
  /-- The names that groups have been given. -/
  names : List (List Char)
deriving DecidableEq, Repr

namespace State

def initial : State := ⟨.standard, .empty, [], []⟩

def push (s : State) (depth : Option Nat) : State := { s with branch := s.branch.push depth }

/-- Enters a group. -/
def enter (s : State) (mode : Mode) : State :=
  { s with mode := mode, branch := .empty, groups := ⟨s.mode, s.branch⟩ :: s.groups }

/-- Leaves the innermost group. -/
def leave? (s : State) : Option State :=
  match s.groups with
  | [] => none
  | g :: groups =>
    some { s with mode := g.mode, branch := g.branch.push (some (s.branch.depth + 1)),
                  groups := groups }

/-- Repeats the last part. -/
def repeatLast? (s : State) : Option State :=
  s.branch.row.repeatLast?.map fun row => { s with branch := { s.branch with row := row } }

end State

/-- The mode with a flag set or cleared, if there is such a flag. Some matter only in matching. -/
def setFlag? (m : Mode) (on : Bool) : Char → Option Mode
  | 'i' => some { m with ignoreCase := on }
  | 'u' => some { m with unicode := on }
  | 'x' => some { m with verbose := on }
  | 'm' | 's' | 'U' | 'R' => some m
  | _ => none

/-- Reads flags up to the colon or the parenthesis after them, which is given too. Those after a
hyphen are cleared. None is given twice, the hyphen included, and the hyphen does not come last. -/
def flags? (m : Mode) (seen : List Char) : List Char → Option (Mode × Char × List Char)
  | [] => none
  | c :: cs =>
    if c = ':' ∨ c = ')' then if seen.head? = some '-' then none else some (m, c, cs)
    else if seen.contains c then none
    else if c = '-' then flags? m (c :: seen) cs
    else
      match setFlag? m (!seen.contains '-') c with
      | some m => flags? m (c :: seen) cs
      | none => none

/-- Whether a text may be the name of a group. -/
def isGroupName : List Char → Bool
  | [] => false
  | c :: cs =>
    (c == '_' || Text.isAlphabetic c) &&
      cs.all fun c => c == '_' || c == '.' || c == '[' || c == ']' || Text.isAlphanumeric c

/-- Reads the name of a group up to the bracket after it. -/
def State.enterNamed? (s : State) (cs : List Char) : Option (State × List Char) :=
  let name := cs.takeWhile (· != '>')
  match cs.dropWhile (· != '>') with
  | '>' :: rest =>
    if isGroupName name && !s.names.contains name then
      some ({ s with names := name :: s.names }.enter s.mode, rest)
    else none
  | _ => none

/-- Reads from after the parenthesis that opens a group, or that encloses flags for what follows. -/
def State.openGroup? (s : State) (cs : List Char) : Option (State × List Char) :=
  match cs with
  | '?' :: 'P' :: '<' :: rest => s.enterNamed? rest
  | '?' :: '<' :: rest => s.enterNamed? rest
  | '?' :: rest =>
    match flags? s.mode [] rest with
    | none => none
    | some (mode, c, after) =>
      if c = ':' then some (s.enter mode, after)
      else if rest.head? = some ')' then none
      else some ({ s with mode := mode }.push none, after)
  | rest => some (s.enter s.mode, rest)

/-- Reads the next part of a pattern, which starts with the given character. -/
def State.next? (s : State) (c : Char) (cs : List Char) : Option (State × List Char) :=
  match c with
  | '(' => s.openGroup? (s.mode.skip cs)
  | ')' => s.leave?.map (·, cs)
  | '|' => some ({ s with branch := s.branch.nextChoice }, cs)
  | '[' => (readClass? s.mode cs).map fun (depth, rest) => (s.push (some depth), rest)
  | '?' | '*' | '+' =>
    let rest := match cs with
      | '?' :: rest => rest
      | rest => rest
    s.repeatLast?.map (·, rest)
  | '\x7b' => none
  | '.' => if s.mode.unicode then some (s.push (some 0), cs) else none
  | '^' | '$' => some (s.push (some 0), cs)
  | c => do
    let (atom, rest) ← atom? s.mode (c :: cs)
    if atom.isAllowed s.mode then some (s.push (some 0), rest) else none

/-- Reads on to the end of a pattern. Every step takes a character. -/
def State.finishes : Nat → State → List Char → Bool
  | 0, _, _ => false
  | fuel + 1, s, cs =>
    match s.mode.skip cs with
    | [] => s.groups.isEmpty && s.branch.depth ≤ maxDepth
    | c :: rest =>
      match s.next? c rest with
      | some (s, rest) => finishes fuel s rest
      | none => false

/-- Whether a text without closing braces is a pattern. Without them there are no counted
repetitions: a brace that opens one is not closed. -/
def isPattern (cs : List Char) : Bool := State.initial.finishes (cs.length + 1) cs

end AdminConsole.Pattern
