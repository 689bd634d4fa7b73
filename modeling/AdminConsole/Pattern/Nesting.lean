/-!
# How deep a pattern nests

Patterns that nest too deep are refused. What counts is the depth of the pattern's tree: a part is
one deeper than the deepest of what it is made of, and where several parts stand side by side, or
are offered as choices, that too is a part.

The depth is kept while the pattern is read, as the depths of the parts that are still growing.
-/

namespace AdminConsole.Pattern

/-- The parts that stand side by side at one place. -/
structure Row where
  count : Nat
  /-- How deep the last part is; nothing if there is none or it cannot be repeated. -/
  last : Option Nat
  /-- How deep the deepest of the others is. -/
  deepest : Nat
deriving DecidableEq, Repr

namespace Row

def empty : Row := ⟨0, none, 0⟩

/-- Adds a part, with its depth if it can be repeated. -/
def push (r : Row) (depth : Option Nat) : Row :=
  ⟨r.count + 1, depth, max r.deepest (r.last.getD 0)⟩

/-- Repeats the last part, if there is one that can be. -/
def repeatLast? (r : Row) : Option Row := r.last.map fun d => { r with last := some (d + 1) }

def depth (r : Row) : Nat :=
  if r.count ≤ 1 then r.last.getD 0 else max r.deepest (r.last.getD 0) + 1

end Row

/-- A row and what was joined to it before: by bars between choices, or by operators in a class. -/
structure Branch where
  /-- How deep what came before is. -/
  joined : Option Nat
  row : Row
deriving DecidableEq, Repr

namespace Branch

def empty : Branch := ⟨none, .empty⟩

def push (b : Branch) (depth : Option Nat) : Branch := { b with row := b.row.push depth }

def depth (b : Branch) : Nat :=
  match b.joined with
  | none => b.row.depth
  | some d => max d b.row.depth + 1

/-- Goes on to the next choice. All choices are on one level. -/
def nextChoice (b : Branch) : Branch := ⟨some (max (b.joined.getD 0) b.row.depth), .empty⟩

/-- Goes on after an operator, which takes what came before it as one operand. -/
def nextOperand (b : Branch) : Branch := ⟨some b.depth, .empty⟩

end Branch

/-- How deep a pattern may nest. -/
def maxDepth : Nat := 250

end AdminConsole.Pattern
