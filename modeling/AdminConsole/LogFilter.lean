import AdminConsole.LogFilter.Directive

/-!
# Log filters

Which events are shown. A filter is a list of directives. Of the directives about an event the
narrowest decides, and of two for the same events the later; an event that no directive is about is
not shown.

A text that is no list of directives is no filter, and the standard filter takes its place.
-/

namespace AdminConsole.Log

abbrev Filter := List Directive

namespace Filter

/-- Reads a filter. A text without any directive shows errors only. -/
def ofText? (text : String) : Option Filter :=
  match ((text.splitOn ",").filter (!·.isEmpty)).mapM Directive.ofText? with
  | some [] => some [⟨some .all, 1⟩]
  | ds => ds

/-- What matters is shown and what is only good for debugging is not. -/
def standard : Filter := [⟨some .all, 3⟩]

/-- The filter that a text asks for, or the standard one. -/
def ofOption (text : Option String) : Filter := (text >>= ofText?).getD standard

/-- The scopes that cover an event, each with the verbosity for it. -/
def about (f : Filter) (e : LogEvent) : List (Scope × Verbosity) :=
  f.filterMap fun d => (d.scope.filter (·.covers e)).map (·, d.verbosity)

/-- Of two scopes the narrower, or else the later. -/
def narrower (best : Option (Scope × Verbosity)) (d : Scope × Verbosity) :
    Option (Scope × Verbosity) :=
  match best with
  | none => some d
  | some b => if d.1.isBroader b.1 then some b else some d

/-- The verbosity for an event. -/
def deciding? (f : Filter) (e : LogEvent) : Option Verbosity :=
  ((f.about e).foldl narrower none).map (·.2)

def shows (f : Filter) (e : LogEvent) : Bool := (f.deciding? e).any (e.level.verbosity ≤ ·)

end Filter

end AdminConsole.Log
