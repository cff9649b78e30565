import Bracework.Diagnostic.Problem
import Bracework.Source.Window

/-!
# Diagnostics

A finding is a problem at a byte offset. Placed in its template it is a diagnostic, with the
position and the window that belong to the offset. Finding a problem never ends the work on a
template, so independent mistakes are reported together.
-/

namespace Bracework

/-- A problem found at a byte offset. -/
structure Finding where
  offset : Nat
  problem : Problem
deriving DecidableEq, Repr

/-- A finding with its position and its window. -/
structure Diagnostic where
  problem : Problem
  offset : Nat
  position : Position
  window : Window
deriving DecidableEq, Repr

namespace Diagnostic

/-- The diagnostic of a finding in a template. -/
def place (lines : LineTable) (finding : Finding) : Diagnostic :=
  { problem := finding.problem
    offset := finding.offset
    position := lines.locate finding.offset
    window := Window.around lines finding.offset }

/-- The category of the problem. -/
def category (diagnostic : Diagnostic) : Category := diagnostic.problem.category

/-- One line for people: the position, the category and the wording. -/
def render (diagnostic : Diagnostic) : Text :=
  diagnostic.position.render ++ ": " ++ diagnostic.category.words.spaced ++ ": "
    ++ diagnostic.problem.message

end Diagnostic

end Bracework
