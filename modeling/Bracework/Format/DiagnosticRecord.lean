import Bracework.Diagnostic.Basic
import Bracework.Format.Datum

/-!
# Diagnostics as data

A diagnostic is a record of its category, its place, the texts about it and the window into its
line.
-/

namespace Bracework

namespace Position

/-- A position as a record. -/
def datum (position : Position) : Datum :=
  .record [("line", .natural position.line), ("column", .natural position.column)]

end Position

namespace Window

/-- A window as a record. -/
def datum (window : Window) : Datum :=
  .record [("text", .text window.text), ("marker", .natural window.marker)]

end Window

namespace Diagnostic

/-- A diagnostic as a record. -/
def datum (diagnostic : Diagnostic) : Datum :=
  .record [("kind", .text diagnostic.category.words.dashed),
    ("offset", .natural diagnostic.offset),
    ("position", diagnostic.position.datum),
    ("expected", .text diagnostic.problem.expected),
    ("actual", .text diagnostic.problem.actual),
    ("message", .text diagnostic.problem.message),
    ("context", diagnostic.window.datum)]

end Diagnostic

end Bracework
