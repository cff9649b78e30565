import Bracework.Source.Position

/-!
# Windows into a line

A problem is shown with at most twenty characters of its line before it and twenty from it on,
and with a marker that says how many of the shown characters come before it.
-/

namespace Bracework

/-- A part of one line, and the number of its characters before the place it is about. -/
structure Window where
  text : Text
  marker : Nat
deriving DecidableEq, Repr

namespace Window

/-- The number of characters shown on either side. -/
def radius : Nat := 20

/-- The window around an offset. Inside a character the window begins with the line. -/
def around (table : LineTable) (offset : Nat) : Window :=
  let (start, stop) := table.lineBounds offset
  let offset := max start (min offset stop)
  let line := (Text.slice? start stop table.source).getD []
  let column := match Text.slice? start offset table.source with
    | some before => before.length
    | none => 0
  let first := column - radius
  { text := (line.take (column + radius)).drop first, marker := column - first }

/-- The shown text, and below it a caret under the marked place. -/
def render (window : Window) : Text :=
  window.text ++ "\n" ++ List.replicate window.marker ' ' ++ "^"

end Window

end Bracework
