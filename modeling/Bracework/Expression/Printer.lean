import Bracework.Expression.Basic

/-!
# Canonical source of an expression

Every expression has one written form. Segments are separated by dots, except that nothing
follows `~` and a slash follows `..`; arguments are separated by a comma and a blank, and
their names stand in brackets; an operator between two operands has a blank on either side; a
string literal takes a backslash before each occurrence of its own quote.

Nothing marks grouping: chains of operators group to the left, and a sequence is written with
dots between its items, which is how they are read.
-/

namespace Bracework

namespace Segment

/-- What separates a segment from the one named `previous` before it. -/
def separatorAfter (previous : Text) : Text :=
  if previous = "~" then [] else if previous = ".." then "/" else "."

/-- The written form of the segments after one named `previous`. -/
def renderAfter (previous : Text) : List Segment → Text
  | [] => []
  | segment :: rest =>
    separatorAfter previous ++ segment.name ++ renderAfter segment.name rest

/-- The written form of a path. -/
def renderAll : List Segment → Text
  | [] => []
  | first :: rest => first.name ++ renderAfter first.name rest

end Segment

namespace StringLiteral

/-- The literal between its quotes, with a backslash before each quote of the same kind. -/
def render (literal : StringLiteral) : Text :=
  [literal.delimiter] ++
    literal.value.flatMap
      (fun character =>
        if character = literal.delimiter then ['\\', character] else [character]) ++
    [literal.delimiter]

end StringLiteral

namespace Expression

/-- The receiver of a call with the dot before the formatter; a call without a receiver has
neither. -/
def renderReceiver (receiver : List Segment) : Text :=
  if receiver.isEmpty then [] else Segment.renderAll receiver ++ "."

/-- The name of an argument in its brackets, or nothing for an argument without one. -/
def renderName : Option Text → Text
  | some name => "[" ++ name ++ "]"
  | none => []

mutual

/-- The canonical source text of an expression. -/
def render : Expression → Text
  | .path segments => Segment.renderAll segments
  | .call receiver formatter arguments =>
    renderReceiver receiver ++ formatter ++ "(" ++ renderArguments arguments ++ ")"
  | .number literal => literal.raw
  | .string literal => literal.render
  | .sequence items => renderItems items
  | .binary operator left right => render left ++ " " ++ operator.symbol ++ " " ++ render right
  | .invert operand => render operand ++ "!"

/-- Arguments separated by a comma and a blank. -/
def renderArguments : List (Argument Expression) → Text
  | [] => []
  | [last] => renderArgument last
  | first :: second :: rest =>
    renderArgument first ++ ", " ++ renderArguments (second :: rest)

/-- An argument behind its name. -/
def renderArgument : Argument Expression → Text
  | ⟨name, value⟩ => renderName name ++ render value

/-- The items of a sequence separated by dots. -/
def renderItems : List Expression → Text
  | [] => []
  | [last] => render last
  | first :: second :: rest => render first ++ "." ++ renderItems (second :: rest)

end

end Expression

end Bracework
