import Bracework.Source.Position

/-!
# Numbered excerpts

The line of a problem is printed between its neighbours: up to two lines before it and two
after it, each with its number, and the line itself marked.

The lines of an excerpt are those a reader sees. A line feed at the very end of the template
does not begin another line, and a carriage return directly before a line feed is not shown.
-/

namespace Bracework

namespace Text

/-- A line without the carriage return that stood before its line feed. -/
def dropReturn (line : Text) : Text :=
  if line.getLast? = some '\r' then line.dropLast else line

/-- The lines of a text as a reader sees them. `line` holds the characters read since the last
line feed, the newest first. -/
def visibleLinesFrom (line : Text) : Text → List Text
  | [] => if line.isEmpty then [] else [line.reverse]
  | first :: rest =>
    if first = '\n' then dropReturn line.reverse :: visibleLinesFrom [] rest
    else visibleLinesFrom (first :: line) rest

/-- The lines of a text as a reader sees them. -/
def visibleLines (text : Text) : List Text := visibleLinesFrom [] text

end Text

namespace Excerpt

/-- One printed line: a marker, the number in three columns, a bar and the text. -/
def row (marked : Bool) (number : Nat) (line : Text) : Text :=
  (if marked then ">>" else "  ") ++ " " ++ Text.padLeft 3 (Text.ofNat number) ++ " | " ++ line
    ++ "\n"

/-- The lines around a position: from two before its line to two after it. -/
def around (source : Text) (position : Position) : Text :=
  let marked := position.line - 1
  let numbered := source.visibleLines.zipIdx
  let shown := (numbered.take (marked + 3)).drop (marked - 2)
  shown.flatMap fun (line, index) => row (index == marked) (index + 1) line

end Excerpt

end Bracework
