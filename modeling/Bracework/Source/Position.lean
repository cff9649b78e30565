import Bracework.Text.Basic

/-!
# Positions in a template

Problems and tokens are found at byte offsets and shown at a line and a column, both counted
from one. The offsets of the line feeds are recorded once per template, in ascending order; a
binary search in that table gives the line of an offset, and counting characters from the
start of the line gives the column.

A line feed belongs to the line it ends. Offsets past the end count as the end.
-/

namespace Bracework

/-- A line and a column, both counted from one. Columns count characters. -/
structure Position where
  line : Nat
  column : Nat
deriving DecidableEq, Repr

namespace Position

/-- The written form of a position, such as `3:7`. -/
def render (position : Position) : Text :=
  Text.ofNat position.line ++ ":" ++ Text.ofNat position.column

end Position

/-- Offsets of the line feeds of a text whose first character sits at `offset`. -/
def lineFeedsFrom : Nat → Text → List Nat
  | _, [] => []
  | offset, first :: rest =>
    if first = '\n' then offset :: lineFeedsFrom (offset + first.utf8Size) rest
    else lineFeedsFrom (offset + first.utf8Size) rest

/-- A template with the ascending table of its line feeds. -/
structure LineTable where
  source : Text
  lineFeeds : Array Nat

namespace LineTable

/-- The table of a template, made by one scan. -/
def ofSource (source : Text) : LineTable :=
  { source, lineFeeds := (lineFeedsFrom 0 source).toArray }

/-- The number of lines; a template without line feeds has one. -/
def lineCount (table : LineTable) : Nat := table.lineFeeds.size + 1

/-- The first index in `low ..< high` whose entry is not below `bound`, or `high` when all
entries are below it. The entries have to ascend. -/
def firstNotBelow (entries : Array Nat) (bound low high : Nat) : Nat :=
  if low < high then
    let middle := (low + high) / 2
    if entries.getD middle bound < bound then firstNotBelow entries bound (middle + 1) high
    else firstNotBelow entries bound low middle
  else low
termination_by high - low

/-- The number of lines that end before `offset`, which is the index of its line. -/
def lineOf (table : LineTable) (offset : Nat) : Nat :=
  firstNotBelow table.lineFeeds offset 0 table.lineFeeds.size

/-- The offset at which a line begins, just after the line feed before it. -/
def lineStart (table : LineTable) : Nat → Nat
  | 0 => 0
  | line + 1 => table.lineFeeds.getD line 0 + 1

/-- An offset moved back to the end of the template when it lies past it. -/
def clamp (table : LineTable) (offset : Nat) : Nat := min offset table.source.byteLength

/-- The position of an offset. Inside a character, where no column can be counted, the
distance in bytes from the start of the line takes its place. -/
def locate (table : LineTable) (offset : Nat) : Position :=
  let offset := table.clamp offset
  let line := table.lineOf offset
  let start := table.lineStart line
  let passed := match Text.slice? start offset table.source with
    | some before => before.length
    | none => offset - start
  { line := line + 1, column := passed + 1 }

/-- Where the line of an offset begins and ends, its line feed left out. -/
def lineBounds (table : LineTable) (offset : Nat) : Nat × Nat :=
  let line := table.lineOf (table.clamp offset)
  (table.lineStart line, table.lineFeeds.getD line table.source.byteLength)

end LineTable

end Bracework
