import Bracework.Expression.Basic
import Bracework.Format.Datum

/-!
# Expressions as data

Each expression is a record whose first field names its kind. Fields without a value are left
out, and so are the arguments of a call that has none.

How the value of a number is laid out depends on the reader of the data, so it is a parameter.
-/

namespace Bracework

namespace Segment

/-- A segment as a record. -/
def datum (segment : Segment) : Datum :=
  .record [("name", .text segment.name), ("kind", .text segment.kind.words.underscored)]

end Segment

namespace Number

/-- The value of a number as a plain number; infinity cannot be written as one. -/
def datum : Number → Datum
  | .integer value => .natural value
  | .decimal value => .real value

end Number

namespace Expression

mutual

/-- An expression as a record, with numbers laid out by `number`. -/
def datum (number : Number → Datum) : Expression → Datum
  | .path segments =>
    .record [("type", .text "path"), ("segments", .list (segments.map Segment.datum))]
  | .call receiver formatter arguments =>
    .record <|
      [("type", .text "path"), ("segments", .list (receiver.map Segment.datum)),
       ("formatter", .text formatter)] ++
      (if arguments.isEmpty then [] else [("arguments", .list (argumentData number arguments))])
  | .number literal =>
    .record [("type", .text "number"), ("raw", .text literal.raw),
      ("value", number literal.value)]
  | .string literal =>
    .record [("type", .text "string"), ("value", .text literal.value),
      ("delimiter", .text [literal.delimiter])]
  | .sequence items => .record [("type", .text "list"), ("items", .list (itemData number items))]
  | .binary operator left right =>
    .record [("type", .text "operator"), ("operator", .text operator.words.underscored),
      ("left", datum number left), ("right", datum number right)]
  | .invert operand =>
    .record [("type", .text "operator"), ("operator", .text Operator.invert.words.underscored),
      ("left", datum number operand)]

/-- Arguments as records. -/
def argumentData (number : Number → Datum) : List (Argument Expression) → List Datum
  | [] => []
  | first :: rest => argumentDatum number first :: argumentData number rest

/-- An argument as a record; one without a name has no field for it. -/
def argumentDatum (number : Number → Datum) : Argument Expression → Datum
  | ⟨name, value⟩ =>
    .record (Datum.optional "name" (name.map .text) ++ [("value", datum number value)])

/-- The items of a sequence as records. -/
def itemData (number : Number → Datum) : List Expression → List Datum
  | [] => []
  | first :: rest => datum number first :: itemData number rest

end

end Expression

end Bracework
