import Bracework.Checks.Basic
import Bracework.Expression.Printer

/-!
# Checks on expressions

An expression is checked through its source text, or through the parts that expressions of its
shape have. A check on the parts of another shape fails.
-/

namespace Bracework

/-- The parts of a path, with the formatter and the arguments if it is called. -/
structure PathParts where
  segments : List Segment
  formatter : Option Text
  arguments : List (Argument Expression)

/-- The parts of an operation. -/
structure OperationParts where
  operator : Operator
  left : Expression
  right : Option Expression

namespace Expression

/-- The parts of a path or a call. -/
def pathParts? : Expression → Option PathParts
  | .path segments => some ⟨segments, none, []⟩
  | .call receiver formatter arguments => some ⟨receiver, some formatter, arguments⟩
  | _ => none

/-- The parts of an operation. -/
def operationParts? : Expression → Option OperationParts
  | .binary operator left right => some ⟨.binary operator, left, some right⟩
  | .invert operand => some ⟨.invert, operand, none⟩
  | _ => none

/-- The items of a sequence. -/
def items? : Expression → Option (List Expression)
  | .sequence items => some items
  | _ => none

end Expression

namespace Check

/-- Fails on an expression that has not the expected shape. -/
def otherShape (place : Text) (shape : String) (expression : Expression) :
    Except Mismatch Unit :=
  fail place (.differs "" shape.toList (expression.shape ++ " (" ++ expression.render ++ ")"))

/-- Checks the source text of an expression. -/
def renders (expected : Text) : Check Expression := fun place expression =>
  let found := expression.render
  require (found == expected) place
    (.differs "" (Text.apostrophed expected) (Text.apostrophed found))

/-- Checks a number as it is written. -/
def number (expected : Text) : Check Expression := fun place expression =>
  match expression with
  | .number literal => require (literal.raw == expected) place (.differs "number " expected literal.raw)
  | other => otherShape place "Number" other

/-- Checks the characters of a string. -/
def string (expected : Text) : Check Expression := fun place expression =>
  match expression with
  | .string literal =>
    require (literal.value == expected) place
      (.differs "string " expected.quoted literal.value.quoted)
  | other => otherShape place "String" other

/-- Checks the number of items of a sequence. -/
def sequenceSize (expected : Nat) : Check Expression := fun place expression =>
  match expression.items? with
  | some items =>
    require (items.length == expected) place
      (.differs "" (Text.ofNat expected ++ " list items") (Text.ofNat items.length))
  | none => otherShape place "List" expression

/-- Checks one item of a sequence. -/
def sequenceItem (index : Nat) (check : Check Expression) : Check Expression :=
  fun place expression =>
    match expression.items? with
    | some items =>
      match items[index]? with
      | some item => check (entry place ".items" index) item
      | none => fail place (.outOfBounds "list " index (Text.ofNat items.length ++ " items"))
    | none => otherShape place "List" expression

/-! ### Paths and calls -/

/-- Checks the parts of a path or a call. -/
def path (check : Check PathParts) : Check Expression := fun place expression =>
  match expression.pathParts? with
  | some parts => check place parts
  | none => otherShape place "Path" expression

/-- Checks the names of the segments. -/
def segments (expected : List Text) : Check PathParts := fun place parts =>
  require (parts.segments.map Segment.name == expected) place
    (.lacks ("segments " ++ Text.quotedList expected))

/-- Names of kinds of segments between brackets. -/
def segmentKindNames (kinds : List SegmentKind) : Text :=
  Text.bracketed (kinds.map fun kind => kind.words.camel)

/-- Checks the kinds of the segments. -/
def segmentKinds (expected : List SegmentKind) : Check PathParts := fun place parts =>
  let found := parts.segments.map Segment.kind
  require (found == expected) place
    (.differs "segment kinds " (segmentKindNames expected) (segmentKindNames found))

/-- Checks the formatter of a call. -/
def formatter (expected : Text) : Check PathParts := fun place parts =>
  require (parts.formatter == some expected) place
    (.differs "formatter " (Text.apostrophed expected) (Text.quotedOption parts.formatter))

/-- Checks that a path is not called. -/
def noFormatter : Check PathParts := fun place parts =>
  require parts.formatter.isNone place
    (.differs "no formatter" [] (Text.quotedOption parts.formatter))

/-- Checks the number of arguments. -/
def argumentCount (expected : Nat) : Check PathParts := fun place parts =>
  require (parts.arguments.length == expected) place
    (.differs "" (Text.ofNat expected ++ " arguments") (Text.ofNat parts.arguments.length))

/-- Checks one argument and its name. -/
def argument (index : Nat) (name : Option Text) (check : Check Expression) : Check PathParts :=
  fun place parts =>
    match parts.arguments[index]? with
    | some argument =>
      if argument.name = name then check (entry place ".arguments" index) argument.value
      else fail place (.lacks ("argument " ++ Text.ofNat index ++ " to be named "
        ++ Text.quotedOption name))
    | none =>
      fail place (.outOfBounds "argument " index (Text.ofNat parts.arguments.length ++ " arguments"))

/-! ### Operations -/

/-- Checks the parts of an operation. -/
def operation (check : Check OperationParts) : Check Expression := fun place expression =>
  match expression.operationParts? with
  | some parts => check place parts
  | none => otherShape place "Operator" expression

/-- Checks the operator. -/
def operator (expected : Operator) : Check OperationParts := fun place parts =>
  require (parts.operator == expected) place
    (.differs "operator " expected.symbol parts.operator.symbol)

/-- Checks the operand before the operator. -/
def left (check : Check Expression) : Check OperationParts := fun place parts =>
  check (place ++ ".left") parts.left

/-- Checks the operand after the operator. -/
def right (check : Check Expression) : Check OperationParts := fun place parts =>
  match parts.right with
  | some operand => check (place ++ ".right") operand
  | none => fail place (.differs "" "a right operand" "none")

/-- Checks that no operand follows the operator. -/
def unary : Check OperationParts := fun place parts =>
  require parts.right.isNone place (.lacks "a unary operator")

end Check

end Bracework
