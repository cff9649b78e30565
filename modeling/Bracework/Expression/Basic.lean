import Bracework.Decimal.Binary64
import Bracework.Expression.Operator

/-!
# Expressions

What stands between the braces of a value tag, or after the keyword of a block tag, is an
expression:

    a.b.c              a path of three segments
    a.b(c, [n]2)       a call of the formatter `b` on the path `a`, with two arguments
    a().b              a sequence: each item works on the result of the item before it
    'text'   1.5       literals
    x + 1   x!         operators between two operands, and after one

Paths name their steps through the data: a member, the enclosing context, the outermost
context, or the current context itself.
-/

namespace Bracework

/-- How one segment of a path is resolved. -/
inductive SegmentKind where
  /-- A member of that name. -/
  | data
  /-- The enclosing context, written `..` or `$`. -/
  | parent
  /-- The outermost context, written `~`. -/
  | root
  /-- The current context itself, written `.` or `?`. -/
  | current
deriving DecidableEq, Repr

/-- One segment of a path. Segments that name no member keep the mark they were written with. -/
structure Segment where
  name : Text
  kind : SegmentKind
deriving DecidableEq, Repr

/-- The value of a number literal. -/
inductive Number where
  | integer (value : Nat)
  | decimal (value : Binary64)
deriving DecidableEq, Repr

/-- A number as it was written, and its value. -/
structure NumberLiteral where
  raw : Text
  value : Number
deriving DecidableEq, Repr

/-- The characters of a string literal, its escapes resolved, and the quote around it. -/
structure StringLiteral where
  value : Text
  delimiter : Char
deriving DecidableEq, Repr

/-- An argument of a call, with the name written in brackets before it, if there is one. -/
structure Argument (value : Type) where
  name : Option Text
  value : value
deriving DecidableEq, Repr, BEq

/-- An expression. -/
inductive Expression where
  | path (segments : List Segment)
  | call (receiver : List Segment) (formatter : Text) (arguments : List (Argument Expression))
  | number (literal : NumberLiteral)
  | string (literal : StringLiteral)
  | sequence (items : List Expression)
  | binary (operator : BinaryOperator) (left right : Expression)
  | invert (operand : Expression)
deriving Repr, BEq, Inhabited

namespace SegmentKind

/-- The words that name a kind of segment. -/
def words : SegmentKind → Words
  | .data => ["data"]
  | .parent => ["parent"]
  | .root => ["root"]
  | .current => ["current"]

/-- All kinds of segments. -/
def all : List SegmentKind := [.data, .parent, .root, .current]

/-- The kind with a given name. -/
def named? (name : Text) : Option SegmentKind :=
  all.find? fun kind => kind.words.underscored == name

end SegmentKind

namespace Expression

/-- The name of the shape of an expression. -/
def shape : Expression → Text
  | .path _ => "Path"
  | .call _ _ _ => "Path"
  | .number _ => "Number"
  | .string _ => "String"
  | .sequence _ => "List"
  | .binary _ _ _ => "Operator"
  | .invert _ => "Operator"

end Expression

end Bracework
