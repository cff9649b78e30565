import Bracework.Text.Words

/-!
# Operators

Sixteen operators stand between two operands, and the mark `!` stands after one. A symbol is
one or two characters long; where both a long and a short symbol could be read, the long one
is.
-/

namespace Bracework

/-- An operator between two operands. -/
inductive BinaryOperator where
  | add
  | subtract
  | multiply
  | divide
  | pow
  | remainder
  | shiftLeft
  | shiftRight
  | equals
  | unequals
  | greaterThan
  | lessThan
  | greaterOrEqual
  | lessOrEqual
  | and
  | or
deriving DecidableEq, Repr

/-- Any operator: one between two operands, or the mark that inverts the operand before it. -/
inductive Operator where
  | binary (operator : BinaryOperator)
  | invert
deriving DecidableEq, Repr

namespace BinaryOperator

/-- The symbol of an operator. -/
def symbol : BinaryOperator → Text
  | .add => "+"
  | .subtract => "-"
  | .multiply => "*"
  | .divide => "/"
  | .pow => "^"
  | .remainder => "%"
  | .shiftLeft => "<<"
  | .shiftRight => ">>"
  | .equals => "=="
  | .unequals => "!="
  | .greaterThan => ">"
  | .lessThan => "<"
  | .greaterOrEqual => ">="
  | .lessOrEqual => "<="
  | .and => "&&"
  | .or => "||"

/-- The words that name an operator. -/
def words : BinaryOperator → Words
  | .add => ["add"]
  | .subtract => ["subtract"]
  | .multiply => ["multiply"]
  | .divide => ["divide"]
  | .pow => ["pow"]
  | .remainder => ["remainder"]
  | .shiftLeft => ["shift", "left"]
  | .shiftRight => ["shift", "right"]
  | .equals => ["equals"]
  | .unequals => ["unequals"]
  | .greaterThan => ["greater", "than"]
  | .lessThan => ["less", "than"]
  | .greaterOrEqual => ["greater", "or", "equal"]
  | .lessOrEqual => ["less", "or", "equal"]
  | .and => ["and"]
  | .or => ["or"]

end BinaryOperator

namespace Operator

/-- The symbol of an operator. -/
def symbol : Operator → Text
  | .binary operator => operator.symbol
  | .invert => "!"

/-- The words that name an operator. -/
def words : Operator → Words
  | .binary operator => operator.words
  | .invert => ["invert"]

/-- Whether an operand follows the symbol. -/
def isBinary : Operator → Bool
  | .binary _ => true
  | .invert => false

/-- The operators whose symbols have two characters. -/
def long : List Operator :=
  [.binary .shiftLeft, .binary .shiftRight, .binary .equals, .binary .unequals,
   .binary .greaterOrEqual, .binary .lessOrEqual, .binary .and, .binary .or]

/-- The operators whose symbols have one character. -/
def short : List Operator :=
  [.binary .add, .binary .subtract, .binary .multiply, .binary .divide, .binary .pow,
   .binary .remainder, .binary .greaterThan, .binary .lessThan, .invert]

/-- Every operator. -/
def all : List Operator := long ++ short

/-- The operator with the longest symbol at the start of a text, and what follows it. -/
def read? (text : Text) : Option (Operator × Text) :=
  all.findSome? fun operator => (Text.after? operator.symbol text).map (operator, ·)

/-- The operator with a given name. -/
def named? (name : Text) : Option Operator :=
  all.find? fun operator => operator.words.underscored == name

end Operator

end Bracework
