import Bracework.Text.Basic

/-!
# What can be wrong with an expression

Each way in which a path, a literal or an expression can fail to be read is a constructor of
its own, with the characters it is about. The wording for people is one function per kind of
fault.
-/

namespace Bracework

/-- Why a path, or the path before a call, cannot be read. -/
inductive PathFault where
  /-- A `~` that is not the first character. -/
  | rootNotFirst
  /-- A `/` without `..` directly before it. -/
  | slashNotAfterParent
  /-- A `$` or `?` that is not a segment of its own. -/
  | selectorNotAlone (selector : Char)
  /-- A name directly after a `$` or `?`. -/
  | missingDotAfterSelector
  | emptyPath
  | emptySegment (path : Text)
  | invalidSegment (segment : Text)
  | missingFormatter
  | invalidFormatter (name : Text)
deriving DecidableEq, Repr

namespace PathFault

/-- The wording of a fault. -/
def message : PathFault → Text
  | .rootNotFirst => "'~' is only allowed at the start of a path"
  | .slashNotAfterParent => "'/' is only allowed after '..'"
  | .selectorNotAlone selector => "'" ++ [selector] ++ "' must stand alone as a path segment"
  | .missingDotAfterSelector => "expected '.' after a context selector"
  | .emptyPath => "empty path"
  | .emptySegment path => "empty segment in path '" ++ path ++ "'"
  | .invalidSegment segment => "invalid path segment '" ++ segment ++ "'"
  | .missingFormatter => "expected the name of a formatter before '('"
  | .invalidFormatter name => "'" ++ name ++ "' is not a valid formatter name"

end PathFault

/-- Why a number cannot be read. -/
inductive NumberFault where
  /-- A name character directly after the number. -/
  | malformed (raw : Text)
  /-- A whole number that does not fit in sixty-three bits. -/
  | outOfRange (raw : Text)
deriving DecidableEq, Repr

namespace NumberFault

/-- The wording of a fault. -/
def message : NumberFault → Text
  | .malformed raw => "could not parse the number '" ++ raw ++ "'"
  | .outOfRange raw => "the number '" ++ raw ++ "' is out of range"

end NumberFault

/-- Why a string literal cannot be read. -/
inductive StringFault where
  /-- Nothing is left that could open a literal. -/
  | missing
  /-- No later quote ends the literal. -/
  | unclosed (delimiter : Char)
deriving DecidableEq, Repr

namespace StringFault

/-- The wording of a fault. -/
def message : StringFault → Text
  | .missing => "expected a string literal"
  | .unclosed delimiter => "string literal starting with " ++ [delimiter] ++ " is never closed"

end StringFault

/-- Why an expression cannot be read. -/
inductive ExpressionFault where
  /-- The characters read as a path do not form one. -/
  | path (fault : PathFault)
  /-- The path before a `(` does not end in the name of a formatter. -/
  | formatter (fault : PathFault)
  | number (fault : NumberFault)
  | string (fault : StringFault)
  /-- A character that belongs to no path. -/
  | strangeInPath (character : Char)
  /-- A `[` without a later `]`. -/
  | unclosedArgumentName
  | invalidArgumentName (name : Text)
  /-- A character that begins no operand. -/
  | notAnOperand (character : Char)
  /-- A character after an argument that neither separates arguments nor ends the call. -/
  | missingSeparator
  /-- A `)` outside every call. -/
  | strayClose
  /-- A `,` outside every call. -/
  | strayComma
  /-- A `(` directly after a complete call. -/
  | secondCall
  /-- A character that cannot follow a complete operand. -/
  | afterOperand (character : Char)
  | unknownOperator (symbol : Text)
  /-- A call that the text ends in; `written` is the text from the path on. -/
  | unclosedCall (written : Text)
  /-- The text ends where an operand has to follow. -/
  | missingOperand
  /-- Nothing was read at all. -/
  | empty
deriving DecidableEq, Repr

namespace ExpressionFault

/-- The wording of a fault. -/
def message : ExpressionFault → Text
  | .path fault => fault.message
  | .formatter fault => fault.message
  | .number fault => fault.message
  | .string fault => fault.message
  | .strangeInPath character => "unexpected '" ++ [character] ++ "' in path"
  | .unclosedArgumentName => "argument name is missing its closing ']'"
  | .invalidArgumentName name => "'" ++ name ++ "' is not a valid argument name"
  | .notAnOperand character => "expected an expression but found '" ++ [character] ++ "'"
  | .missingSeparator => "expected ',' or ')'"
  | .strayClose => "found ')' without a matching '('"
  | .strayComma => "',' is only allowed between formatter arguments"
  | .secondCall =>
    "expected the name of a formatter but found another '('; " ++
      "is a '.' missing before the second formatter?"
  | .afterOperand character => "unexpected '" ++ [character] ++ "' after a complete expression"
  | .unknownOperator symbol => "unknown operator '" ++ symbol ++ "'"
  | .unclosedCall written => "formatter call '" ++ written ++ "' is never closed"
  | .missingOperand => "expected an expression before the end of the tag"
  | .empty => "empty expression"

/-- What would have been valid instead, where one form can be named. -/
def expected : ExpressionFault → Text
  | .formatter _ => "name of a formatter"
  | .invalidArgumentName _ => "[name]"
  | .notAnOperand _ => "a path, string or number"
  | .missingSeparator => ")"
  | .secondCall => "name of a formatter"
  | .afterOperand _ => "an operator, '.', ',' or ')'"
  | .unclosedCall _ => ")"
  | _ => []

/-- The text that a fault is about: the call from its path on when a call is not closed, and
the whole expression otherwise. -/
def subject (whole : Text) : ExpressionFault → Text
  | .unclosedCall written => written
  | _ => whole

/-- Whether the expression could mean more than one thing, rather than nothing. -/
def isAmbiguous : ExpressionFault → Bool
  | .secondCall => true
  | _ => false

end ExpressionFault

end Bracework
