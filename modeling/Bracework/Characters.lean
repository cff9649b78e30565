import Bracework.Text.Letters
import Bracework.Text.Space

/-!
# Character classes of the template language

Each class is a predicate on one character. Two characters play two parts: a dot separates the
segments of a path and also ends an argument, and a slash belongs to a path after `..` and is
an operator elsewhere. The reader of an expression decides between the parts by its state.
-/

namespace Bracework

/-- A character that opens and closes a string literal. -/
def isQuote (character : Char) : Bool := character == '\'' || character == '"'

/-- A decimal digit of ASCII; no other digit begins or continues a number. -/
def isDigit (character : Char) : Bool := character.isDigit

/-- A character of a member, partial, formatter or argument name. -/
def isNameChar (character : Char) : Bool := isLetterOrNumber character || character == '_'

/-- A character that may occur in a path. -/
def isPathChar (character : Char) : Bool :=
  isNameChar character || character == '.' || character == '~' || character == '$' ||
    character == '/' || character == '?'

/-- A character that may begin a path. -/
def beginsPath (character : Char) : Bool :=
  isLetter character || character == '_' || character == '.' || character == '~' ||
    character == '$' || character == '?'

/-- A character of an operator symbol. -/
def isOperatorChar (character : Char) : Bool :=
  character == '+' || character == '-' || character == '*' || character == '/' ||
    character == '^' || character == '%' || character == '<' || character == '>' ||
    character == '=' || character == '!' || character == '&' || character == '|'

/-- A character that may end an argument. -/
def endsArgument (character : Char) : Bool :=
  character == ',' || character == '.' || character == ')'

end Bracework
