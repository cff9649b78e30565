import Bracework.Text.Basic
import Bracework.Text.Boundaries

/-!
# White space

Two notions of white space are in use. Inside tags only the four blanks separate words. Values
and reported fragments are stripped of everything with the Unicode property White_Space, which
includes the blanks.
-/

namespace Bracework

/-- The blanks that separate words inside a tag: space, tab, carriage return and line feed. -/
def isBlank (character : Char) : Bool :=
  character == ' ' || character == '\t' || character == '\r' || character == '\n'

namespace Space

/-- Boundaries of the property White_Space. -/
def whiteSpace : Boundaries :=
  [0x9, 0xE, 0x20, 0x21, 0x85, 0x86, 0xA0, 0xA1, 0x1680, 0x1681, 0x2000, 0x200B, 0x2028, 0x202A,
   0x202F, 0x2030, 0x205F, 0x2060, 0x3000, 0x3001]

end Space

/-- A character with the Unicode property White_Space. -/
def isWhiteSpace (character : Char) : Bool := Space.whiteSpace.contains character

namespace Text

/-- The text without the blanks at either end. -/
def trimBlanks (text : Text) : Text := trim isBlank text

/-- The text without the white space at either end. -/
def trimSpace (text : Text) : Text := trim isWhiteSpace text

end Text

end Bracework
