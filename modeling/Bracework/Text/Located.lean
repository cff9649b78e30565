import Bracework.Text.Space

/-!
# Located texts

A fragment of a template is a text together with the byte offset at which it begins. Fragments
are made by cutting larger ones, and every cut keeps the offsets true.
-/

namespace Bracework

/-- A text and the offset at which it begins. -/
structure Located where
  text : Text
  offset : Nat
deriving DecidableEq, Repr

namespace Located

/-- The text without the blanks at either end, and where it then begins. -/
def trim (located : Located) : Located :=
  { text := located.text.trimBlanks
    offset := located.offset + Text.byteLength (located.text.takeWhile isBlank) }

end Located

end Bracework
