import Bracework.Tag.Piece
import Bracework.Token

/-!
# Tags

A tag in its place in the template, from which tokens with the source text, the span and the
position of the tag are made.
-/

namespace Bracework

/-- A tag at an offset of a template. -/
structure Tag where
  /-- Where the first brace is. -/
  start : Nat
  braces : Nat
  body : Text
  position : Position
deriving DecidableEq, Repr

namespace Tag

/-- The source text of a tag, its braces included. -/
def raw (tag : Tag) : Text := tagSource tag.braces tag.body

/-- The bytes that a tag occupies. -/
def span (tag : Tag) : Span := ⟨tag.start, tag.start + tag.raw.byteLength⟩

/-- Where the body begins. -/
def bodyOffset (tag : Tag) : Nat := tag.start + tag.braces

/-- The body in its place. -/
def located (tag : Tag) : Located := ⟨tag.body, tag.bodyOffset⟩

/-- What follows a sigil of one byte, in its place. -/
def afterSigil (tag : Tag) : Located := ⟨tag.body.tail, tag.bodyOffset + 1⟩

/-- What follows the sigil and the keyword, in its place. -/
def payload (tag : Tag) : Located :=
  let parts := TagParts.ofBody tag.body
  ⟨parts.rest, tag.bodyOffset + parts.restOffset⟩

/-- A token of the whole tag. -/
def token (tag : Tag) (kind : TokenKind) (value : Text) : Token :=
  Token.plain kind tag.raw value tag.span tag.position

end Tag

end Bracework
