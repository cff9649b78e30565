import Bracework.Expression.Parser
import Bracework.Lexer.Blocks
import Bracework.Tag.Basic

/-!
# Readings of tags

Reading one tag gives its tokens, what was found wrong with it, and the blocks that are open
after it. A tag is always read to its end, whatever is wrong with it, so each tag gives at least
one token and independent mistakes in one tag are all found.

A closing tag that matches nothing changes no block. What it should have been is the closing tag
of the innermost block, if a block is open.
-/

namespace Bracework

/-- What reading a tag gives. -/
structure Reading where
  tokens : List Token
  findings : List Finding
  /-- The blocks open after the tag. -/
  blocks : OpenBlocks
deriving Repr

/-- What closing a block gives. -/
structure Closing where
  findings : List Finding
  blocks : OpenBlocks
deriving Repr

namespace OpenBlocks

/-- The tag that would close the innermost block; nothing when no block is open. -/
def innermostClosingTag (blocks : OpenBlocks) : Text :=
  match blocks.peek? with
  | some entry => entry.label.closingTag
  | none => []

/-- Closes the innermost block if it is accepted. Otherwise the tag at `start`, which closes
`keyword`, is reported, with `expected` as the tag that it should have been. -/
def closeExpecting (blocks : OpenBlocks) (accepts : BlockLabel → Bool) (start : Nat)
    (keyword expected : Text) : Closing :=
  match blocks.popIf? accepts with
  | some (_, rest) => ⟨[], rest⟩
  | none => ⟨[⟨start, .unopened keyword expected⟩], blocks⟩

/-- Closes the innermost block if it is accepted, and reports the tag at `start` otherwise. -/
def closeInnermost (blocks : OpenBlocks) (accepts : BlockLabel → Bool) (start : Nat)
    (keyword : Text) : Closing :=
  blocks.closeExpecting accepts start keyword blocks.innermostClosingTag

end OpenBlocks

namespace Tag

/-- Reports a text after a tag that takes none. White space does not count. -/
def rejectPayload (tag : Tag) (form : Text) : List Finding :=
  let argument := tag.payload.text.trimSpace
  if argument = [] then [] else [⟨tag.payload.offset, .unexpectedArgument form argument⟩]

end Tag

end Bracework
