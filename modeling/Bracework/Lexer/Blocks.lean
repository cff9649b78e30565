import Bracework.Tag.Piece
import Bracework.Token

/-!
# Open blocks of a scan

While tags are classified, the blocks they open are kept on a stack, so that each closing tag
can be checked against the innermost one. A closing tag that does not match leaves the stack as
it is.
-/

namespace Bracework

/-- What opened a block. -/
inductive BlockKind where
  | ifTrue
  | ifNot
  | otherwise
  | each
  | whileTrue
  | doBlock
  | repeated
  | declaration
  /-- A path alone, closed by a tag with the same text or the block's name for its items. -/
  | scope
  /-- A tag of a provider. -/
  | custom (tag : Text)
deriving DecidableEq, Repr

namespace BlockKind

/-- The word that closes a block of a kind. -/
def keyword : BlockKind → Text
  | .ifTrue => "if"
  | .ifNot => "if"
  | .otherwise => "else"
  | .each => "each"
  | .whileTrue => "while"
  | .doBlock => "do"
  | .repeated => "repeat"
  | .declaration => "declare"
  | .scope => "scope"
  | .custom tag => tag

end BlockKind

namespace Closer

/-- The word of a closing tag. A path alone is closed by its own text instead. -/
def keyword : Closer → Text
  | .ifBlock => "if"
  | .otherwise => "else"
  | .each => "each"
  | .whileTrue => "while"
  | .doBlock => "do"
  | .repeated => "repeat"
  | .declaration => "declare"
  | .scope => "scope"

/-- Whether a closing tag ends blocks of a kind. -/
def ends : Closer → BlockKind → Bool
  | .ifBlock, .ifTrue => true
  | .ifBlock, .ifNot => true
  | .otherwise, .otherwise => true
  | .each, .each => true
  | .whileTrue, .whileTrue => true
  | .doBlock, .doBlock => true
  | .repeated, .repeated => true
  | .declaration, .declaration => true
  | .scope, .scope => true
  | _, _ => false

end Closer

/-- The tag that closes what `name` stands for. -/
def closingTag (name : Text) : Text := tagSource 2 ("/" ++ name)

/-- The kind of a block and its name: the name bound for its items if there is one, and the
text of its expression or the name of the partial otherwise. -/
structure BlockLabel where
  kind : BlockKind
  name : Text
deriving DecidableEq, Repr

namespace BlockLabel

/-- What a block is called when it is reported as unclosed: its name when a path alone opened
it, and its keyword otherwise. -/
def reportedName (label : BlockLabel) : Text :=
  match label.kind with
  | .scope => label.name
  | kind => kind.keyword

/-- The tag that would close a block. -/
def closingTag (label : BlockLabel) : Text := Bracework.closingTag label.reportedName

end BlockLabel

/-- A block and the offset of the tag that opened it. -/
structure OpenBlock where
  label : BlockLabel
  offset : Nat
deriving DecidableEq, Repr

/-- The open blocks, the innermost first. -/
structure OpenBlocks where
  entries : List OpenBlock
deriving DecidableEq, Repr

namespace OpenBlocks

/-- No block is open. -/
def empty : OpenBlocks := ⟨[]⟩

/-- Opens a block inside all others. -/
def push (blocks : OpenBlocks) (kind : BlockKind) (name : Text) (offset : Nat) : OpenBlocks :=
  ⟨⟨⟨kind, name⟩, offset⟩ :: blocks.entries⟩

/-- The innermost block. -/
def peek? (blocks : OpenBlocks) : Option OpenBlock := blocks.entries.head?

/-- Closes the innermost block if its label is accepted, and gives the block closed. -/
def popIf? (blocks : OpenBlocks) (accepts : BlockLabel → Bool) :
    Option (OpenBlock × OpenBlocks) :=
  match blocks.entries with
  | [] => none
  | entry :: rest => if accepts entry.label then some (entry, ⟨rest⟩) else none

/-- Closes the innermost block if it is of a kind. -/
def popKind? (blocks : OpenBlocks) (kind : BlockKind) : Option (OpenBlock × OpenBlocks) :=
  blocks.popIf? fun label => label.kind == kind

/-- The number of open blocks. -/
def size (blocks : OpenBlocks) : Nat := blocks.entries.length

/-- Whether no block is open. -/
def isEmpty (blocks : OpenBlocks) : Bool := blocks.entries.isEmpty

end OpenBlocks

end Bracework
