import Bracework.Extension.Provider

/-!
# Ready-made tag providers

Two providers cover the common shapes of a tag. A leaf such as `{{#now utc}}` becomes one custom
node. A block such as `{{#section intro}} ... {{/section}}` becomes a custom node that owns a
scope and the nodes between its tags.

Both take their keyword in any case, and a block takes part in the checks on nesting like the
built-in ones. In tokens the opening tag of a block is of the kind named by its keyword, and the
closing tag of the kind with a slash before it.
-/

namespace Bracework

namespace TagProvider

/-- Whether the tag begins with a sigil and the keyword. -/
def opensWith (sigil : Sigil) (keyword : Text) (tag : Tag) : Bool :=
  (TagParts.ofBody tag.body).is sigil keyword

/-- The kind of the closing token of a block. -/
def closingKind (keyword : Text) : TokenKind := .custom ('/' :: keyword)

/-- The provider of a leaf. -/
def leaf (keyword : Text) : TagProvider where
  recognizes := opensWith .hash keyword
  read := fun _ tag blocks =>
    ⟨[tag.token (.custom keyword) tag.payload.text.trimSpace], [], blocks⟩
  assembles := fun token => token.kind == .custom keyword
  assemble := fun token construction =>
    construction.pushChild (.custom keyword token.value none [])

/-- Reads the opening tag of a block. -/
def readOpening (keyword : Text) (tag : Tag) (blocks : OpenBlocks) : Reading :=
  let value := tag.payload.trim.text
  ⟨[tag.token (.custom keyword) value], [], blocks.push (.custom keyword) value tag.start⟩

/-- Reads the closing tag of a block, which takes no payload. -/
def readClosing (keyword : Text) (tag : Tag) (blocks : OpenBlocks) : Reading :=
  let form := closingTag keyword
  let payload := tag.payload.trim
  let argument : List Finding :=
    if payload.text = [] then [] else [⟨payload.offset, .unexpectedArgument form payload.text⟩]
  let accepts := fun (label : BlockLabel) => label.kind == .custom keyword
  let closing := blocks.closeExpecting accepts tag.start keyword form
  ⟨[tag.token (closingKind keyword) []], argument ++ closing.findings, closing.blocks⟩

/-- The provider of a block. -/
def block (keyword : Text) : TagProvider where
  recognizes := fun tag => opensWith .hash keyword tag || opensWith .slash keyword tag
  read := fun _ tag blocks =>
    if opensWith .hash keyword tag then readOpening keyword tag blocks
    else readClosing keyword tag blocks
  assembles := fun token => token.kind == .custom keyword || token.kind == closingKind keyword
  assemble := fun token construction =>
    if token.kind == .custom keyword then
      construction.openScope fun scopeId => .custom keyword token.value (some scopeId) []
    else construction.close

end TagProvider

end Bracework
