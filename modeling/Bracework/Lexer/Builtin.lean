import Bracework.Lexer.Form
import Bracework.Lexer.Reading

/-!
# Reading the built-in tags

One reading per form of tag. Each says which tokens the tag gives, what is wrong with it and
which blocks are open after it. What went before the tag enters only through the open blocks and,
for two forms, through the known partials and through whether an if block has just been closed.
-/

namespace Bracework

/-- What the reading of a tag depends on besides the tag. -/
structure Surroundings where
  /-- The blocks open before the tag. -/
  blocks : OpenBlocks
  /-- The names of the registered partials and of those declared so far. -/
  partials : List Text
  /-- Whether the last token before the tag closed an if block; content and comments in between
  do not count. -/
  afterIf : Bool

namespace ScopeKind

/-- The kind of block that a scope is checked as. -/
def blockKind : ScopeKind → BlockKind
  | .ifTrue => .ifTrue
  | .ifNot => .ifNot
  | .otherwise => .otherwise
  | .each => .each
  | .whileTrue => .whileTrue
  | .doBlock => .doBlock
  | .repeated => .repeated
  | .expression => .scope
  | .inverted => .scope

/-- Whether a block of a kind tests a condition, and therefore binds no name. -/
def isConditional : ScopeKind → Bool
  | .ifTrue => true
  | .ifNot => true
  | _ => false

end ScopeKind

namespace Tag

/-- The token for a name bound by the tag. It carries no source text of its own. -/
def nameToken (lines : LineTable) (name : Located) : Token :=
  Token.plain .bindsName [] name.text ⟨name.offset, name.offset + name.text.byteLength⟩
    (lines.locate name.offset)

/-- Reads a value. -/
def readValue (tag : Tag) (escaped : Bool) (written : Located) (blocks : OpenBlocks) : Reading :=
  let parsed := written.parse
  let token := (tag.token (.value escaped) written.text.trimSpace).withExpression parsed.expression
  ⟨[token], parsed.findings, blocks⟩

/-- Reads a comment, which is kept as it is written. -/
def readComment (tag : Tag) (blocks : OpenBlocks) : Reading :=
  ⟨[tag.token .comment tag.afterSigil.text], [], blocks⟩

/-- Reads the opening tag of a block with a name for its items. Of such a block the token
stands for the expression and `behavior`, and the block is known by the name. -/
def readNamedBlock (tag : Tag) (lines : LineTable) (kind : ScopeKind) (written name : Located)
    (behavior : Option ScopeBehavior) (blocks : OpenBlocks) : Reading :=
  let parsed := written.parse
  let token := ((tag.token (.opens kind) written.text).withExpression
    parsed.expression).withBehavior behavior
  { tokens := [token, nameToken lines name]
    findings := parsed.findings
    blocks := blocks.push kind.blockKind name.text tag.start }

/-- Reads the opening tag of a block that is known by its expression. -/
def readUnnamedBlock (tag : Tag) (kind : ScopeKind) (written : Located) (blocks : OpenBlocks) :
    Reading :=
  let parsed := written.parse
  { tokens := [(tag.token (.opens kind) written.text).withExpression parsed.expression]
    findings := parsed.findings
    blocks := blocks.push kind.blockKind written.text tag.start }

/-- Reads the opening tag of a block with a keyword. Only an each block may have a name for its
items. A conditional block with one is reported and read as if the name were not there; to all
other blocks such a clause is part of the expression. -/
def readBlock (tag : Tag) (lines : LineTable) (kind : ScopeKind) (blocks : OpenBlocks) :
    Reading :=
  let payload := tag.payload.trim
  let split := AliasSplit.ofText payload.text
  match split.name with
  | none => tag.readUnnamedBlock kind payload blocks
  | some name =>
    let name : Located := ⟨name, payload.offset + split.nameOffset⟩
    if kind = .each then
      let (head, behavior) := ScopeBehavior.splitOff split.head
      tag.readNamedBlock lines kind ⟨head, payload.offset⟩ name behavior blocks
    else if kind.isConditional then
      let reading := tag.readUnnamedBlock kind ⟨split.head, payload.offset⟩ blocks
      { reading with findings := ⟨name.offset, .aliasOnIf name.text⟩ :: reading.findings }
    else tag.readUnnamedBlock kind payload blocks

/-- Reads the opening tag of a block that has a path and no keyword. It may name its items. -/
def readPathBlock (tag : Tag) (lines : LineTable) (kind : ScopeKind) (blocks : OpenBlocks) :
    Reading :=
  let payload := tag.afterSigil.trim
  let split := AliasSplit.ofText payload.text
  let head : Located := ⟨split.head, payload.offset⟩
  match split.name with
  | some name =>
    tag.readNamedBlock lines kind head ⟨name, payload.offset + split.nameOffset⟩ none blocks
  | none => tag.readUnnamedBlock kind head blocks

/-- Reads the closing tag of a block that was opened by a path. It repeats the name of the
block. -/
def readPathClose (tag : Tag) (blocks : OpenBlocks) : Reading :=
  let name := tag.afterSigil.trim.text
  let accepts := fun (label : BlockLabel) => label.kind == .scope && label.name == name
  let closing := blocks.closeInnermost accepts tag.start name
  ⟨[tag.token (.closes .scope) name], closing.findings, closing.blocks⟩

/-- Reads a closing tag with a keyword. -/
def readClose (tag : Tag) (closer : Closer) (blocks : OpenBlocks) : Reading :=
  let argument := tag.rejectPayload (closingTag closer.keyword)
  let closing := blocks.closeInnermost (fun label => closer.ends label.kind) tag.start
    closer.keyword
  ⟨[tag.token (.closes closer) []], argument ++ closing.findings, closing.blocks⟩

/-- The tag made of the sigil `#` and a word. -/
def openingTag (word : Text) : Text := tagSource 2 ('#' :: word)

/-- Reads the tag of a block for the other case. It has to follow an if block. -/
def readOtherwise (tag : Tag) (afterIf : Bool) (blocks : OpenBlocks) : Reading :=
  let misplaced : List Finding :=
    if afterIf then [] else [⟨tag.start, .misplacedElse tag.raw⟩]
  { tokens := [tag.token (.opens .otherwise) []]
    findings := tag.rejectPayload (openingTag "else") ++ misplaced
    blocks := blocks.push .otherwise "else" tag.start }

/-- Reads the tag that closes an if block and opens one for the other case. The second token
is empty and stands at the end of the tag. -/
def readIfOtherwise (tag : Tag) (blocks : OpenBlocks) : Reading :=
  let closing := blocks.closeInnermost (fun label => Closer.ifBlock.ends label.kind) tag.start
    Closer.ifBlock.keyword
  let opened := Token.plain (.opens .otherwise) [] [] ⟨tag.span.stop, tag.span.stop⟩ tag.position
  { tokens := [tag.token (.closes .ifBlock) [], opened]
    findings := tag.rejectPayload (openingTag "ifelse") ++ closing.findings
    blocks := closing.blocks.push .otherwise "else" tag.start }

/-- Reads a tag that changes the text around it. -/
def readEdit (tag : Tag) (operation : TextOperation) (blocks : OpenBlocks) : Reading :=
  let word := (TagParts.ofBody tag.body).keyword.getD []
  ⟨[tag.token (.edits operation) []], tag.rejectPayload (openingTag word), blocks⟩

/-- The name of the partial that a tag declares, when it is a name. -/
def declaredName? (tag : Tag) : Option Text :=
  let name := tag.payload.trim.text
  if name ≠ [] ∧ name.all isNameChar then some name else none

/-- Reads the declaration of a partial. -/
def readDeclaration (tag : Tag) (blocks : OpenBlocks) : Reading :=
  let name := tag.payload.trim
  { tokens := [tag.token .declares name.text]
    findings := match tag.declaredName? with
      | some _ => []
      | none => [⟨name.offset, .missingPartialName name.text "\x7b\x7b#declare Name\x7d\x7d"⟩]
    blocks := blocks.push .declaration name.text tag.start }

/-- What is wrong with the name in an inclusion. -/
def nameFindings (tag : Tag) (name : Text) (partials : List Text) : List Finding :=
  let offset := tag.payload.trim.offset
  if name = [] then
    [⟨offset, .missingPartialName tag.payload.text.trimSpace "\x7b\x7b#include Name\x7d\x7d"⟩]
  else if partials.contains name then []
  else [⟨offset, .unknownPartial name⟩]

/-- Reads the inclusion of a partial. -/
def readInclusion (tag : Tag) (partials : List Text) (blocks : OpenBlocks) : Reading :=
  let inclusion := Inclusion.ofPayload tag.payload
  let trailing : List Finding := match inclusion.trailing with
    | some written =>
      [⟨tag.payload.trim.offset + inclusion.name.byteLength, .afterPartialName written⟩]
    | none => []
  let parsed : Parsed := match inclusion.context with
    | some context => context.parse
    | none => ⟨none, []⟩
  { tokens := [(tag.token .renders inclusion.name).withExpression parsed.expression]
    findings := tag.nameFindings inclusion.name partials ++ trailing ++ parsed.findings
    blocks }

/-- Reads a binding of a name to a value. -/
def readAssignment (tag : Tag) (durable : Bool) (blocks : OpenBlocks) : Reading :=
  match Assignment.ofPayload tag.payload with
  | .ok assignment =>
    let parsed := assignment.expression.parse
    let token := (tag.token (.assigns durable) assignment.name).withExpression parsed.expression
    ⟨[token], parsed.findings, blocks⟩
  | .error fault =>
    ⟨[tag.token (.assigns durable) []],
      [⟨tag.payload.trim.offset, .assignment fault tag.payload.text.trimSpace⟩], blocks⟩

/-- Reads a tag with a keyword. -/
def readKeyword (tag : Tag) (lines : LineTable) (surroundings : Surroundings) :
    Keyword → Reading
  | .declaration => tag.readDeclaration surroundings.blocks
  | .inclusion => tag.readInclusion surroundings.partials surroundings.blocks
  | .block kind => tag.readBlock lines kind surroundings.blocks
  | .close closer => tag.readClose closer surroundings.blocks
  | .otherwise => tag.readOtherwise surroundings.afterIf surroundings.blocks
  | .ifOtherwise => tag.readIfOtherwise surroundings.blocks
  | .assignment durable => tag.readAssignment durable surroundings.blocks
  | .edit operation => tag.readEdit operation surroundings.blocks

/-- Reads a tag of a built-in form. -/
def readForm (tag : Tag) (lines : LineTable) (surroundings : Surroundings) : TagForm → Reading
  | .keyword keyword => tag.readKeyword lines surroundings keyword
  | .tripleValue => tag.readValue false tag.located surroundings.blocks
  | .rawValue => tag.readValue false tag.afterSigil surroundings.blocks
  | .comment => tag.readComment surroundings.blocks
  | .invertedBlock => tag.readPathBlock lines .inverted surroundings.blocks
  | .pathBlock => tag.readPathBlock lines .expression surroundings.blocks
  | .pathClose => tag.readPathClose surroundings.blocks
  | .value => tag.readValue true tag.located surroundings.blocks

end Tag

end Bracework
