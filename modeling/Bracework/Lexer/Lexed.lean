import Bracework.Breach
import Bracework.Extension.Provider
import Bracework.Lexer.Builtin

/-!
# The tokens of a template

The pieces of a template are read from left to right. Content gives one token, and each tag is
read by the first provider that claims it, or else by its form. Blocks still open at the end are
reported last, the innermost first, each at the tag that opened it.

Only a token that reaches past its tag ends the reading early; the built-in forms and the
ready-made providers give none.
-/

namespace Bracework

/-- The tokens of a template, and everything found wrong with it. -/
structure Lexed where
  tokens : List Token
  findings : List Finding
deriving Repr

/-- What has been read of a template so far. -/
structure Progress where
  tokens : Array Token
  findings : Array Finding
  surroundings : Surroundings

namespace Progress

/-- Nothing has been read. -/
def start (options : Options) : Progress :=
  ⟨#[], #[], ⟨OpenBlocks.empty, options.partials, false⟩⟩

/-- Whether an if block has just been closed, after one token more. -/
def closesIf (before : Bool) (token : Token) : Bool :=
  match token.kind with
  | .content => before
  | .comment => before
  | .closes .ifBlock => true
  | _ => false

/-- The names of the partials known after a tag of a form. -/
def partialsAfter (tag : Tag) (form : TagForm) (known : List Text) : List Text :=
  match form, tag.declaredName? with
  | .keyword .declaration, some name => known ++ [name]
  | _, _ => known

/-- The reading of a tag by the first provider that claims it, or else by its form. -/
def readTag (options : Options) (lines : LineTable) (tag : Tag) (surroundings : Surroundings) :
    Reading :=
  let form := TagForm.ofTag tag
  let provider := if form.isClaimable then options.reader? tag else none
  match provider with
  | some provider => provider.read options.partials tag surroundings.blocks
  | none => tag.readForm lines surroundings form

/-- Adds the reading of a tag, unless one of its tokens ends behind the tag. -/
def addReading (progress : Progress) (tag : Tag) (reading : Reading) : Except Breach Progress :=
  match reading.tokens.find? fun token => token.span.stop > tag.span.stop with
  | some token => .error (.tokenPastTag token.span.stop tag.span.stop)
  | none =>
    let before := progress.surroundings
    .ok {
      tokens := progress.tokens ++ reading.tokens
      findings := progress.findings ++ reading.findings
      surroundings := {
        blocks := reading.blocks
        partials := partialsAfter tag (TagForm.ofTag tag) before.partials
        afterIf := reading.tokens.foldl closesIf before.afterIf } }

/-- Adds the token of content that begins at an offset. -/
def addContent (progress : Progress) (lines : LineTable) (start : Nat) (text : Text) : Progress :=
  let token := Token.plain .content text text ⟨start, start + text.byteLength⟩ (lines.locate start)
  { progress with tokens := progress.tokens.push token }

/-- Reads a piece that begins at an offset. -/
def addPiece (options : Options) (lines : LineTable) (progress : Progress) :
    Nat × Piece → Except Breach Progress
  | (start, .content text) => .ok (progress.addContent lines start text)
  | (start, .tag braces body) =>
    let tag : Tag := { start, braces, body, position := lines.locate start }
    progress.addReading tag (readTag options lines tag progress.surroundings)

end Progress

namespace OpenBlock

/-- The report of a block that is never closed. -/
def unclosed (block : OpenBlock) : Finding :=
  ⟨block.offset, .unclosed block.label.reportedName block.label.closingTag⟩

end OpenBlock

namespace Lexed

/-- The tokens and findings when nothing is left to read. -/
def ofProgress (progress : Progress) : Lexed :=
  { tokens := progress.tokens.toList
    findings := progress.findings.toList ++
      progress.surroundings.blocks.entries.map OpenBlock.unclosed }

/-- Reads a template whose line table is given. -/
def ofLines (options : Options) (lines : LineTable) : Except Breach Lexed := do
  let pieces := Piece.withOffsets 0 (Piece.cut lines.source)
  let progress ← pieces.foldlM (Progress.addPiece options lines) (Progress.start options)
  return ofProgress progress

end Lexed

end Bracework
