import Bracework.Proofs.Lexer.Brackets
import Bracework.Proofs.Lexer.Readings

/-!
# The check on blocks

The form, the name and the place of a tag say which events of blocks it stands for. Reading the tag
performs these events and no others, whatever else is found wrong with it: the open blocks change
as the events change them, and a problem of a closing tag without a block is reported for each
stray event, at the tag. All other problems of a tag say nothing about blocks.

So the problems of a template tell its brackets. What is found in its tags comes first, with the
closing tags that have no block among it, and what is left open comes last, from the innermost
block on. Neither is found exactly when the brackets of the template are well nested.
-/

namespace Bracework

namespace OpenBlock

/-- A block as it is reported. A block with a keyword is known by its keyword and nothing else of
its tag; a block of a path has its name. -/
def reported (block : OpenBlock) : OpenBlock :=
  { block with label := ⟨block.label.kind, block.label.reportedName⟩ }

/-- What is reported of a block is the same for the block as it is reported. -/
theorem unclosed_reported (block : OpenBlock) : block.reported.unclosed = block.unclosed := by
  obtain ⟨⟨kind, name⟩, offset⟩ := block
  cases kind <;> rfl

/-- A closing tag that asks for a keyword, or for the name of a path, sees of a block what is
reported of it. -/
theorem closes_reported (mark : ClosingMark) (block : OpenBlock) :
    mark.closes block.reported.label = mark.closes block.label := by
  obtain ⟨⟨kind, name⟩, offset⟩ := block
  cases mark with
  | keyword closer => rfl
  | path wanted => cases kind <;> rfl

end OpenBlock

namespace OpenBlocks

/-- The open blocks as they are reported. -/
def reported (blocks : OpenBlocks) : List OpenBlock := blocks.entries.map OpenBlock.reported

end OpenBlocks

namespace Tag

/-- The name of a block that a path opens: the name for its items if there is one, and otherwise
the text of the path. -/
def pathName (tag : Tag) : Text :=
  let split := AliasSplit.ofText tag.afterSigil.trim.text
  split.name.getD split.head

/-- The block of a kind that a keyword opens. -/
def keywordBlock (tag : Tag) (kind : BlockKind) : OpenBlock := ⟨⟨kind, kind.keyword⟩, tag.start⟩

/-- The events of blocks that a tag stands for. -/
def blockEvents (tag : Tag) : List BlockEvent :=
  match TagForm.ofTag tag with
  | .keyword (.block kind) => [.opens (tag.keywordBlock kind.blockKind)]
  | .keyword .declaration => [.opens (tag.keywordBlock .declaration)]
  | .keyword .otherwise => [.opens (tag.keywordBlock .otherwise)]
  | .keyword .ifOtherwise =>
    [.closes (.keyword .ifBlock) tag.start, .opens (tag.keywordBlock .otherwise)]
  | .keyword (.close closer) => [.closes (.keyword closer) tag.start]
  | .invertedBlock => [.opens ⟨⟨.scope, tag.pathName⟩, tag.start⟩]
  | .pathBlock => [.opens ⟨⟨.scope, tag.pathName⟩, tag.start⟩]
  | .pathClose => [.closes (.path tag.afterSigil.trim.text) tag.start]
  | _ => []

end Tag

/-! ### Problems that say nothing about blocks -/

/-- A problem that is neither a closing tag without a block nor a block without a closing tag. -/
def Problem.IsLocal (problem : Problem) : Prop :=
  problem.category ≠ .unopenedScope ∧ problem.category ≠ .unclosedScope

/-- The offsets of the closing tags without a block among findings. -/
def unopenedOffsets (findings : List Finding) : List Nat :=
  (findings.filter fun finding => finding.problem.category == .unopenedScope).map Finding.offset

/-- Findings none of which says anything about blocks. -/
def AllLocal (findings : List Finding) : Prop := ∀ finding ∈ findings, finding.problem.IsLocal

namespace AllLocal

variable {findings first second : List Finding}

theorem nil : AllLocal [] := fun _ member => by simp at member

theorem single {finding : Finding} (isLocal : finding.problem.IsLocal) : AllLocal [finding] :=
  List.forall_mem_singleton.2 isLocal

theorem append (left : AllLocal first) (right : AllLocal second) : AllLocal (first ++ second) :=
  List.forall_mem_append.2 ⟨left, right⟩

/-- No closing tag without a block is among such findings. -/
theorem unopenedOffsets_eq (allLocal : AllLocal findings) : unopenedOffsets findings = [] := by
  have none : (findings.filter fun finding =>
      finding.problem.category == .unopenedScope) = [] := by
    apply List.filter_eq_nil_iff.2
    intro finding member
    simpa using (allLocal finding member).1
  rw [unopenedOffsets, none, List.map_nil]

end AllLocal

@[simp] theorem unopenedOffsets_append (first second : List Finding) :
    unopenedOffsets (first ++ second) = unopenedOffsets first ++ unopenedOffsets second := by
  rw [unopenedOffsets, List.filter_append, List.map_append, unopenedOffsets, unopenedOffsets]

namespace Located

/-- What is wrong with an expression says nothing about blocks. -/
theorem parse_allLocal (located : Located) : AllLocal located.parse.findings := by
  unfold Located.parse Expression.parseAt
  dsimp only
  split
  · exact .nil
  · rename_i offset problem refused
    refine .single ?_
    split at refused
    · cases refused
      exact ⟨by simp [Problem.category], by simp [Problem.category]⟩
    · split at refused
      · simp at refused
      · cases refused
        constructor <;> (simp only [Problem.category]; split <;> simp)

end Located

/-! ### Tags perform events -/

/-- Some events are performed between open blocks and later ones, with some findings: the open
blocks change as the events say, a closing tag without a block is found for each stray event, and
no block is found to be without a closing tag. -/
structure Performed (before : OpenBlocks) (events : List BlockEvent) (findings : List Finding)
    (after : OpenBlocks) : Prop where
  blocks : after.reported = BlockEvent.leftOpen before.reported events
  strays : unopenedOffsets findings = BlockEvent.strays before.reported events
  scanned : ∀ finding ∈ findings, finding.problem.category ≠ .unclosedScope

namespace Performed

variable {before middle after : OpenBlocks} {block : OpenBlock} {findings : List Finding}
  {first second : List BlockEvent} {left right : List Finding}

/-- Nothing happens to the blocks, and nothing is found about them. -/
theorem nothing (allLocal : AllLocal findings) : Performed before [] findings before :=
  ⟨rfl, allLocal.unopenedOffsets_eq, fun finding member => (allLocal finding member).2⟩

/-- A block is opened, and nothing is found about blocks. -/
theorem opening (opened : after.reported = block :: before.reported)
    (allLocal : AllLocal findings) : Performed before [.opens block] findings after :=
  ⟨opened, allLocal.unopenedOffsets_eq, fun finding member => (allLocal finding member).2⟩

/-- Events that are performed one after the other. -/
theorem append (earlier : Performed before first left middle)
    (later : Performed middle second right after) :
    Performed before (first ++ second) (left ++ right) after := by
  refine ⟨?_, ?_, List.forall_mem_append.2 ⟨earlier.scanned, later.scanned⟩⟩
  · rw [later.blocks, earlier.blocks, BlockEvent.leftOpen_append]
  · rw [unopenedOffsets_append, earlier.strays, later.strays, earlier.blocks,
      BlockEvent.strays_append]

/-- Closing the innermost block performs the closing event that asks for what is accepted. -/
theorem closeInnermost {blocks : OpenBlocks} {accepts : BlockLabel → Bool} {mark : ClosingMark}
    {start : Nat} {keyword : Text} (asks : ∀ label, accepts label = mark.closes label) :
    Performed blocks [.closes mark start] (blocks.closeInnermost accepts start keyword).findings
      (blocks.closeInnermost accepts start keyword).blocks := by
  by_cases fits : ∃ entry rest, blocks.entries = entry :: rest ∧ mark.closes entry.label
  · obtain ⟨entry, rest, shape, closes⟩ := fits
    have closed : blocks.closeInnermost accepts start keyword = ⟨[], ⟨rest⟩⟩ := by
      simp [OpenBlocks.closeInnermost, OpenBlocks.closeExpecting, OpenBlocks.popIf?, shape, asks,
        closes]
    have reported : blocks.reported = entry.reported :: (⟨rest⟩ : OpenBlocks).reported := by
      rw [OpenBlocks.reported, shape]
      rfl
    obtain ⟨taken, none⟩ : (BlockEvent.closes mark start).after blocks.reported =
        (⟨rest⟩ : OpenBlocks).reported ∧
        (BlockEvent.closes mark start).stray? blocks.reported = none := by
      rw [reported]
      exact BlockEvent.after_fits ((OpenBlock.closes_reported mark entry).trans closes)
    rw [closed]
    refine ⟨taken.symm, ?_, by simp⟩
    rw [BlockEvent.strays, none]
    rfl
  · have refused : blocks.popIf? accepts = none := by
      unfold OpenBlocks.popIf?
      cases shape : blocks.entries with
      | nil => rfl
      | cons entry rest =>
        have differs : ¬mark.closes entry.label := fun closes => fits ⟨entry, rest, shape, closes⟩
        simp [asks, differs]
    have unopened : blocks.closeInnermost accepts start keyword =
        ⟨[⟨start, .unopened keyword blocks.innermostClosingTag⟩], blocks⟩ := by
      simp [OpenBlocks.closeInnermost, OpenBlocks.closeExpecting, refused]
    have misfit : ∀ innermost ∈ blocks.reported.head?, ¬mark.closes innermost.label := by
      intro innermost member
      rw [OpenBlocks.reported, List.head?_map] at member
      obtain ⟨entry, first, rfl⟩ := Option.map_eq_some_iff.1 member
      obtain ⟨rest, shape⟩ := List.head?_eq_some_iff.1 first
      rw [OpenBlock.closes_reported]
      exact fun closes => fits ⟨entry, rest, shape, closes⟩
    obtain ⟨kept, stray⟩ : (BlockEvent.closes mark start).after blocks.reported =
        blocks.reported ∧
        (BlockEvent.closes mark start).stray? blocks.reported = some start :=
      BlockEvent.after_misfit misfit
    rw [unopened]
    refine ⟨kept.symm, ?_, by simp [Problem.category]⟩
    rw [BlockEvent.strays, stray]
    rfl

end Performed

namespace Tag

variable {tag : Tag} {lines : LineTable} {blocks : OpenBlocks}

/-- A text after a tag that takes none says nothing about blocks. -/
theorem rejectPayload_allLocal (form : Text) : AllLocal (tag.rejectPayload form) := by
  unfold rejectPayload
  dsimp only
  split
  · exact .nil
  · exact .single ⟨by simp [Problem.category], by simp [Problem.category]⟩

/-- A block that is opened without a name for its items, of a kind and a text. -/
theorem readUnnamedBlock_performs (kind : ScopeKind) (written : Located) {block : OpenBlock}
    (known : (⟨⟨kind.blockKind, written.text⟩, tag.start⟩ : OpenBlock).reported = block) :
    Performed blocks [.opens block] (tag.readUnnamedBlock kind written blocks).findings
      (tag.readUnnamedBlock kind written blocks).blocks := by
  subst known
  exact .opening rfl written.parse_allLocal

/-- A block that is opened with a name for its items. -/
theorem readNamedBlock_performs (kind : ScopeKind) (written name : Located)
    (behavior : Option ScopeBehavior) {block : OpenBlock}
    (known : (⟨⟨kind.blockKind, name.text⟩, tag.start⟩ : OpenBlock).reported = block) :
    Performed blocks [.opens block]
      (tag.readNamedBlock lines kind written name behavior blocks).findings
      (tag.readNamedBlock lines kind written name behavior blocks).blocks := by
  subst known
  exact .opening rfl written.parse_allLocal

/-- A block that a keyword opens is reported by its keyword, whatever else it is called. -/
theorem reported_keyword {kind : BlockKind} (keyword : kind ≠ .scope) (name : Text) :
    (⟨⟨kind, name⟩, tag.start⟩ : OpenBlock).reported = tag.keywordBlock kind := by
  cases kind with
  | scope => exact absurd rfl keyword
  | _ => rfl

/-- The opening tag of a block with a keyword opens a block of its kind. -/
theorem readBlock_performs (kind : ScopeKind) (keyword : kind.blockKind ≠ .scope) :
    Performed blocks [.opens (tag.keywordBlock kind.blockKind)]
      (tag.readBlock lines kind blocks).findings (tag.readBlock lines kind blocks).blocks := by
  unfold readBlock
  dsimp only
  split
  · exact readUnnamedBlock_performs kind _ (reported_keyword keyword _)
  · rename_i name found
    split
    · exact readNamedBlock_performs kind _ _ _ (reported_keyword keyword _)
    · split
      · -- the name that such a block may not have is found before what is found in its path
        have named : AllLocal [⟨tag.payload.trim.offset +
            (AliasSplit.ofText tag.payload.trim.text).nameOffset, .aliasOnIf name⟩] :=
          .single ⟨by simp [Problem.category], by simp [Problem.category]⟩
        exact (Performed.nothing named).append
          (readUnnamedBlock_performs kind _ (reported_keyword keyword _))
      · exact readUnnamedBlock_performs kind _ (reported_keyword keyword _)

/-- The opening tag of a block of a path opens a block with its name. -/
theorem readPathBlock_performs (kind : ScopeKind) (path : kind.blockKind = .scope) :
    Performed blocks [.opens ⟨⟨.scope, tag.pathName⟩, tag.start⟩]
      (tag.readPathBlock lines kind blocks).findings
      (tag.readPathBlock lines kind blocks).blocks := by
  have named (name : Text) (same : name = tag.pathName) :
      (⟨⟨kind.blockKind, name⟩, tag.start⟩ : OpenBlock).reported =
        ⟨⟨.scope, tag.pathName⟩, tag.start⟩ := by
    rw [path, same]
    rfl
  unfold readPathBlock
  dsimp only
  split
  · rename_i name found
    refine readNamedBlock_performs kind _ _ _ (named _ ?_)
    rw [pathName]
    simp only [found, Option.getD_some]
  · rename_i found
    refine readUnnamedBlock_performs kind _ (named _ ?_)
    rw [pathName]
    simp only [found, Option.getD_none]

/-- The tag that goes over to the other case closes an if block and opens a block for the other
case, the second in any case. -/
theorem readIfOtherwise_performs :
    Performed blocks [.closes (.keyword .ifBlock) tag.start, .opens (tag.keywordBlock .otherwise)]
      (tag.readIfOtherwise blocks).findings (tag.readIfOtherwise blocks).blocks := by
  let closing := blocks.closeInnermost (fun label => Closer.ifBlock.ends label.kind) tag.start
    Closer.ifBlock.keyword
  have argument : Performed blocks [] (tag.rejectPayload (openingTag "ifelse")) blocks :=
    .nothing (rejectPayload_allLocal _)
  have closed : Performed blocks [.closes (.keyword .ifBlock) tag.start] closing.findings
      closing.blocks := .closeInnermost fun label => rfl
  have opened : Performed closing.blocks [.opens (tag.keywordBlock .otherwise)] []
      (closing.blocks.push .otherwise "else" tag.start) := .opening rfl .nil
  have whole := (argument.append closed).append opened
  rw [List.append_nil] at whole
  exact whole

/-- What is wrong with the name in an inclusion says nothing about blocks. -/
theorem nameFindings_allLocal (name : Text) (partials : List Text) :
    AllLocal (tag.nameFindings name partials) := by
  unfold nameFindings
  dsimp only
  split
  · exact .single ⟨by simp [Problem.category], by simp [Problem.category]⟩
  · split
    · exact .nil
    · exact .single ⟨by simp [Problem.category], by simp [Problem.category]⟩

/-- An inclusion neither opens nor closes a block. -/
theorem readInclusion_performs (partials : List Text) :
    Performed blocks [] (tag.readInclusion partials blocks).findings
      (tag.readInclusion partials blocks).blocks := by
  unfold readInclusion
  dsimp only
  refine .nothing (((nameFindings_allLocal _ _).append ?_).append ?_)
  · split
    · exact .single ⟨by simp [Problem.category], by simp [Problem.category]⟩
    · exact .nil
  · split
    · exact Located.parse_allLocal _
    · exact .nil

/-- A binding neither opens nor closes a block. -/
theorem readAssignment_performs (durable : Bool) :
    Performed blocks [] (tag.readAssignment durable blocks).findings
      (tag.readAssignment durable blocks).blocks := by
  unfold readAssignment
  split
  · exact .nothing (Located.parse_allLocal _)
  · exact .nothing (.single ⟨by simp [Problem.category], by simp [Problem.category]⟩)

/-- The declaration of a partial opens a block, whether or not it has a name. -/
theorem readDeclaration_performs :
    Performed blocks [.opens (tag.keywordBlock .declaration)]
      (tag.readDeclaration blocks).findings (tag.readDeclaration blocks).blocks := by
  refine .opening rfl ?_
  unfold readDeclaration
  dsimp only
  split
  · exact .nil
  · exact .single ⟨by simp [Problem.category], by simp [Problem.category]⟩

/-- The tag of a block for the other case opens a block, wherever it stands. -/
theorem readOtherwise_performs (afterIf : Bool) :
    Performed blocks [.opens (tag.keywordBlock .otherwise)]
      (tag.readOtherwise afterIf blocks).findings (tag.readOtherwise afterIf blocks).blocks := by
  have misplaced : AllLocal (if afterIf then [] else [⟨tag.start, .misplacedElse tag.raw⟩]) := by
    split
    · exact .nil
    · exact .single ⟨by simp [Problem.category], by simp [Problem.category]⟩
  exact .opening rfl ((rejectPayload_allLocal _).append misplaced)

/-- A closing tag with a keyword closes a block of the keyword, whatever else is in the tag. -/
theorem readClose_performs (closer : Closer) :
    Performed blocks [.closes (.keyword closer) tag.start]
      (tag.readClose closer blocks).findings (tag.readClose closer blocks).blocks := by
  have argument : Performed blocks [] (tag.rejectPayload (closingTag closer.keyword)) blocks :=
    .nothing (rejectPayload_allLocal _)
  exact argument.append (.closeInnermost fun label => rfl)

end Tag

/-! ### Keywords -/

namespace Keyword

/-- A keyword that the parts of a body begin with stands in the table, with its sigil. -/
theorem mem_table {parts : TagParts} {keyword : Keyword} (found : ofParts? parts = some keyword) :
    ∃ sigil word, (sigil, word, keyword) ∈ table ∧ parts.is sigil word = true := by
  obtain ⟨⟨sigil, word, listed⟩, first, rfl⟩ := Option.map_eq_some_iff.1 found
  exact ⟨sigil, word, List.mem_of_find?_eq_some first, (List.find?_eq_some_iff_append.1 first).1⟩

/-- No keyword opens the blocks that are opened by a path alone, or closes them. -/
def isPathless : Keyword → Bool
  | .block kind => kind.blockKind != .scope
  | .close closer => closer != .scope
  | _ => true

/-- A keyword in the table is not one for the blocks of paths. -/
theorem isPathless_of_mem {sigil : Sigil} {word : String} {keyword : Keyword}
    (member : (sigil, word, keyword) ∈ table) : keyword.isPathless = true := by
  have all : table.all (fun entry => entry.2.2.isPathless) = true := by decide
  exact List.all_eq_true.1 all _ member

end Keyword

/-- The form of a tag with a keyword comes from the table. -/
theorem TagForm.mem_table {tag : Tag} {keyword : Keyword}
    (form : TagForm.ofTag tag = .keyword keyword) :
    ∃ sigil word, (sigil, word, keyword) ∈ Keyword.table := by
  unfold TagForm.ofTag at form
  dsimp only at form
  split at form
  · simp at form
  · split at form
    · rename_i word found
      obtain rfl : word = keyword := by simpa using form
      obtain ⟨sigil, spelled, member, -⟩ := Keyword.mem_table found
      exact ⟨sigil, spelled, member⟩
    · cases sigil : (TagParts.ofBody tag.body).sigil with
      | none => simp [sigil, TagForm.ofSigil] at form
      | some mark => cases mark <;> simp [sigil, TagForm.ofSigil] at form

/-- No tag with a keyword opens a block of a path, or closes one. -/
theorem TagForm.isPathless {tag : Tag} {keyword : Keyword}
    (form : TagForm.ofTag tag = .keyword keyword) : keyword.isPathless = true := by
  obtain ⟨sigil, word, member⟩ := TagForm.mem_table form
  exact Keyword.isPathless_of_mem member

/-! ### Templates -/

namespace Tag

variable {tag : Tag}

/-- With the standard options no provider claims a tag, so its form says how it is read. -/
theorem readTag_standard (tag : Tag) (lines : LineTable) (surroundings : Surroundings) :
    Progress.readTag Options.standard lines tag surroundings =
      tag.readForm lines surroundings (TagForm.ofTag tag) :=
  readTag_builtin rfl tag lines surroundings

/-- A tag performs its events when it is read, whatever is wrong with it and whatever surrounds
it. -/
theorem readTag_performs (lines : LineTable) (surroundings : Surroundings) :
    Performed surroundings.blocks tag.blockEvents
      (Progress.readTag Options.standard lines tag surroundings).findings
      (Progress.readTag Options.standard lines tag surroundings).blocks := by
  rw [readTag_standard, blockEvents]
  cases form : TagForm.ofTag tag with
  | keyword keyword =>
    cases keyword with
    | declaration => exact readDeclaration_performs
    | inclusion => exact readInclusion_performs _
    | block kind =>
      have pathless := TagForm.isPathless form
      exact readBlock_performs kind (by simpa [Keyword.isPathless] using pathless)
    | close closer => exact readClose_performs closer
    | otherwise => exact readOtherwise_performs _
    | ifOtherwise => exact readIfOtherwise_performs
    | assignment durable => exact readAssignment_performs durable
    | edit operation => exact .nothing (rejectPayload_allLocal _)
  | tripleValue => exact .nothing (Located.parse_allLocal _)
  | rawValue => exact .nothing (Located.parse_allLocal _)
  | comment => exact .nothing .nil
  | invertedBlock => exact readPathBlock_performs .inverted rfl
  | pathBlock => exact readPathBlock_performs .expression rfl
  | pathClose => exact .closeInnermost fun label => rfl
  | value => exact .nothing (Located.parse_allLocal _)

end Tag

/-- The events of a piece at an offset. Content stands for none. -/
def pieceEvents (lines : LineTable) : Nat × Piece → List BlockEvent
  | (_, .content _) => []
  | (start, .tag braces body) => (tagAt lines start braces body).blockEvents

/-- Pieces one after the other perform their events when they are read. -/
theorem readPieces_performs (lines : LineTable) (places : List (Nat × Piece))
    (surroundings : Surroundings) :
    Performed surroundings.blocks (places.flatMap (pieceEvents lines))
      ((readPieces Options.standard lines surroundings places).1.flatMap Reading.findings)
      (readPieces Options.standard lines surroundings places).2.blocks := by
  induction places generalizing surroundings with
  | nil => exact .nothing .nil
  | cons place rest induction =>
    obtain ⟨start, piece⟩ := place
    cases piece with
    | content text => exact induction surroundings
    | tag braces body =>
      let tag := tagAt lines start braces body
      let reading := Progress.readTag Options.standard lines tag surroundings
      have here : Performed surroundings.blocks tag.blockEvents reading.findings reading.blocks :=
        tag.readTag_performs lines surroundings
      exact here.append (induction (surroundings.after tag reading))

namespace Template

/-- The brackets of a template: the events of blocks of its tags, in the order of the text. -/
def blockEvents (template : Text) : List BlockEvent :=
  (Piece.withOffsets 0 (Piece.cut template)).flatMap
    (pieceEvents (LineTable.ofSource template))

/-- The open blocks behind the first pieces of a template. -/
def blocksBehind (template : Text) (pieces : List (Nat × Piece)) : OpenBlocks :=
  (readPieces Options.standard (LineTable.ofSource template)
    ⟨OpenBlocks.empty, Options.standard.partials, false⟩ pieces).2.blocks

/-- What the diagnostics of a template tell of its brackets, where some of them are raised while
the tags are read and others behind the last tag. -/
structure BlocksTold (template : Text) (scanned unclosed : List Diagnostic) : Prop where
  validated : validate Options.standard template = .ok (scanned ++ unclosed)
  /-- At every piece, the open blocks are those that the events so far have left open. A closing
  tag that fits no block changes nothing. -/
  tracked : ∀ earlier later, Piece.withOffsets 0 (Piece.cut template) = earlier ++ later →
    (blocksBehind template earlier).reported = BlockEvent.leftOpen []
      (earlier.flatMap (pieceEvents (LineTable.ofSource template)))
  /-- Last comes what is left open, from the innermost block on, each at its opening tag. -/
  unclosed_eq : unclosed = (BlockEvent.leftOpen [] (blockEvents template)).map fun block =>
    Diagnostic.place (LineTable.ofSource template) block.unclosed
  scanned_category : ∀ diagnostic ∈ scanned, diagnostic.category ≠ .unclosedScope
  /-- While the tags are read, the closing tags that fit no block are reported, each at its
  place. -/
  unopened : (scanned.filter fun diagnostic => diagnostic.category == .unopenedScope).map
    Diagnostic.offset = BlockEvent.strays [] (blockEvents template)
  /-- Nothing is said about blocks exactly when the brackets are well nested. -/
  clean_iff : (∀ diagnostic ∈ scanned ++ unclosed, diagnostic.category ≠ .unopenedScope ∧
      diagnostic.category ≠ .unclosedScope) ↔ BlockEvent.WellNested (blockEvents template)

/-- With the standard options there are no providers. -/
theorem standard_readyMade : Options.standard.ReadyMade := by
  intro provider member
  simp [Options.standard] at member

/-- What is found in the tags of a template. -/
def tagFindings (template : Text) : List Finding :=
  (readings Options.standard template).1.flatMap Reading.findings

/-- The events of a template are performed by reading it. -/
theorem readings_performs (template : Text) : Performed OpenBlocks.empty (blockEvents template)
    (tagFindings template) (readings Options.standard template).2.blocks :=
  readPieces_performs (LineTable.ofSource template) (Piece.withOffsets 0 (Piece.cut template))
    ⟨OpenBlocks.empty, Options.standard.partials, false⟩

/-- What is found in the tags of a template is found first, and then what its events leave
open. -/
theorem findings_eq (template : Text) : findings Options.standard template =
    tagFindings template ++
      (BlockEvent.leftOpen [] (blockEvents template)).map OpenBlock.unclosed := by
  have same : (fun block : OpenBlock => block.reported.unclosed) = OpenBlock.unclosed :=
    funext OpenBlock.unclosed_reported
  have left : BlockEvent.leftOpen [] (blockEvents template) =
      (readings Options.standard template).2.blocks.reported :=
    (readings_performs template).blocks.symm
  rw [left, OpenBlocks.reported, List.map_map, Function.comp_def, same]
  rfl

/-- A template is validated by placing what is found in it. -/
theorem validate_standard (template : Text) : validate Options.standard template =
    .ok ((tagFindings template).map (Diagnostic.place (LineTable.ofSource template)) ++
      (BlockEvent.leftOpen [] (blockEvents template)).map fun block =>
        Diagnostic.place (LineTable.ofSource template) block.unclosed) := by
  rw [validate, tokenize_ok standard_readyMade, findings_eq, List.map_append, List.map_map]
  rfl

/-- The diagnostics of every template tell its brackets.

Proof: every tag performs its events when it is read, so the stray events are those at which a
closing tag without a block is found, and the blocks left open are those reported last. There is
neither exactly when the events are well nested. -/
theorem validate_tells_blocks (template : Text) :
    ∃ scanned unclosed, BlocksTold template scanned unclosed := by
  let lines := LineTable.ofSource template
  let found := tagFindings template
  obtain ⟨blocks, strays, silent⟩ := readings_performs template
  have unopened : ((found.map (Diagnostic.place lines)).filter fun diagnostic =>
      diagnostic.category == .unopenedScope).map Diagnostic.offset =
        BlockEvent.strays [] (blockEvents template) := by
    rw [List.filter_map, List.map_map]
    exact strays
  have scanned : ∀ diagnostic ∈ found.map (Diagnostic.place lines),
      diagnostic.category ≠ .unclosedScope := List.forall_mem_map.2 silent
  refine ⟨found.map (Diagnostic.place lines), _, validate_standard template, ?_, rfl, scanned,
    unopened, ?_⟩
  · intro earlier later cut
    exact (readPieces_performs lines earlier _).blocks
  · rw [BlockEvent.wellNested_iff, ← unopened, List.map_eq_nil_iff, List.filter_eq_nil_iff,
      List.forall_mem_append]
    constructor
    · rintro ⟨inTags, left⟩
      refine ⟨fun diagnostic member => by simpa using (inTags diagnostic member).1, ?_⟩
      apply List.eq_nil_iff_forall_not_mem.2
      intro block member
      exact (left _ (List.mem_map_of_mem member)).2 rfl
    · rintro ⟨noStray, closed⟩
      refine ⟨fun diagnostic member => ⟨?_, scanned diagnostic member⟩, ?_⟩
      · simpa using noStray diagnostic member
      · rw [closed]
        exact fun diagnostic member => absurd member List.not_mem_nil

end Template

end Bracework
