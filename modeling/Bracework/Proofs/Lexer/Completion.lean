import Bracework.Proofs.Lexer.Appended
import Bracework.Proofs.Text.Trimmed

/-!
# Closing what is left open

Each report of an unclosed block suggests a closing tag. All the suggested tags together, in the
order of the reports, are put behind the template. A suggested tag closes its block unless the
block is one of a path and its name, behind the slash, reads as a keyword: the tag then asks for a
block of that keyword, which the innermost block is not. Such a block can be closed, since a blank
behind the slash would keep the keyword away, but the suggested tag does not do it.

So the template is completed by the suggested tags, with nothing found but what was found in its
own tags, exactly when no name of a block left open reads as a keyword. A block whose name does is
still open behind all the tags, because none of them closes it.
-/

namespace Bracework

/-! ### Names of blocks -/

namespace BlockLabel

/-- What stands between the braces of the closing tag of a label. -/
def closingBody (label : BlockLabel) : Text := '/' :: label.reportedName

/-- The closing tag of a label does not read as that of another block: the label is one of a
keyword, or its name behind a slash does not begin with a keyword. -/
def IsClosable (label : BlockLabel) : Prop :=
  label.kind = .scope → Keyword.ofParts? (TagParts.ofBody label.closingBody) = none

/-- A label that a tag may give a block: that of a keyword, or a name without braces and without
blanks at its ends. -/
def IsWritten (label : BlockLabel) : Prop :=
  match label.kind with
  | .scope => label.name.trimBlanks = label.name ∧
      ∀ character ∈ label.name, isBrace character = false
  | .custom _ => False
  | _ => True

end BlockLabel

/-- A text is without braces when none of its characters is one. -/
theorem bare_of_all {text : Text} (bare : (text.all fun character => !isBrace character) = true) :
    ∀ character ∈ text, isBrace character = false := by
  intro character member
  simpa using List.all_eq_true.1 bare character member

/-- A letter is not a blank. -/
theorem letter_not_blank {character : Char} (letter : isAsciiLetter character) :
    isBlank character = false := by
  rw [Bool.eq_false_iff]
  intro blank
  simp only [isBlank, Bool.or_eq_true, beq_iff_eq] at blank
  rcases blank with ((rfl | rfl) | rfl) | rfl <;> exact absurd letter (by decide)

/-- Without a clause at its end, all of a text stands before it. -/
theorem AliasSplit.head_eq {text : Text} (missing : (ofText text).name = none) :
    (ofText text).head = text := by
  rcases ofText_cases text with uncut | ⟨head, gap, word, blanks, name, -, cut⟩
  · rw [uncut]
  · rw [cut] at missing
    cases missing

namespace Tag

variable {tag : Tag}

/-- The name that a path gives its block has no brace, and no blank at its ends. -/
theorem pathName_written (isBody : Piece.IsBody tag.body) :
    tag.pathName.trimBlanks = tag.pathName ∧
      ∀ character ∈ tag.pathName, isBrace character = false := by
  let written := tag.afterSigil.trim.text
  have bare : ∀ character ∈ written, isBrace character = false := by
    obtain ⟨before, after, whole, -⟩ := Located.trim_within tag.afterSigil
    intro character member
    apply isBody.2 character
    apply List.mem_of_mem_tail
    rw [show tag.body.tail = tag.afterSigil.text from rfl, whole]
    exact List.mem_append_left _ (List.mem_append_right _ member)
  cases named : (AliasSplit.ofText written).name with
  | none =>
    have whole : tag.pathName = written := by
      rw [pathName, named, Option.getD_none, AliasSplit.head_eq named]
    rw [whole]
    exact ⟨Text.trim_trim isBlank tag.afterSigil.text, bare⟩
  | some name =>
    have whole : tag.pathName = name := by
      rw [pathName, named, Option.getD_some]
    have letters := AliasSplit.named_eq named
    rw [whole]
    have stays : ∀ character ∈ name, isBlank character = false := by
      intro character member
      rw [letters, List.mem_reverse] at member
      exact letter_not_blank (List.all_eq_true.1 List.all_takeWhile character member)
    constructor
    · exact Text.trim_eq_self (fun first found => stays first (List.mem_of_mem_head? found))
        fun last found => stays last (List.mem_of_getLast? found)
    · intro character member
      apply bare character
      rw [letters, List.mem_reverse] at member
      exact List.mem_reverse.1 ((List.takeWhile_sublist _).subset member)

/-- A tag opens blocks with labels that a tag may give. -/
theorem blockEvents_written (isBody : Piece.IsBody tag.body) {block : OpenBlock}
    (opens : .opens block ∈ tag.blockEvents) : block.label.IsWritten := by
  unfold blockEvents at opens
  split at opens
  · rename_i kind form
    have pathless := TagForm.isPathless form
    obtain rfl : block = tag.keywordBlock kind.blockKind := by simpa using opens
    cases kind with
    | expression => cases pathless
    | inverted => cases pathless
    | _ => trivial
  · obtain rfl : block = tag.keywordBlock .declaration := by simpa using opens
    trivial
  · obtain rfl : block = tag.keywordBlock .otherwise := by simpa using opens
    trivial
  · obtain rfl : block = tag.keywordBlock .otherwise := by simpa using opens
    trivial
  · simp at opens
  · obtain rfl : block = ⟨⟨.scope, tag.pathName⟩, tag.start⟩ := by simpa using opens
    exact pathName_written isBody
  · obtain rfl : block = ⟨⟨.scope, tag.pathName⟩, tag.start⟩ := by simpa using opens
    exact pathName_written isBody
  · simp at opens
  · simp at opens

end Tag

/-! ### Closing tags -/

namespace BlockLabel

variable {label : BlockLabel}

/-- What a block is reported as has no blank at its ends. -/
theorem IsWritten.trimBlanks_eq (isWritten : label.IsWritten) :
    label.reportedName.trimBlanks = label.reportedName := by
  obtain ⟨kind, name⟩ := label
  cases kind with
  | scope => exact isWritten.1
  | custom word => exact isWritten.elim
  | _ => rfl

/-- What a block is reported as may stand between the braces of a closing tag. -/
theorem IsWritten.isBody (isWritten : label.IsWritten) : Piece.IsBody label.closingBody := by
  have slash : isBrace '/' = false := rfl
  refine ⟨List.cons_ne_nil _ _, List.forall_mem_cons.2 ⟨slash, ?_⟩⟩
  obtain ⟨kind, name⟩ := label
  cases kind with
  | scope => exact isWritten.2
  | custom word => exact isWritten.elim
  | _ =>
    dsimp only [reportedName, BlockKind.keyword]
    exact bare_of_all rfl

end BlockLabel

namespace Tag

variable {tag : Tag} {lines : LineTable} {start : Nat} {label : BlockLabel}

/-- A tag with two braces and a slash is the end of a path exactly when it has no keyword. -/
theorem form_pathClose_iff {word : Text} :
    TagForm.ofTag (tagAt lines start 2 ('/' :: word)) = .pathClose ↔
      Keyword.ofParts? (TagParts.ofBody ('/' :: word)) = none := by
  have slash : (TagParts.ofBody ('/' :: word)).sigil = some .slash := by
    simp only [TagParts.ofBody, Sigil.ofChar?]
    split <;> rfl
  have braces : (tagAt lines start 2 ('/' :: word)).braces ≠ 3 := by simp [tagAt]
  rw [TagForm.ofTag, if_neg braces]
  dsimp only [tagAt]
  cases Keyword.ofParts? (TagParts.ofBody ('/' :: word)) with
  | none => simp [slash, TagForm.ofSigil]
  | some keyword => simp

/-- The closing tag of a label that is closable stands for one event, which closes the label. -/
theorem closing_blockEvents (lines : LineTable) (start : Nat) (isWritten : label.IsWritten)
    (closable : label.IsClosable) :
    ∃ mark, (tagAt lines start 2 label.closingBody).blockEvents = [.closes mark start] ∧
      mark.closes label := by
  obtain ⟨kind, name⟩ := label
  cases kind with
  | scope =>
    have form : TagForm.ofTag (tagAt lines start 2 ('/' :: name)) = .pathClose :=
      form_pathClose_iff.2 (closable rfl)
    have argument : (tagAt lines start 2 ('/' :: name)).afterSigil.trim.text = name := isWritten.1
    refine ⟨.path name, ?_, by simp [ClosingMark.closes]⟩
    simp only [BlockLabel.closingBody, BlockLabel.reportedName, blockEvents, form, argument]
    rfl
  | custom word => exact isWritten.elim
  | ifTrue => exact ⟨.keyword .ifBlock, rfl, rfl⟩
  | ifNot => exact ⟨.keyword .ifBlock, rfl, rfl⟩
  | otherwise => exact ⟨.keyword .otherwise, rfl, rfl⟩
  | each => exact ⟨.keyword .each, rfl, rfl⟩
  | whileTrue => exact ⟨.keyword .whileTrue, rfl, rfl⟩
  | doBlock => exact ⟨.keyword .doBlock, rfl, rfl⟩
  | repeated => exact ⟨.keyword .repeated, rfl, rfl⟩
  | declaration => exact ⟨.keyword .declaration, rfl, rfl⟩

/-- A tag closes blocks of a keyword, or it has the form of the end of a path and closes the blocks
of the path. -/
theorem closes_blockEvents {mark : ClosingMark} {offset : Nat}
    (closes : .closes mark offset ∈ tag.blockEvents) :
    (∃ closer, mark = .keyword closer ∧ closer ≠ .scope) ∨
      (TagForm.ofTag tag = .pathClose ∧ mark = .path tag.afterSigil.trim.text) := by
  unfold blockEvents at closes
  split at closes
  · simp at closes
  · simp at closes
  · simp at closes
  · obtain ⟨rfl, -⟩ : mark = .keyword .ifBlock ∧ offset = tag.start := by simpa using closes
    exact Or.inl ⟨.ifBlock, rfl, by decide⟩
  · rename_i closer form
    have pathless := TagForm.isPathless form
    obtain ⟨rfl, -⟩ : mark = .keyword closer ∧ offset = tag.start := by simpa using closes
    exact Or.inl ⟨closer, rfl, by simpa [Keyword.isPathless] using pathless⟩
  · simp at closes
  · simp at closes
  · rename_i form
    obtain ⟨rfl, -⟩ : mark = .path tag.afterSigil.trim.text ∧ offset = tag.start := by
      simpa using closes
    exact Or.inr ⟨form, rfl⟩
  · simp at closes

/-- No closing tag of a label closes a label that is not closable. -/
theorem closing_spares (isWritten : label.IsWritten) {stuck : BlockLabel}
    (isStuck : ¬stuck.IsClosable) {mark : ClosingMark} {offset : Nat}
    (closes : .closes mark offset ∈ (tagAt lines start 2 label.closingBody).blockEvents) :
    ¬mark.closes stuck := by
  obtain ⟨path, keyword⟩ := Classical.not_imp.1 isStuck
  obtain ⟨kind, name⟩ := stuck
  obtain rfl : kind = .scope := path
  rcases closes_blockEvents closes with ⟨closer, rfl, other⟩ | ⟨form, rfl⟩
  · cases closer <;> simp_all [ClosingMark.closes, Closer.ends]
  · intro fits
    -- the names are the same, so the name of the other label would read as a keyword too
    have asked : name = (tagAt lines start 2 label.closingBody).afterSigil.trim.text := by
      simpa [ClosingMark.closes] using fits
    have same : name = label.reportedName := asked.trans isWritten.trimBlanks_eq
    apply keyword
    have none := form_pathClose_iff.1 form
    rw [← same] at none
    exact none

/-- Nothing is found in a tag that closes the innermost block but that there is no such block. -/
theorem closeInnermost_findings {blocks : OpenBlocks} {accepts : BlockLabel → Bool}
    {keyword : Text} : ∀ finding ∈ (blocks.closeInnermost accepts start keyword).findings,
      finding.problem.category = .unopenedScope := by
  unfold OpenBlocks.closeInnermost OpenBlocks.closeExpecting
  split
  · simp
  · exact List.forall_mem_singleton.2 rfl

/-- Nothing is found in a closing tag with a keyword and nothing else but that there is no block
of the keyword. -/
theorem readClose_findings {closer : Closer} {blocks : OpenBlocks} (bare : tag.payload.text = []) :
    ∀ finding ∈ (tag.readClose closer blocks).findings,
      finding.problem.category = .unopenedScope := by
  have accepted : tag.rejectPayload (closingTag closer.keyword) = [] := by
    rw [rejectPayload, bare]
    rfl
  dsimp only [readClose]
  rw [accepted]
  exact closeInnermost_findings

/-- Nothing is found in the closing tag of a label but that there is no block that it closes. -/
theorem closing_findings (isWritten : label.IsWritten) (closable : label.IsClosable)
    (surroundings : Surroundings) : ∀ finding ∈ (Progress.readTag Options.standard lines
      (tagAt lines start 2 label.closingBody) surroundings).findings,
      finding.problem.category = .unopenedScope := by
  rw [readTag_standard]
  obtain ⟨kind, name⟩ := label
  cases kind with
  | scope =>
    have form : TagForm.ofTag (tagAt lines start 2 ('/' :: name)) = .pathClose :=
      form_pathClose_iff.2 (closable rfl)
    dsimp only [BlockLabel.closingBody, BlockLabel.reportedName]
    rw [form]
    exact closeInnermost_findings
  | custom word => exact isWritten.elim
  | ifTrue => exact readClose_findings rfl
  | ifNot => exact readClose_findings rfl
  | otherwise => exact readClose_findings rfl
  | each => exact readClose_findings rfl
  | whileTrue => exact readClose_findings rfl
  | doBlock => exact readClose_findings rfl
  | repeated => exact readClose_findings rfl
  | declaration => exact readClose_findings rfl

end Tag

/-! ### All closing tags -/

namespace BlockEvent

variable {block : OpenBlock} {blocks : List OpenBlock} {event : BlockEvent}
  {events : List BlockEvent}

/-- A block that is open behind an event was open before or has been opened by it. -/
theorem mem_after (left : block ∈ event.after blocks) :
    block ∈ blocks ∨ event = .opens block := by
  cases event with
  | opens opened =>
    rcases List.mem_cons.1 left with rfl | before
    · exact Or.inr rfl
    · exact Or.inl before
  | closes mark start =>
    cases blocks with
    | nil => exact Or.inl left
    | cons innermost rest =>
      dsimp only [after] at left
      split at left
      · exact Or.inl (List.mem_cons_of_mem _ left)
      · exact Or.inl left

/-- A block that is left open was open before the events or has been opened by one of them. -/
theorem mem_leftOpen (left : block ∈ leftOpen blocks events) :
    block ∈ blocks ∨ .opens block ∈ events := by
  induction events generalizing blocks with
  | nil => exact Or.inl left
  | cons event rest induction =>
    rcases induction left with behind | later
    · rcases mem_after behind with before | rfl
      · exact Or.inl before
      · exact Or.inr (List.mem_cons_self ..)
    · exact Or.inr (List.mem_cons_of_mem _ later)

/-- A block that no event closes is left open. -/
theorem leftOpen_of_spared (isOpen : block ∈ blocks)
    (spared : ∀ mark start, .closes mark start ∈ events → ¬mark.closes block.label) :
    block ∈ leftOpen blocks events := by
  induction events generalizing blocks with
  | nil => exact isOpen
  | cons event rest induction =>
    refine induction ?_ fun mark start later => spared mark start (List.mem_cons_of_mem _ later)
    cases event with
    | opens opened => exact List.mem_cons_of_mem _ isOpen
    | closes mark start =>
      have misfit := spared mark start (List.mem_cons_self ..)
      cases blocks with
      | nil => exact isOpen
      | cons innermost others =>
        dsimp only [after]
        split
        · rename_i fits
          rcases List.mem_cons.1 isOpen with rfl | behind
          · exact absurd fits misfit
          · exact behind
        · exact isOpen

end BlockEvent

/-- What stands between the braces of the closing tags of open blocks. -/
def closingBodies (blocks : List OpenBlock) : List Text :=
  blocks.map fun block => block.label.closingBody

/-- The events of the closing tags of open blocks, put at an offset. -/
def closingEvents (lines : LineTable) (offset : Nat) (blocks : List OpenBlock) :
    List BlockEvent :=
  (tagPlaces offset (closingBodies blocks)).flatMap (pieceEvents lines)

variable {blocks : List OpenBlock} {lines : LineTable}

/-- The closing tags of open blocks, all of them closable, close the blocks one after the other, and
none of them is stray. -/
theorem closingEvents_close (lines : LineTable)
    (isWritten : ∀ block ∈ blocks, block.label.IsWritten)
    (closable : ∀ block ∈ blocks, block.label.IsClosable) (offset : Nat) :
    BlockEvent.leftOpen blocks (closingEvents lines offset blocks) = [] ∧
      BlockEvent.strays blocks (closingEvents lines offset blocks) = [] := by
  induction blocks generalizing offset with
  | nil => exact ⟨rfl, rfl⟩
  | cons block rest induction =>
    obtain ⟨hereWritten, laterWritten⟩ := List.forall_mem_cons.1 isWritten
    obtain ⟨hereClosable, laterClosable⟩ := List.forall_mem_cons.1 closable
    let width := Text.byteLength (tagSource 2 block.label.closingBody)
    obtain ⟨mark, event, fits⟩ := Tag.closing_blockEvents lines offset hereWritten hereClosable
    obtain ⟨closed, quiet⟩ := induction laterWritten laterClosable (offset + width)
    obtain ⟨taken, accepted⟩ : (BlockEvent.closes mark offset).after (block :: rest) = rest ∧
        (BlockEvent.closes mark offset).stray? (block :: rest) = none := BlockEvent.after_fits fits
    have events : closingEvents lines offset (block :: rest) =
        .closes mark offset :: closingEvents lines (offset + width) rest :=
      congrArg (· ++ closingEvents lines (offset + width) rest) event
    rw [events, BlockEvent.strays, taken, accepted, quiet]
    refine ⟨?_, rfl⟩
    rw [← closed]
    exact congrArg (BlockEvent.leftOpen · _) taken

/-- No closing tag of open blocks closes a block that is not closable. -/
theorem closingEvents_spare (isWritten : ∀ block ∈ blocks, block.label.IsWritten)
    {stuck : BlockLabel} (isStuck : ¬stuck.IsClosable) (offset : Nat) {mark : ClosingMark}
    {start : Nat} (closes : .closes mark start ∈ closingEvents lines offset blocks) :
    ¬mark.closes stuck := by
  induction blocks generalizing offset with
  | nil => cases closes
  | cons block rest induction =>
    obtain ⟨here, later⟩ := List.forall_mem_cons.1 isWritten
    rcases List.mem_append.1 closes with first | behind
    · exact Tag.closing_spares here isStuck first
    · exact induction later _ behind

/-- Nothing is found in closing tags of closable blocks but that some of them have no block. -/
theorem closingTags_findings (isWritten : ∀ block ∈ blocks, block.label.IsWritten)
    (closable : ∀ block ∈ blocks, block.label.IsClosable) (offset : Nat)
    (surroundings : Surroundings) :
    ∀ finding ∈ (readPieces Options.standard lines surroundings
      (tagPlaces offset (closingBodies blocks))).1.flatMap Reading.findings,
      finding.problem.category = .unopenedScope := by
  induction blocks generalizing offset surroundings with
  | nil => exact fun finding member => absurd member List.not_mem_nil
  | cons block rest induction =>
    obtain ⟨hereWritten, laterWritten⟩ := List.forall_mem_cons.1 isWritten
    obtain ⟨hereClosable, laterClosable⟩ := List.forall_mem_cons.1 closable
    exact List.forall_mem_append.2 ⟨Tag.closing_findings hereWritten hereClosable surroundings,
      induction laterWritten laterClosable _ _⟩

/-- Nothing is found in the closing tags of the blocks that are open before them, when all of these
are closable. -/
theorem closingTags_clean (lines : LineTable)
    (isWritten : ∀ block ∈ blocks, block.label.IsWritten)
    (closable : ∀ block ∈ blocks, block.label.IsClosable) (offset : Nat)
    (surroundings : Surroundings) (opened : surroundings.blocks.reported = blocks) :
    (readPieces Options.standard lines surroundings
      (tagPlaces offset (closingBodies blocks))).1.flatMap Reading.findings = [] := by
  have strays := (readPieces_performs lines (tagPlaces offset (closingBodies blocks))
    surroundings).strays
  have quiet := (closingEvents_close lines isWritten closable offset).2
  rw [opened, ← closingEvents, quiet] at strays
  apply List.eq_nil_iff_forall_not_mem.2
  intro finding member
  have category := closingTags_findings isWritten closable offset surroundings finding member
  have none := List.filter_eq_nil_iff.1 (List.map_eq_nil_iff.1 strays) finding member
  simp [category] at none

/-! ### Completed templates -/

/-- The pieces at their offsets are the pieces. -/
theorem Piece.mem_of_mem_withOffsets {pieces : List Piece} {offset : Nat} {place : Nat × Piece}
    (member : place ∈ withOffsets offset pieces) : place.2 ∈ pieces := by
  induction pieces generalizing offset with
  | nil => cases member
  | cons piece rest induction =>
    rcases List.mem_cons.1 member with rfl | later
    · exact List.mem_cons_self ..
    · exact List.mem_cons_of_mem _ (induction later)

namespace Template

/-- The blocks that a template leaves open, the innermost first. -/
def leftOpen (template : Text) : List OpenBlock := BlockEvent.leftOpen [] (blockEvents template)

/-- The blocks that a template leaves open have labels that a tag may give. -/
theorem leftOpen_written (template : Text) :
    ∀ block ∈ leftOpen template, block.label.IsWritten := by
  intro block left
  rcases BlockEvent.mem_leftOpen left with none | opens
  · cases none
  · obtain ⟨⟨start, piece⟩, place, event⟩ := List.mem_flatMap.1 opens
    cases piece with
    | content text => cases event
    | tag braces body =>
      obtain ⟨-, isBody⟩ := Piece.cutFrom_shape [] template braces body
        (Piece.mem_of_mem_withOffsets place)
      exact Tag.blockEvents_written isBody event

/-- A template with the closing tags of the blocks that it leaves open behind it. -/
def completed (template : Text) : Text :=
  template ++ (closingBodies (leftOpen template)).flatMap (tagSource 2)

/-- The closing tags of a template have bodies that may stand between braces. -/
theorem closingBodies_areBodies (template : Text) :
    ∀ body ∈ closingBodies (leftOpen template), Piece.IsBody body :=
  List.forall_mem_map.2 fun block left => (leftOpen_written template block left).isBody

/-- What is open behind the closing tags is what they leave of the blocks before them. -/
theorem leftOpen_completed (template : Text) : leftOpen (completed template) =
    BlockEvent.leftOpen (leftOpen template)
      (closingEvents (LineTable.ofSource (completed template)) template.byteLength
        (leftOpen template)) := by
  obtain ⟨events, -⟩ := appended template _ (closingBodies_areBodies template)
  rw [leftOpen, completed, events, BlockEvent.leftOpen_append]
  rfl

/-- A block that is not closable is still open behind the closing tags. -/
theorem stuck_open {template : Text} {block : OpenBlock} (left : block ∈ leftOpen template)
    (stuck : ¬block.label.IsClosable) : block ∈ leftOpen (completed template) := by
  rw [leftOpen_completed]
  apply BlockEvent.leftOpen_of_spared left
  intro mark start closes
  exact closingEvents_spare (leftOpen_written template) stuck _ closes

/-- When all blocks left open are closable, none is open behind the closing tags, and nothing is
found in these tags. -/
theorem completed_clean {template : Text}
    (closable : ∀ block ∈ leftOpen template, block.label.IsClosable) :
    leftOpen (completed template) = [] ∧
      tagFindings (completed template) = tagFindings template := by
  have isWritten := leftOpen_written template
  constructor
  · rw [leftOpen_completed]
    exact (closingEvents_close _ isWritten closable _).1
  · obtain ⟨-, findings⟩ := appended template _ (closingBodies_areBodies template)
    have clean := closingTags_clean (LineTable.ofSource (completed template)) isWritten closable
      template.byteLength (readings Options.standard template).2
      (readings_performs template).blocks
    rw [completed, findings]
    rw [completed] at clean
    rw [clean, List.append_nil]

/-- The reports of unclosed blocks among diagnostics. -/
def unclosed (diagnostics : List Diagnostic) : List Diagnostic :=
  diagnostics.filter fun diagnostic => diagnostic.category == .unclosedScope

/-- The diagnostics that are about something else than an unclosed block. -/
def others (diagnostics : List Diagnostic) : List Diagnostic :=
  diagnostics.filter fun diagnostic => diagnostic.category != .unclosedScope

/-- The closing tags that the reports of unclosed blocks suggest, one behind the other. -/
def suggestion (diagnostics : List Diagnostic) : Text :=
  (unclosed diagnostics).flatMap fun diagnostic => diagnostic.problem.expected

/-- Diagnostics of a template: as many reports of unclosed blocks as there are blocks left open, as
many others as there are findings in its tags, and the closing tags of the blocks suggested. -/
structure Counted (template : Text) (diagnostics : List Diagnostic) : Prop where
  validated : validate Options.standard template = .ok diagnostics
  unclosed_length : (unclosed diagnostics).length = (leftOpen template).length
  others_length : (others diagnostics).length = (tagFindings template).length
  length : diagnostics.length = (tagFindings template).length + (leftOpen template).length
  completed_eq : template ++ suggestion diagnostics = completed template

/-- Every template has such diagnostics. -/
theorem exists_counted (template : Text) : ∃ diagnostics, Counted template diagnostics := by
  let place := Diagnostic.place (LineTable.ofSource template)
  let inTags := (tagFindings template).map place
  let left := (leftOpen template).map fun block => place block.unclosed
  have scanned : ∀ diagnostic ∈ inTags, diagnostic.category ≠ .unclosedScope :=
    List.forall_mem_map.2 (readings_performs template).scanned
  have reported : ∀ diagnostic ∈ left, diagnostic.category = .unclosedScope :=
    List.forall_mem_map.2 fun block member => rfl
  have unclosed_eq : unclosed (inTags ++ left) = left := by
    have none : unclosed inTags = [] :=
      List.filter_eq_nil_iff.2 fun diagnostic member => by simpa using scanned diagnostic member
    have all : unclosed left = left :=
      List.filter_eq_self.2 fun diagnostic member => by simpa using reported diagnostic member
    rw [unclosed, List.filter_append, ← unclosed, ← unclosed, none, all, List.nil_append]
  have others_eq : others (inTags ++ left) = inTags := by
    have all : others inTags = inTags :=
      List.filter_eq_self.2 fun diagnostic member => by simpa using scanned diagnostic member
    have none : others left = [] :=
      List.filter_eq_nil_iff.2 fun diagnostic member => by simpa using reported diagnostic member
    rw [others, List.filter_append, ← others, ← others, none, all, List.append_nil]
  have tags : left.flatMap (fun diagnostic => diagnostic.problem.expected) =
      (closingBodies (leftOpen template)).flatMap (tagSource 2) := by
    rw [List.flatMap_map, closingBodies, List.flatMap_map]
    rfl
  refine ⟨inTags ++ left, validate_standard template, ?_, ?_, ?_, ?_⟩
  · rw [unclosed_eq, List.length_map]
  · rw [others_eq, List.length_map]
  · rw [List.length_append, List.length_map, List.length_map]
  · rw [suggestion, unclosed_eq, tags, completed]

/-- With a block left open that is not closable, an unclosed block is reported behind the closing
tags too. -/
theorem Counted.unclosed_ne_nil {template : Text} {again : List Diagnostic}
    (after : Counted (completed template) again) {block : OpenBlock}
    (left : block ∈ leftOpen template) (stuck : ¬block.label.IsClosable) :
    unclosed again ≠ [] := by
  intro closed
  have none : (leftOpen (completed template)).length = 0 := by
    rw [← after.unclosed_length, closed]
    rfl
  have isOpen := stuck_open left stuck
  rw [List.length_eq_zero_iff.1 none] at isOpen
  cases isOpen

/-- Every template can be validated again with the suggested closing tags behind it. No block is
unclosed then, and there are as many other diagnostics as before, exactly when the name of no
block left open reads as a keyword behind a slash.

Proof: the tags are cut off behind the pieces of the template. Where all blocks are closable, each
tag closes the block that is the innermost then, so nothing is found in it. A block that is not
closable is closed by none of the tags. -/
theorem completed_iff (template : Text) : ∃ diagnostics again,
    validate Options.standard template = .ok diagnostics ∧
    validate Options.standard (template ++ suggestion diagnostics) = .ok again ∧
    (unclosed again = [] ∧ again.length = (others diagnostics).length ↔
      ∀ block ∈ leftOpen template, block.label.IsClosable) := by
  obtain ⟨diagnostics, before⟩ := exists_counted template
  obtain ⟨again, after⟩ := exists_counted (completed template)
  refine ⟨diagnostics, again, before.validated, ?_, ?_, ?_⟩
  · rw [before.completed_eq]
    exact after.validated
  · rintro ⟨closed, -⟩ block left
    by_contra stuck
    exact after.unclosed_ne_nil left stuck closed
  · intro closable
    obtain ⟨closed, same⟩ := completed_clean closable
    constructor
    · apply List.length_eq_zero_iff.1
      rw [after.unclosed_length, closed]
      rfl
    · rw [after.length, closed, same, before.others_length]
      rfl

/-- The block of a path that calls its items `if` is not closed by the tag suggested for it, which
asks for the block of a condition. -/
theorem completed_alias_if :
    let template := tagSource 2 "#foo AS if"
    ∃ diagnostics again,
      validate Options.standard template = .ok diagnostics ∧
      suggestion diagnostics = tagSource 2 "/if" ∧
      validate Options.standard (template ++ suggestion diagnostics) = .ok again ∧
      ¬(unclosed again = [] ∧ again.length = (others diagnostics).length) := by
  intro template
  have cut : Piece.cut template = [.tag 2 "#foo AS if"] := by
    have isBody : Piece.IsBody "#foo AS if" := ⟨List.cons_ne_nil _ _, bare_of_all rfl⟩
    have appended := Piece.cut_append [] ["#foo AS if"] (List.forall_mem_singleton.2 isBody)
    have empty : Piece.cut [] = [] := by
      rw [Piece.cut, Piece.cutFrom]
      rfl
    rw [empty] at appended
    exact appended
  have left : leftOpen template = [⟨⟨.scope, "if"⟩, 0⟩] := by
    rw [leftOpen, blockEvents, cut]
    rfl
  have stuck : ¬BlockLabel.IsClosable ⟨.scope, "if"⟩ := by
    intro closable
    cases closable rfl
  obtain ⟨diagnostics, before⟩ := exists_counted template
  obtain ⟨again, after⟩ := exists_counted (completed template)
  have asked : suggestion diagnostics = tagSource 2 "/if" := by
    apply @List.append_cancel_left _ template
    rw [before.completed_eq, completed, left]
    rfl
  refine ⟨diagnostics, again, before.validated, asked, ?_, ?_⟩
  · rw [before.completed_eq]
    exact after.validated
  · rintro ⟨closed, -⟩
    have isLeft : (⟨⟨.scope, "if"⟩, 0⟩ : OpenBlock) ∈ leftOpen template := by
      rw [left]
      exact List.mem_cons_self ..
    exact after.unclosed_ne_nil isLeft stuck closed

end Template

end Bracework
