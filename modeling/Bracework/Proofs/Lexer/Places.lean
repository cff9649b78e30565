import Bracework.Proofs.Expression.Refusal
import Bracework.Proofs.Lexer.Completion
import Bracework.Proofs.Text.Words

/-!
# Where diagnostics point

Everything that is found wrong with a tag is placed between its opening and its closing braces: at
the first brace, at a clause of its payload, or inside an expression. The offset is put together
from the start of the tag, the sigil, the keyword, the cuts of the payload and the text that the
reader of an expression had left. Each of these is the length of a part of the template, so the sum
never lies inside a character.

A fragment is marked at an offset when the offset lies between two of its characters, or at either
end. What marks a fragment marks everything that the fragment lies within, so each clause is looked
at on its own here, and the whole is a walk from the inside out.
-/

namespace Bracework

namespace Located

variable {inner outer located : Located} {offset : Nat}

/-- An offset marks a fragment when it lies between two characters of it, or at either end. -/
def Marks (located : Located) (offset : Nat) : Prop :=
  ∃ before after, located.text = before ++ after ∧
    offset = located.offset + Text.byteLength before

/-- A fragment is marked where it begins. -/
theorem marks_start (located : Located) : located.Marks located.offset :=
  ⟨[], located.text, rfl, rfl⟩

/-- What marks a fragment marks what the fragment lies within. -/
theorem Within.marks (within : inner.Within outer) (marks : inner.Marks offset) :
    outer.Marks offset := by
  obtain ⟨front, back, whole, start⟩ := within
  obtain ⟨before, after, cut, rfl⟩ := marks
  refine ⟨front ++ before, after ++ back, ?_, ?_⟩
  · rw [whole, cut]
    simp only [List.append_assoc]
  · rw [start, Text.byteLength_append, Nat.add_assoc]

/-- A mark lies between the ends of the fragment. -/
theorem Marks.bounds (marks : located.Marks offset) :
    located.offset ≤ offset ∧ offset ≤ located.offset + located.text.byteLength := by
  obtain ⟨before, after, whole, rfl⟩ := marks
  rw [whole, Text.byteLength_append]
  exact ⟨Nat.le_add_right _ _, by omega⟩

/-- The bytes that are not left tell where the reading of a fragment has stopped. -/
theorem marks_of_suffix {tail : Text} (behind : tail <:+ located.text) :
    located.Marks (located.offset + (located.text.byteLength - Text.byteLength tail)) := by
  obtain ⟨before, whole⟩ := behind
  refine ⟨before, tail, whole.symm, ?_⟩
  rw [← whole, Text.byteLength_append, Nat.add_sub_cancel]

/-- The first part of a text, in the same place, lies within the text. -/
theorem within_of_prefix {part whole : Text} (leads : part <+: whole) (offset : Nat) :
    (⟨part, offset⟩ : Located).Within ⟨whole, offset⟩ := by
  obtain ⟨after, rfl⟩ := leads
  exact ⟨[], after, rfl, rfl⟩

/-- Reading an expression gives a tree and finds nothing, or gives none and finds one thing, at a
mark of the text that was read. -/
theorem parse_cases (located : Located) :
    (∃ expression, located.parse = ⟨some expression, []⟩) ∨
      ∃ finding, located.parse = ⟨none, [finding]⟩ ∧ located.Marks finding.offset := by
  unfold parse Expression.parseAt
  dsimp only
  by_cases empty : located.text.trimBlanks = []
  · rw [if_pos empty]
    exact Or.inr ⟨_, rfl, located.marks_start⟩
  · rw [if_neg empty]
    cases read : Expression.readTrimmed located.text.trimBlanks with
    | ok expression => exact Or.inl ⟨expression, rfl⟩
    | error refusal =>
      have inside := located.trim.marks_of_suffix (Expression.readTrimmed_inside read)
      have offset : located.trim.offset +
          (located.trim.text.byteLength - refusal.tail.byteLength) =
            located.offset + (Text.byteLength (located.text.takeWhile isBlank) +
              (located.text.trimBlanks.byteLength - refusal.tail.byteLength)) :=
        Nat.add_assoc ..
      rw [offset] at inside
      exact Or.inr ⟨_, rfl, located.trim_within.marks inside⟩

end Located

/-- Findings that mark a fragment. -/
def AllMark (located : Located) (findings : List Finding) : Prop :=
  ∀ finding ∈ findings, located.Marks finding.offset

namespace AllMark

variable {inner outer located : Located} {first second : List Finding} {offset : Nat}
  {problem : Problem}

theorem nil : AllMark located [] := fun _ member => by simp at member

theorem single (marks : located.Marks offset) : AllMark located [⟨offset, problem⟩] :=
  List.forall_mem_singleton.2 marks

theorem append (left : AllMark located first) (right : AllMark located second) :
    AllMark located (first ++ second) := List.forall_mem_append.2 ⟨left, right⟩

/-- What is found wrong with an expression marks what the expression lies within. -/
theorem parse (within : inner.Within outer) : AllMark outer inner.parse.findings := by
  obtain ⟨expression, read⟩ | ⟨finding, refused, marks⟩ := inner.parse_cases
  · rw [read]
    exact nil
  · rw [refused]
    exact List.forall_mem_singleton.2 (within.marks marks)

end AllMark

/-! ### Clauses -/

/-- What stands before the clause that binds a name is the first part of the text. -/
theorem AliasSplit.head_prefix (text : Text) : (ofText text).head <+: text := by
  rcases ofText_cases text with uncut | ⟨head, gap, word, blanks, name, clause, cut⟩
  · rw [uncut]
  · rw [cut]
    refine ⟨gap ++ word ++ blanks ++ name, ?_⟩
    rw [clause.whole]
    simp only [List.append_assoc]

/-- What stands before a word on the scope is the first part of the text. -/
theorem ScopeBehavior.splitOff_prefix (text : Text) : (splitOff text).1 <+: text := by
  have before (word head : Text) (found : beforeWord? word text = some head) : head <+: text := by
    unfold beforeWord? at found
    dsimp only at found
    split at found
    · cases found
      obtain ⟨after, whole, -⟩ := Text.trimEnd_append isBlank
        (text.take (text.length - word.length))
      exact List.IsPrefix.trans ⟨after, whole.symm⟩ (List.take_prefix _ _)
    · cases found
  unfold splitOff
  split
  · rename_i head found
    exact before "noscope" head found
  · split
    · rename_i head found
      exact before "withscope" head found
    · exact List.prefix_refl _

namespace Inclusion

variable {payload context : Located} {written : Text}

/-- The word of a context stands between the blanks in front of it and what follows it. -/
theorem whole_of_contextClause? {after gap rest : Text}
    (found : contextClause? after = some (gap, rest)) :
    after = gap ++ ((after.dropWhile isBlank).take 4 ++ rest) ∧
      Text.sameWord ((after.dropWhile isBlank).take 4) "with" = true := by
  unfold contextClause? at found
  dsimp only at found
  split at found
  · rename_i shape
    cases found
    rw [List.take_append_drop, List.takeWhile_append_dropWhile]
    exact ⟨rfl, shape.2.1⟩
  · cases found

/-- The context of an inclusion lies within the payload. -/
theorem context_within (found : (ofPayload payload).context = some context) :
    context.Within payload := by
  refine Located.Within.trans ?_ payload.trim_within
  unfold ofPayload at found
  dsimp only at found
  split at found
  · cases found
  · split at found
    · rename_i gap rest clause
      cases found
      refine (Located.trim_within _).trans ?_
      let name := payload.trim.text.takeWhile isNameChar
      let word := ((payload.trim.text.dropWhile isNameChar).dropWhile isBlank).take 4
      obtain ⟨whole, same⟩ := whole_of_contextClause? clause
      have letters : word.all isAsciiLetter = true := (Text.sameWord_letters same).trans (by decide)
      have length : word.length = 4 := Text.sameWord_length same
      have bytes : Text.byteLength word = 4 := (Text.byteLength_letters letters).trans length
      refine ⟨name ++ gap ++ word, [], ?_, ?_⟩
      · rw [List.append_nil, List.append_assoc, List.append_assoc, ← whole,
          List.takeWhile_append_dropWhile]
      · rw [Text.byteLength_append, Text.byteLength_append, bytes]
        simp only [name, Nat.add_assoc]
    · cases found

/-- What is included is named by the characters of a name at the start of the payload. -/
theorem name_eq (payload : Located) :
    (ofPayload payload).name = payload.trim.text.takeWhile isNameChar := by
  unfold ofPayload
  dsimp only
  split
  · rfl
  · split <;> rfl

/-- Behind the name of an inclusion the payload is marked. -/
theorem name_marks (payload : Located) :
    payload.Marks (payload.trim.offset + (ofPayload payload).name.byteLength) := by
  apply payload.trim_within.marks
  exact ⟨_, payload.trim.text.dropWhile isNameChar,
    List.takeWhile_append_dropWhile.symm, by rw [name_eq]⟩

end Inclusion

/-- The expression of a binding lies within the payload. -/
theorem Assignment.expression_within {payload : Located} {assignment : Assignment}
    (read : ofPayload payload = .ok assignment) : assignment.expression.Within payload := by
  refine Located.Within.trans ?_ payload.trim_within
  unfold ofPayload at read
  dsimp only at read
  split at read
  · cases read
  · split at read
    · rename_i rest shape
      split at read
      · cases read
      · cases read
        refine (Located.trim_within _).trans ?_
        let name := payload.trim.text.takeWhile isNameChar
        let after := payload.trim.text.dropWhile isNameChar
        refine ⟨name ++ after.takeWhile isBlank ++ ['='], [], ?_, ?_⟩
        · have behind : after.takeWhile isBlank ++ '=' :: rest = after := by
            rw [← shape, List.takeWhile_append_dropWhile]
          simp only [List.append_nil, List.append_assoc, List.singleton_append, behind]
          exact List.takeWhile_append_dropWhile.symm
        · rw [Text.byteLength_append, Text.byteLength_append]
          simp only [name, after, Nat.add_assoc]
          rfl
    · cases read

/-! ### Tags -/

namespace Tag

variable {tag : Tag} {lines : LineTable} {blocks : OpenBlocks}

/-- A tag up to its closing braces. -/
def front (tag : Tag) : Located := ⟨List.replicate tag.braces '{' ++ tag.body, tag.start⟩

/-- The body lies in front of the closing braces. -/
theorem located_front (tag : Tag) : tag.located.Within tag.front := by
  have opening : ('{' : Char).utf8Size = 1 := rfl
  refine ⟨List.replicate tag.braces '{', [], by rw [List.append_nil]; rfl, ?_⟩
  rw [Text.byteLength_replicate opening]
  rfl

/-- The payload lies in front of the closing braces. -/
theorem payload_front (tag : Tag) : tag.payload.Within tag.front :=
  tag.payload_within.trans tag.located_front

/-- The payload without blanks lies in front of the closing braces. -/
theorem trimmed_front (tag : Tag) : tag.payload.trim.Within tag.front :=
  tag.payload.trim_within.trans tag.payload_front

/-- Where the payload without blanks begins, the tag is marked. -/
theorem trimmed_marks (tag : Tag) : tag.front.Marks tag.payload.trim.offset :=
  tag.trimmed_front.marks (Located.marks_start _)

/-- A text after a tag that takes none is found where the payload begins. -/
theorem rejectPayload_marks (form : Text) : AllMark tag.front (tag.rejectPayload form) := by
  unfold rejectPayload
  dsimp only
  split
  · exact .nil
  · exact .single (tag.payload_front.marks (Located.marks_start _))

/-- A closing tag without a block is found where the tag begins. -/
theorem closeInnermost_marks {accepts : BlockLabel → Bool} {keyword : Text} :
    AllMark tag.front (blocks.closeInnermost accepts tag.start keyword).findings := by
  unfold OpenBlocks.closeInnermost OpenBlocks.closeExpecting
  split
  · exact .nil
  · exact .single tag.front.marks_start

/-- A block without a name for its items is found wrong where its expression is. -/
theorem readUnnamedBlock_marks (kind : ScopeKind) {written : Located}
    (within : written.Within tag.front) :
    AllMark tag.front (tag.readUnnamedBlock kind written blocks).findings := .parse within

/-- A block with a name for its items is found wrong where its expression is. -/
theorem readNamedBlock_marks (kind : ScopeKind) {written : Located} (name : Located)
    (behavior : Option ScopeBehavior) (within : written.Within tag.front) :
    AllMark tag.front
      (tag.readNamedBlock lines kind written name behavior blocks).findings := .parse within

/-- What is wrong with a block that a keyword opens is found inside the tag. -/
theorem readBlock_marks (kind : ScopeKind) :
    AllMark tag.front (tag.readBlock lines kind blocks).findings := by
  have head : (⟨(AliasSplit.ofText tag.payload.trim.text).head, tag.payload.trim.offset⟩ :
      Located).Within tag.front :=
    (Located.within_of_prefix (AliasSplit.head_prefix _) _).trans tag.trimmed_front
  unfold readBlock
  dsimp only
  split
  · exact readUnnamedBlock_marks kind tag.trimmed_front
  · rename_i name found
    split
    · have cut : (⟨(ScopeBehavior.splitOff (AliasSplit.ofText tag.payload.trim.text).head).1,
          tag.payload.trim.offset⟩ : Located).Within tag.front :=
        (Located.within_of_prefix (ScopeBehavior.splitOff_prefix _) _).trans head
      exact readNamedBlock_marks kind _ _ cut
    · split
      · have named := (AliasSplit.name_within tag.payload.trim.offset found).trans
          tag.trimmed_front
        have alone : AllMark tag.front [⟨tag.payload.trim.offset +
            (AliasSplit.ofText tag.payload.trim.text).nameOffset, .aliasOnIf name⟩] :=
          .single (named.marks (Located.marks_start _))
        exact alone.append (readUnnamedBlock_marks kind head)
      · exact readUnnamedBlock_marks kind tag.trimmed_front

/-- What is wrong with a block that a path opens is found inside the tag. -/
theorem readPathBlock_marks (marked : (TagParts.ofBody tag.body).sigil.isSome)
    (kind : ScopeKind) : AllMark tag.front (tag.readPathBlock lines kind blocks).findings := by
  have inside : tag.afterSigil.trim.Within tag.front :=
    tag.afterSigil.trim_within.trans ((afterSigil_within marked).trans tag.located_front)
  have head : (⟨(AliasSplit.ofText tag.afterSigil.trim.text).head, tag.afterSigil.trim.offset⟩ :
      Located).Within tag.front :=
    (Located.within_of_prefix (AliasSplit.head_prefix _) _).trans inside
  unfold readPathBlock
  dsimp only
  split
  · exact readNamedBlock_marks kind _ _ head
  · exact readUnnamedBlock_marks kind head

/-- A tag of the other case that is out of place is found where the tag begins. -/
theorem readOtherwise_marks (afterIf : Bool) :
    AllMark tag.front (tag.readOtherwise afterIf blocks).findings := by
  refine (rejectPayload_marks _).append ?_
  split
  · exact .nil
  · exact .single tag.front.marks_start

/-- A declaration without a name is found where the name would begin. -/
theorem readDeclaration_marks : AllMark tag.front (tag.readDeclaration blocks).findings := by
  unfold readDeclaration
  dsimp only
  split
  · exact .nil
  · exact .single tag.trimmed_marks

/-- What is wrong with an inclusion is found at its name, behind its name, or in its context. -/
theorem readInclusion_marks (partials : List Text) :
    AllMark tag.front (tag.readInclusion partials blocks).findings := by
  have named : AllMark tag.front
      (tag.nameFindings (Inclusion.ofPayload tag.payload).name partials) := by
    unfold nameFindings
    dsimp only
    split
    · exact .single tag.trimmed_marks
    · split
      · exact .nil
      · exact .single tag.trimmed_marks
  unfold readInclusion
  dsimp only
  refine (named.append ?_).append ?_
  · split
    · exact .single (tag.payload_front.marks (Inclusion.name_marks tag.payload))
    · exact .nil
  · split
    · rename_i context found
      exact AllMark.parse ((Inclusion.context_within found).trans tag.payload_front)
    · exact .nil

/-- What is wrong with a binding is found where the payload begins, or in its expression. -/
theorem readAssignment_marks (durable : Bool) :
    AllMark tag.front (tag.readAssignment durable blocks).findings := by
  unfold readAssignment
  split
  · rename_i assignment read
    exact AllMark.parse ((Assignment.expression_within read).trans tag.payload_front)
  · exact .single tag.trimmed_marks

/-- The form of a raw value has a sigil. -/
theorem sigil_of_rawValue (form : TagForm.ofTag tag = .rawValue) :
    (TagParts.ofBody tag.body).sigil.isSome := by
  cases marked : (TagParts.ofBody tag.body).sigil with
  | some sigil => rfl
  | none =>
    unfold TagForm.ofTag at form
    dsimp only at form
    split at form
    · cases form
    · split at form
      · cases form
      · simp [marked, TagForm.ofSigil] at form

/-- Everything that is found wrong with a tag is found inside it. -/
theorem readForm_marks (surroundings : Surroundings) :
    AllMark tag.front (tag.readForm lines surroundings (TagForm.ofTag tag)).findings := by
  cases form : TagForm.ofTag tag with
  | keyword keyword =>
    cases keyword with
    | declaration => exact readDeclaration_marks
    | inclusion => exact readInclusion_marks _
    | block kind => exact readBlock_marks kind
    | close closer => exact (rejectPayload_marks _).append closeInnermost_marks
    | otherwise => exact readOtherwise_marks _
    | ifOtherwise => exact (rejectPayload_marks _).append closeInnermost_marks
    | assignment durable => exact readAssignment_marks durable
    | edit operation => exact rejectPayload_marks _
  | tripleValue => exact AllMark.parse tag.located_front
  | rawValue =>
    exact AllMark.parse ((afterSigil_within (sigil_of_rawValue form)).trans tag.located_front)
  | comment => exact .nil
  | invertedBlock => exact readPathBlock_marks (sigil_of_form (Or.inr form)) _
  | pathBlock => exact readPathBlock_marks (sigil_of_form (Or.inl form)) _
  | pathClose => exact closeInnermost_marks
  | value => exact AllMark.parse tag.located_front

/-- A tag opens blocks where it begins. -/
theorem opens_start {block : OpenBlock} (opens : .opens block ∈ tag.blockEvents) :
    block.offset = tag.start := by
  unfold blockEvents at opens
  split at opens <;> simp_all [keywordBlock]

end Tag

/-! ### Templates -/

/-- The place of a tag as a fragment of the template, up to its closing braces. -/
theorem Tag.front_within {template : Text} {start braces : Nat} {body : Text} (lines : LineTable)
    (listed : (start, .tag braces body) ∈ Piece.withOffsets 0 (Piece.cut template)) :
    (tagAt lines start braces body).front.Within ⟨template, 0⟩ := by
  have whole := Piece.cut_within template _ listed
  have leads : (tagAt lines start braces body).front.Within ⟨tagSource braces body, start⟩ :=
    Located.within_of_prefix (List.prefix_append ..) start
  exact leads.trans whole

/-- A diagnostic points into a tag of a template: it lies between the first opening brace and the
closing braces, not inside a character, and is shown at its place. -/
structure Diagnostic.PointsInto (template : Text) (span : TagSpan) (diagnostic : Diagnostic) :
    Prop where
  begins : span.start ≤ diagnostic.offset
  ends : diagnostic.offset ≤ span.stop - span.braces
  boundary : ∃ before after, template = before ++ after ∧
    diagnostic.offset = Text.byteLength before
  position : diagnostic.position = (LineTable.ofSource template).locate diagnostic.offset
  window : diagnostic.window = Window.around (LineTable.ofSource template) diagnostic.offset

/-- The span of a tag at an offset. -/
def TagSpan.ofTag (start braces : Nat) (body : Text) : TagSpan :=
  ⟨start, start + Text.byteLength (tagSource braces body), braces⟩

/-- A finding that marks a tag is placed as a diagnostic that points into it. -/
theorem Located.Marks.pointsInto {template : Text} {start braces : Nat} {body : Text}
    {finding : Finding}
    (marks : (tagAt (LineTable.ofSource template) start braces body).front.Marks finding.offset)
    (listed : (start, .tag braces body) ∈ Piece.withOffsets 0 (Piece.cut template)) :
    (Diagnostic.place (LineTable.ofSource template) finding).PointsInto template
      (TagSpan.ofTag start braces body) := by
  obtain ⟨lower, upper⟩ := marks.bounds
  obtain ⟨before, after, whole, offset⟩ :=
    (Tag.front_within (LineTable.ofSource template) listed).marks marks
  have opening : ('{' : Char).utf8Size = 1 := rfl
  have closing : ('}' : Char).utf8Size = 1 := rfl
  refine ⟨lower, ?_, ⟨before, after, whole, offset.trans (Nat.zero_add _)⟩, rfl, rfl⟩
  have stop : Text.byteLength (tagSource braces body) =
      Text.byteLength (List.replicate braces '{' ++ body) + braces := by
    rw [tagSource, Text.byteLength_append, Text.byteLength_replicate closing]
  have last : finding.offset ≤ start +
      Text.byteLength (List.replicate braces '{' ++ body) := upper
  dsimp only [TagSpan.ofTag, Diagnostic.place]
  omega

/-- What is found in the tags of a template falls into one group for each tag, in their order. -/
theorem readPieces_points {template : Text} {places : List (Nat × Piece)}
    (listed : ∀ place ∈ places, place ∈ Piece.withOffsets 0 (Piece.cut template))
    (surroundings : Surroundings) : ∃ groups,
      (readPieces Options.standard (LineTable.ofSource template) surroundings places).1.flatMap
        Reading.findings = groups.flatten ∧
      List.Forall₂ (fun span group => ∀ finding ∈ group,
        (Diagnostic.place (LineTable.ofSource template) finding).PointsInto template span)
        (places.filterMap TagSpan.ofPiece?) groups := by
  induction places generalizing surroundings with
  | nil => exact ⟨[], rfl, .nil⟩
  | cons place rest induction =>
    obtain ⟨here, later⟩ := List.forall_mem_cons.1 listed
    obtain ⟨start, piece⟩ := place
    cases piece with
    | content text => exact induction later surroundings
    | tag braces body =>
      let tag := tagAt (LineTable.ofSource template) start braces body
      let reading := Progress.readTag Options.standard (LineTable.ofSource template) tag surroundings
      obtain ⟨groups, whole, points⟩ := induction later (surroundings.after tag reading)
      have marks : AllMark tag.front reading.findings := by
        have form : reading = tag.readForm (LineTable.ofSource template) surroundings
            (TagForm.ofTag tag) := tag.readTag_standard _ surroundings
        rw [form]
        exact Tag.readForm_marks surroundings
      refine ⟨reading.findings :: groups, ?_, ?_⟩
      · rw [List.flatten_cons, ← whole]
        rfl
      · exact .cons (fun finding member => (marks finding member).pointsInto here) points

namespace Template

/-- The diagnostics of a template and its tags. Some are raised while the tags are read, and in
their order; others are raised behind the last tag. -/
structure PointsIntoTags (template : Text) (scanned unclosed : List Diagnostic) : Prop where
  tokenized : ∃ tokens, tokenize Options.standard template = .ok ⟨tokens, scanned ++ unclosed⟩
  /-- Every diagnostic points into a tag. -/
  points : ∀ diagnostic ∈ scanned ++ unclosed, ∃ span ∈ TagSpan.all template,
    diagnostic.PointsInto template span
  /-- What is raised while the tags are read falls into one group for each tag, in their order. -/
  ordered : ∃ groups, scanned = groups.flatten ∧
    List.Forall₂ (fun span group => ∀ diagnostic ∈ group, diagnostic.PointsInto template span)
      (TagSpan.all template) groups
  /-- Behind the last tag the blocks that are never closed are reported, at their first brace. -/
  behind : ∀ diagnostic ∈ unclosed, diagnostic.category = .unclosedScope ∧
    ∃ span ∈ TagSpan.all template, diagnostic.offset = span.start
  reading : ∀ diagnostic ∈ scanned, diagnostic.category ≠ .unclosedScope

/-- A block that a template leaves open is reported at the tag that opened it. -/
theorem leftOpen_points {template : Text} {block : OpenBlock} (left : block ∈ leftOpen template) :
    ∃ span ∈ TagSpan.all template, block.offset = span.start ∧
      (Diagnostic.place (LineTable.ofSource template) block.unclosed).PointsInto template
        span := by
  rcases BlockEvent.mem_leftOpen left with none | opens
  · cases none
  · obtain ⟨⟨start, piece⟩, listed, event⟩ := List.mem_flatMap.1 opens
    cases piece with
    | content text => cases event
    | tag braces body =>
      have offset : block.offset = start := Tag.opens_start event
      refine ⟨TagSpan.ofTag start braces body, List.mem_filterMap.2 ⟨_, listed, rfl⟩, offset, ?_⟩
      have marks : (tagAt (LineTable.ofSource template) start braces body).front.Marks
          block.unclosed.offset := by
        rw [show block.unclosed.offset = start from offset]
        exact Located.marks_start _
      exact marks.pointsInto listed

/-- Every diagnostic points into the tag that it is about, and what is found wrong with an
expression lies inside its text.

Proof: what is found in a tag is found at a mark of the tag up to its closing braces. The tags are
read in their order, and the blocks left open are reported where they begin. -/
theorem diagnostics_point_into_tags (template text : Text) (origin : Nat) :
    (∃ scanned unclosed, PointsIntoTags template scanned unclosed) ∧
      ((∃ expression, Located.parse ⟨text, origin⟩ = ⟨some expression, []⟩) ∨
        ∃ finding, Located.parse ⟨text, origin⟩ = ⟨none, [finding]⟩ ∧
          origin ≤ finding.offset ∧ finding.offset ≤ origin + text.byteLength) := by
  constructor
  · let lines := LineTable.ofSource template
    obtain ⟨groups, whole, points⟩ := readPieces_points (fun _ member => member)
      ⟨OpenBlocks.empty, Options.standard.partials, false⟩
    have ordered : List.Forall₂ (fun span group => ∀ diagnostic ∈ group,
        Diagnostic.PointsInto template span diagnostic) (TagSpan.all template)
        (groups.map (List.map (Diagnostic.place lines))) :=
      List.forall₂_map_right_iff.2 (points.imp fun _ _ => List.forall_mem_map.2)
    have scanned : (tagFindings template).map (Diagnostic.place lines) =
        (groups.map (List.map (Diagnostic.place lines))).flatten := by
      rw [show tagFindings template = groups.flatten from whole, List.map_flatten]
    refine ⟨(tagFindings template).map (Diagnostic.place lines),
      (leftOpen template).map fun block => Diagnostic.place lines block.unclosed,
      ⟨(readings Options.standard template).1.flatMap Reading.tokens, ?_⟩, ?_,
      ⟨_, scanned, ordered⟩, ?_, List.forall_mem_map.2 (readings_performs template).scanned⟩
    · rw [tokenize_ok standard_readyMade, findings_eq, List.map_append, List.map_map]
      rfl
    · refine List.forall_mem_append.2 ⟨?_, List.forall_mem_map.2 fun block left => ?_⟩
      · rw [scanned]
        intro diagnostic member
        obtain ⟨group, inGroups, inGroup⟩ := List.mem_flatten.1 member
        obtain ⟨span, listed, inSpan⟩ := Token.exists_counterpart ordered group inGroups
        exact ⟨span, listed, inSpan diagnostic inGroup⟩
      · obtain ⟨span, listed, -, inSpan⟩ := leftOpen_points left
        exact ⟨span, listed, inSpan⟩
    · refine List.forall_mem_map.2 fun block left => ⟨rfl, ?_⟩
      obtain ⟨span, listed, start, -⟩ := leftOpen_points left
      exact ⟨span, listed, start⟩
  · obtain read | ⟨finding, refused, marks⟩ := (⟨text, origin⟩ : Located).parse_cases
    · exact Or.inl read
    · exact Or.inr ⟨finding, refused, marks.bounds⟩

end Template

end Bracework
