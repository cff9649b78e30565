import Bracework.Proofs.Lexer.Places
import Bracework.Proofs.Text.Bytes

/-!
# The leftmost tags

A range of bytes is a tag when it is two or three opening braces, at least one byte that is no brace,
and as many closing braces. Tags of a template may overlap: one with three braces has another with
two inside. The spans found in a template are those of the leftmost tags: they are disjoint and in
increasing order, and every other tag begins inside one of them.

No other list of tags is like that. Two tags never begin at one place, so of two such lists the
first spans begin together and are the same, and behind them the same holds of the rest.

The scan goes through characters, and tags are ranges of bytes. Braces are characters of ASCII, so
the bytes of a tag are those of characters, and a tag never begins or ends inside a character.
-/

namespace Bracework

namespace TagSpan

/-- A span is that of a tag when its bytes are opening braces, a body without a brace that is not
empty, and as many closing braces; the braces are two or three on either side. -/
structure IsTag (template : Text) (span : TagSpan) : Prop where
  size : span.braces = 2 ∨ span.braces = 3
  bytes : ∃ before body after,
    template.bytes = before ++ List.replicate span.braces '{'.toUInt8 ++ body ++
      List.replicate span.braces '}'.toUInt8 ++ after ∧
    body ≠ [] ∧ '{'.toUInt8 ∉ body ∧ '}'.toUInt8 ∉ body ∧
    span.start = before.length ∧
    span.stop = before.length + span.braces + body.length + span.braces

/-- Spans are the leftmost tags from an offset on when they are tags behind the offset, each ends
before the next begins, and every tag behind the offset begins inside one of them. -/
structure Leftmost (template : Text) (offset : Nat) (spans : List TagSpan) : Prop where
  tags : ∀ span ∈ spans, span.IsTag template ∧ offset ≤ span.start
  ascending : spans.Pairwise fun left right => left.stop ≤ right.start
  complete : ∀ tag : TagSpan, tag.IsTag template → offset ≤ tag.start →
    ∃ span ∈ spans, span.start ≤ tag.start ∧ tag.start < span.stop

/-! ### Tags as characters -/

variable {template : Text} {span : TagSpan}

/-- A body without a brace has bytes without a brace, and the other way round. -/
theorem isBody_iff {body : Text} : Piece.IsBody body ↔
    body.bytes ≠ [] ∧ '{'.toUInt8 ∉ body.bytes ∧ '}'.toUInt8 ∉ body.bytes := by
  have empty : body = [] ↔ body.bytes = [] := by
    cases body with
    | nil => simp
    | cons first rest => simp [String.utf8EncodeChar_ne_nil]
  have bare : (∀ character ∈ body, isBrace character = false) ↔ '{' ∉ body ∧ '}' ∉ body := by
    constructor
    · intro bare
      constructor
      · intro member
        exact absurd (bare _ member) (by decide)
      · intro member
        exact absurd (bare _ member) (by decide)
    · rintro ⟨opening, closing⟩ character member
      have notOpening : character ≠ '{' := fun same => opening (same ▸ member)
      have notClosing : character ≠ '}' := fun same => closing (same ▸ member)
      simp [isBrace, notOpening, notClosing]
  rw [Text.mem_bytes_iff (by decide), Text.mem_bytes_iff (by decide), Piece.IsBody, bare, Ne, Ne,
    empty]

/-- The bytes of a tag. -/
theorem bytes_tagSource (braces : Nat) (body : Text) : (tagSource braces body).bytes =
    List.replicate braces '{'.toUInt8 ++ body.bytes ++ List.replicate braces '}'.toUInt8 := by
  rw [tagSource, Text.bytes_append, Text.bytes_append, Text.bytes_replicate (by decide),
    Text.bytes_replicate (by decide)]

/-- The braces of a tag are one byte each. -/
theorem byteLength_tagSource (braces : Nat) (body : Text) :
    Text.byteLength (tagSource braces body) = braces + body.byteLength + braces := by
  rw [← Text.length_bytes, bytes_tagSource, List.length_append, List.length_append,
    List.length_replicate, List.length_replicate, Text.length_bytes]

/-- Bytes of a template that are those of a tag are cut out as the characters of a tag. -/
theorem cut_of_bytes {braces : Nat} (positive : 0 < braces) {before body after : List UInt8}
    (whole : template.bytes = before ++ List.replicate braces '{'.toUInt8 ++ body ++
      List.replicate braces '}'.toUInt8 ++ after) :
    ∃ front inner back : Text, template = front ++ (tagSource braces inner ++ back) ∧
      front.bytes = before ∧ inner.bytes = body := by
  obtain ⟨count, rfl⟩ := Nat.exists_eq_succ_of_ne_zero (Nat.ne_of_gt positive)
  have opening : template.bytes = before ++ '{'.toUInt8 :: (List.replicate count '{'.toUInt8 ++
      (body ++ '}'.toUInt8 :: (List.replicate count '}'.toUInt8 ++ after))) := by
    rw [whole]
    simp only [List.replicate_succ, List.append_assoc, List.cons_append]
  obtain ⟨front, behind, rfl, frontBytes, behindBytes⟩ := Text.cut_at_byte (by decide) opening
  obtain ⟨inside, rfl, insideBytes⟩ := Text.cut_leading (by decide) count behindBytes
  obtain ⟨inner, closing, rfl, innerBytes, closingBytes⟩ :=
    Text.cut_at_byte (by decide) insideBytes
  obtain ⟨back, rfl, -⟩ := Text.cut_leading (by decide) count closingBytes
  refine ⟨front, inner, back, ?_, frontBytes, innerBytes⟩
  simp only [tagSource, List.replicate_succ, List.append_assoc, List.cons_append]

/-- The characters of a tag stand at a place of a template. -/
structure Stands (template before : Text) (braces : Nat) (body after : Text) : Prop where
  whole : template = before ++ (tagSource braces body ++ after)
  size : braces = 2 ∨ braces = 3
  isBody : Piece.IsBody body

/-- A span is that of a tag exactly when the characters of a tag stand there. -/
theorem isTag_iff : span.IsTag template ↔ ∃ before braces body after,
    Stands template before braces body after ∧ span = ofTag before.byteLength braces body := by
  constructor
  · rintro ⟨size, before, body, after, whole, nonempty, opening, closing, start, stop⟩
    obtain ⟨front, inner, back, rfl, rfl, rfl⟩ := cut_of_bytes (by omega) whole
    refine ⟨front, span.braces, inner, back,
      ⟨rfl, size, isBody_iff.2 ⟨nonempty, opening, closing⟩⟩, ?_⟩
    obtain ⟨first, last, braces⟩ := span
    simp only [Text.length_bytes] at start stop
    simp only [ofTag, mk.injEq, byteLength_tagSource, and_true]
    omega
  · rintro ⟨before, braces, body, after, ⟨rfl, size, isBody⟩, rfl⟩
    obtain ⟨nonempty, opening, closing⟩ := isBody_iff.1 isBody
    refine ⟨size, before.bytes, body.bytes, after.bytes, ?_, nonempty, opening, closing, ?_, ?_⟩
    · rw [Text.bytes_append, Text.bytes_append, bytes_tagSource]
      simp only [ofTag, List.append_assoc]
    · rw [Text.length_bytes]
      rfl
    · simp only [Text.length_bytes, ofTag, byteLength_tagSource]
      omega

/-- A tag begins before it ends, and ends in the template. -/
theorem IsTag.bounds (tag : span.IsTag template) :
    span.start < span.stop ∧ span.stop ≤ template.byteLength := by
  obtain ⟨size, before, body, after, whole, -, -, -, start, stop⟩ := tag
  have length := congrArg List.length whole
  simp only [Text.length_bytes, List.length_append, List.length_replicate] at length
  omega

/-- A tag and its body begin and end between characters. -/
theorem IsTag.boundaries (tag : span.IsTag template) :
    template.IsBoundary span.start ∧ template.IsBoundary span.stop ∧
      template.IsBoundary span.bodyBounds.1 ∧ template.IsBoundary span.bodyBounds.2 := by
  obtain ⟨before, braces, body, after, ⟨whole, -, -⟩, rfl⟩ := isTag_iff.1 tag
  let opening := List.replicate braces '{'
  let closing := List.replicate braces '}'
  have wide : Text.byteLength opening = braces := Text.byteLength_replicate rfl braces
  refine ⟨⟨before, tagSource braces body ++ after, whole, rfl⟩,
    ⟨before ++ tagSource braces body, after, ?_, ?_⟩,
    ⟨before ++ opening, body ++ closing ++ after, ?_, ?_⟩,
    ⟨before ++ opening ++ body, closing ++ after, ?_, ?_⟩⟩
  · rw [whole, List.append_assoc]
  · rw [Text.byteLength_append]
    rfl
  · rw [whole]
    simp only [tagSource, opening, closing, List.append_assoc]
  · rw [Text.byteLength_append, wide]
    rfl
  · rw [whole]
    simp only [tagSource, opening, closing, List.append_assoc]
  · simp only [bodyBounds, ofTag, Text.byteLength_append, byteLength_tagSource, wide]
    omega

/-- No two tags begin at one place. -/
theorem IsTag.eq_of_start {other : TagSpan} (tag : span.IsTag template)
    (second : other.IsTag template) (same : span.start = other.start) : span = other := by
  obtain ⟨before, braces, body, after, ⟨whole, size, isBody⟩, rfl⟩ := isTag_iff.1 tag
  obtain ⟨front, count, inner, back, ⟨again, otherSize, isInner⟩, rfl⟩ := isTag_iff.1 second
  obtain ⟨rfl, behind⟩ := Text.append_inj_byteLength (whole.symm.trans again) same
  have found := Piece.tagAt?_begins size isBody after
  rw [behind, Piece.tagAt?_begins otherSize isInner back] at found
  obtain ⟨rfl, rfl⟩ := Piece.tag.inj (Prod.mk.inj (Option.some.inj found)).1
  rfl

/-! ### One list at most -/

namespace Leftmost

variable {offset : Nat} {first : TagSpan} {spans rest : List TagSpan}

/-- Every tag behind the offset begins no earlier than the first of the leftmost tags. -/
theorem first_le (leftmost : Leftmost template offset (first :: rest)) {tag : TagSpan}
    (isTag : tag.IsTag template) (behind : offset ≤ tag.start) : first.start ≤ tag.start := by
  obtain ⟨span, listed, begins, -⟩ := leftmost.complete tag isTag behind
  rcases List.mem_cons.1 listed with rfl | later
  · exact begins
  · have apart := (List.pairwise_cons.1 leftmost.ascending).1 span later
    have bounds := (leftmost.tags first (List.mem_cons_self ..)).1.bounds
    omega

/-- Behind the first of the leftmost tags, the others are the leftmost. -/
theorem tail (leftmost : Leftmost template offset (first :: rest)) :
    Leftmost template first.stop rest := by
  obtain ⟨apart, ascending⟩ := List.pairwise_cons.1 leftmost.ascending
  obtain ⟨⟨isFirst, behind⟩, tags⟩ := List.forall_mem_cons.1 leftmost.tags
  refine ⟨fun span later => ⟨(tags span later).1, apart span later⟩, ascending, ?_⟩
  intro tag isTag later
  have bounds := isFirst.bounds
  obtain ⟨span, listed, begins, ends⟩ := leftmost.complete tag isTag (by omega)
  rcases List.mem_cons.1 listed with rfl | inRest
  · omega
  · exact ⟨span, inRest, begins, ends⟩

/-- The leftmost tags from an offset on are one list only. -/
theorem unique {others : List TagSpan} (leftmost : Leftmost template offset spans)
    (again : Leftmost template offset others) : spans = others := by
  induction spans generalizing offset others with
  | nil =>
    cases others with
    | nil => rfl
    | cons other others =>
      obtain ⟨isTag, behind⟩ := again.tags other (List.mem_cons_self ..)
      obtain ⟨span, listed, -⟩ := leftmost.complete other isTag behind
      exact absurd listed List.not_mem_nil
  | cons first rest induction =>
    obtain ⟨isTag, behind⟩ := leftmost.tags first (List.mem_cons_self ..)
    cases others with
    | nil =>
      obtain ⟨span, listed, -⟩ := again.complete first isTag behind
      exact absurd listed List.not_mem_nil
    | cons other others =>
      obtain ⟨isOther, otherBehind⟩ := again.tags other (List.mem_cons_self ..)
      have together : first.start = other.start :=
        Nat.le_antisymm (leftmost.first_le isOther otherBehind) (again.first_le isTag behind)
      obtain rfl := isTag.eq_of_start isOther together
      rw [induction leftmost.tail again.tail]

/-! ### The spans of a template -/

/-- Behind the end of a template no tag begins. -/
theorem nil_of_end : Leftmost template template.byteLength [] := by
  refine ⟨by simp, .nil, ?_⟩
  intro tag isTag behind
  have bounds := isTag.bounds
  omega

/-- A tag at the offset stands before the leftmost tags behind it. -/
theorem cons (isTag : first.IsTag template) (rest : Leftmost template first.stop spans) :
    Leftmost template first.start (first :: spans) := by
  have bounds := isTag.bounds
  refine ⟨List.forall_mem_cons.2 ⟨⟨isTag, Nat.le_refl _⟩, ?_⟩,
    List.pairwise_cons.2 ⟨fun span later => (rest.tags span later).2, rest.ascending⟩, ?_⟩
  · intro span later
    obtain ⟨isSpan, behind⟩ := rest.tags span later
    exact ⟨isSpan, by omega⟩
  · intro tag isOther behind
    by_cases inside : tag.start < first.stop
    · exact ⟨first, List.mem_cons_self .., behind, inside⟩
    · obtain ⟨span, listed, place⟩ := rest.complete tag isOther (Nat.le_of_not_lt inside)
      exact ⟨span, List.mem_cons_of_mem _ listed, place⟩

/-- Where no tag begins, the leftmost tags are those from the next character on. -/
theorem skip {before text : Text} {next : Char} (whole : template = before ++ next :: text)
    (missing : Piece.tagAt? (next :: text) = none)
    (behind : Leftmost template (Text.byteLength (before ++ [next])) spans) :
    Leftmost template (Text.byteLength before) spans := by
  have wider : Text.byteLength (before ++ [next]) = before.byteLength + next.utf8Size := by
    rw [Text.byteLength_append]
    rfl
  refine ⟨?_, behind.ascending, ?_⟩
  · intro span listed
    obtain ⟨isSpan, later⟩ := behind.tags span listed
    exact ⟨isSpan, by omega⟩
  · intro tag isTag later
    apply behind.complete tag isTag
    obtain ⟨front, braces, body, after, ⟨again, size, isBody⟩, rfl⟩ := isTag_iff.1 isTag
    obtain ⟨middle, rfl, rest⟩ := Text.append_of_byteLength_le (whole.symm.trans again) later
    cases middle with
    | nil =>
      -- the tag would begin at the next character
      rw [rest, List.nil_append, Piece.tagAt?_begins size isBody] at missing
      cases missing
    | cons first middle =>
      obtain ⟨rfl, -⟩ := List.cons.inj rest
      have start : (ofTag (Text.byteLength (before ++ next :: middle)) braces body).start =
          before.byteLength + (next.utf8Size + Text.byteLength middle) :=
        Text.byteLength_append before (next :: middle)
      omega

/-- Content has no span. -/
theorem spans_content (offset : Nat) (taken : Text) :
    (Piece.withOffsets offset (Piece.contentOf taken)).filterMap ofPiece? = [] := by
  unfold Piece.contentOf
  split
  · rfl
  · rfl

/-- The spans found from a text on are the leftmost tags behind what stands before the text, where
the content taken last belongs to what stands before. -/
theorem cutFrom (taken text before : Text) (whole : template = before ++ taken.reverse ++ text) :
    Leftmost template (Text.byteLength (before ++ taken.reverse))
      ((Piece.withOffsets before.byteLength (Piece.cutFrom taken text)).filterMap ofPiece?) := by
  fun_induction Piece.cutFrom taken text generalizing before with
  | case1 taken =>
    rw [spans_content, ← List.append_nil (before ++ taken.reverse), ← whole]
    exact nil_of_end
  | case2 taken first text piece after found induction =>
    have source := (Piece.tagAt?_source found).1
    cases piece with
    | content content => exact absurd rfl ((Piece.tagAt?_tag found).2 content)
    | tag braces body =>
      obtain ⟨size, isBody⟩ := Piece.tagAt?_shape found
      let front := before ++ taken.reverse
      have cut : template = front ++ (tagSource braces body ++ after) := by
        rw [whole, source]
        rfl
      have isTag : (ofTag front.byteLength braces body).IsTag template :=
        isTag_iff.2 ⟨front, braces, body, after, ⟨cut, size, isBody⟩, rfl⟩
      have further : template = front ++ tagSource braces body ++ [].reverse ++ after := by
        rw [cut, List.reverse_nil, List.append_nil]
        exact (List.append_assoc ..).symm
      have behind := induction (front ++ tagSource braces body) further
      rw [List.reverse_nil, List.append_nil, Text.byteLength_append] at behind
      have spans : (Piece.withOffsets before.byteLength (Piece.contentOf taken ++
          .tag braces body :: Piece.cutFrom [] after)).filterMap ofPiece? =
          ofTag front.byteLength braces body :: (Piece.withOffsets
            (front.byteLength + Text.byteLength (tagSource braces body))
            (Piece.cutFrom [] after)).filterMap ofPiece? := by
        rw [Piece.withOffsets_append, List.filterMap_append, spans_content, Piece.contentOf_source,
          ← Text.byteLength_append]
        rfl
      rw [spans]
      exact cons isTag behind
  | case3 taken first text missing induction =>
    have further : template = before ++ (first :: taken).reverse ++ text := by
      rw [whole, List.reverse_cons]
      simp only [List.append_assoc, List.cons_append, List.nil_append]
    have behind := induction before further
    rw [List.reverse_cons, ← List.append_assoc] at behind
    exact skip whole missing behind

end Leftmost

/-- The spans of a template are its leftmost tags, and no other list of tags is disjoint, in
increasing order and without a tag that begins outside of it. The spans and the bodies in them begin
and end between characters.

Proof: the scan finds no tag where none begins, and goes on behind each tag it finds. Two lists of
leftmost tags have the same first tag, since each begins no later than the other. -/
theorem all_leftmost (template : Text) :
    (∀ spans, Leftmost template 0 spans ↔ spans = all template) ∧
      ∀ span ∈ all template, template.IsBoundary span.start ∧ template.IsBoundary span.stop ∧
        template.IsBoundary span.bodyBounds.1 ∧ template.IsBoundary span.bodyBounds.2 := by
  have leftmost : Leftmost template 0 (all template) := Leftmost.cutFrom [] template [] rfl
  constructor
  · intro spans
    constructor
    · intro other
      exact other.unique leftmost
    · rintro rfl
      exact leftmost
  · intro span listed
    exact (leftmost.tags span listed).1.boundaries

/-- Of four opening braces the first is left out, and a tag with three begins behind it. The tag with
two braces that begins later is inside. -/
theorem all_leftmost_four_braces :
    let template : Text := "\x7b" ++ tagSource 3 "é"
    all template = [⟨1, 9, 3⟩] ∧ Leftmost template 0 [⟨1, 9, 3⟩] ∧
      template.IsBoundary 4 ∧ template.IsBoundary 6 := by
  intro template
  have spans : all template = [⟨1, 9, 3⟩] := by
    decide +kernel
  obtain ⟨leftmost, boundaries⟩ := all_leftmost template
  obtain ⟨-, -, opens, closes⟩ := boundaries ⟨1, 9, 3⟩ (by rw [spans]; exact List.mem_singleton_self _)
  exact ⟨spans, (leftmost _).2 spans.symm, opens, closes⟩

end TagSpan

end Bracework
