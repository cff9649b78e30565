import Bracework.Proofs.Lexer.BlockCheck
import Bracework.Proofs.Lexer.Tiling

/-!
# Tags behind a template

A tag with two braces that is put behind a template is cut off as itself, whatever the template
ends with, and the pieces of the template stay what they were. An opening brace at the end of the
template cannot join the tag, since the tag with three braces that would begin there has no third
closing brace. The only text that could take part of the tag away begins with a closing brace
behind it.

The findings in the pieces of the template stay what they were too. What is found in a tag
depends on what stands in it and on what has been read before it, and not on the lines of the
template.
-/

namespace Bracework

namespace Piece

/-- A text that may stand between the braces of a tag: at least one character, and no brace. -/
def IsBody (body : Text) : Prop := body ≠ [] ∧ ∀ character ∈ body, isBrace character = false

variable {braces : Nat} {text body rest : Text}

/-- A tag is found at the start of a text exactly when the text is the tag and something more. -/
theorem tagWith?_eq_some_iff (positive : 0 < braces) :
    tagWith? braces text = some (body, rest) ↔
      text = tagSource braces body ++ rest ∧ IsBody body := by
  constructor
  · intro found
    obtain ⟨whole, nonempty⟩ := tagWith?_source found
    refine ⟨whole, nonempty, ?_⟩
    simp only [tagWith?, Option.bind_eq_bind, Option.bind_eq_some_iff] at found
    obtain ⟨inner, -, found⟩ := found
    split at found
    · simp at found
    · obtain ⟨after, -, same⟩ := Option.bind_eq_some_iff.1 found
      cases same
      intro character member
      simpa using List.all_eq_true.1 List.all_takeWhile character member
  · rintro ⟨rfl, nonempty, bare⟩
    obtain ⟨more, rfl⟩ := Nat.exists_eq_succ_of_ne_zero (Nat.ne_of_gt positive)
    have opened : Text.after? (List.replicate (more + 1) '{') (tagSource (more + 1) body ++ rest) =
        some (body ++ (List.replicate (more + 1) '}' ++ rest)) := by
      apply Text.after?_eq_some_iff.2
      simp only [tagSource, List.append_assoc]
    have inside : ∀ character ∈ body, (!isBrace character) = true := by
      intro character member
      simpa using bare character member
    obtain ⟨taken, dropped⟩ := Text.span_append inside
      (show ∀ character ∈ (List.replicate (more + 1) '}' ++ rest).head?,
        (!isBrace character) = false from fun character found => Option.some.inj found ▸ rfl)
    have closed : Text.after? (List.replicate (more + 1) '}')
        (List.replicate (more + 1) '}' ++ rest) = some rest := Text.after?_eq_some_iff.2 rfl
    simp only [tagWith?, opened, Option.bind_eq_bind, Option.bind_some, taken, dropped,
      if_neg nonempty, closed]
    rfl

/-- A text begins with one tag only for each number of braces. -/
theorem tagSource_inj {other more : Text}
    (same : tagSource braces body ++ rest = tagSource braces other ++ more)
    (positive : 0 < braces) (isBody : IsBody body) (isOther : IsBody other) :
    body = other ∧ rest = more := by
  have first : tagWith? braces (tagSource braces body ++ rest) = some (body, rest) :=
    (tagWith?_eq_some_iff positive).2 ⟨rfl, isBody⟩
  have second : tagWith? braces (tagSource braces body ++ rest) = some (other, more) :=
    (tagWith?_eq_some_iff positive).2 ⟨same, isOther⟩
  exact Prod.mk.inj (Option.some.inj (first.symm.trans second))

/-- A tag with three braces is none with two, whose body would begin with the third. -/
theorem tagWith?_two_of_three (body after : Text) :
    tagWith? 2 (tagSource 3 body ++ after) = none := by
  cases two : tagWith? 2 (tagSource 3 body ++ after) with
  | none => rfl
  | some tag =>
    obtain ⟨other, more⟩ := tag
    obtain ⟨whole, isBody⟩ := (tagWith?_eq_some_iff (by decide)).1 two
    obtain ⟨opening, others, rfl⟩ := List.exists_cons_of_ne_nil isBody.1
    obtain ⟨-, once⟩ := List.cons.inj whole
    obtain ⟨-, twice⟩ := List.cons.inj once
    obtain rfl : '{' = opening := (List.cons.inj twice).1
    have brace := isBody.2 _ (List.mem_cons_self ..)
    simp [isBrace] at brace

/-- A tag is found where it begins. -/
theorem tagAt?_begins (size : braces = 2 ∨ braces = 3) (isBody : IsBody body) (after : Text) :
    tagAt? (tagSource braces body ++ after) = some (.tag braces body, after) := by
  have found (positive : 0 < braces) : tagWith? braces (tagSource braces body ++ after) =
      some (body, after) := (tagWith?_eq_some_iff positive).2 ⟨rfl, isBody⟩
  rcases size with rfl | rfl
  · rw [tagAt?, found (by decide)]
  · rw [tagAt?, tagWith?_two_of_three, found (by decide)]
    rfl

/-- No opening brace stands in a body or among the closing braces behind it. -/
theorem IsBody.no_opening (isBody : IsBody body) (count : Nat) :
    '{' ∉ body ++ List.replicate count '}' := by
  intro member
  rcases List.mem_append.1 member with inside | behind
  · have brace := isBody.2 _ inside
    simp [isBrace] at brace
  · simpa using List.eq_of_mem_replicate behind

/-- A body and what follows its tag in a text: anything that begins with no closing brace. -/
structure Follows (inner rest : Text) : Prop where
  isBody : IsBody inner
  separate : rest.head? ≠ some '}'

variable {inner before after : Text}

/-- A tag that begins in a text before another tag ends in that text. -/
theorem Follows.ends_before (follows : Follows inner rest) (size : braces = 2 ∨ braces = 3)
    (isBody : IsBody body) (nonempty : before ≠ [])
    (same : before ++ (tagSource 2 inner ++ rest) = tagSource braces body ++ after) :
    ∃ middle, before = tagSource braces body ++ middle := by
  rcases List.append_eq_append_iff.1 same with ⟨overlap, whole, shared⟩ | ⟨middle, whole, -⟩
  · cases overlap with
    | nil => exact ⟨[], by rw [whole, List.append_nil, List.append_nil]⟩
    | cons first overlap =>
      -- the second tag begins within the first one, so its braces are opening braces of the first
      obtain ⟨rfl, later⟩ : '{' = first ∧ '{' :: (inner ++ ['}', '}'] ++ rest) =
          overlap ++ after := List.cons.inj shared
      have inBraces (front : Text) :
          body ++ List.replicate braces '}' ≠ front ++ '{' :: overlap := by
        intro equal
        apply isBody.no_opening braces
        rw [equal]
        exact List.mem_append_right _ (List.mem_cons_self ..)
      have closing : overlap ≠ body ++ List.replicate braces '}' := by
        rintro rfl
        obtain ⟨first, others, rfl⟩ := List.exists_cons_of_ne_nil isBody.1
        obtain ⟨rfl, -⟩ := List.cons.inj later
        exact isBody.no_opening braces (List.mem_append_left _ (List.mem_cons_self ..))
      obtain ⟨opening, front, rfl⟩ := List.exists_cons_of_ne_nil nonempty
      rcases size with rfl | rfl
      · have tail : '{' :: (body ++ ['}', '}']) = front ++ '{' :: overlap :=
          (List.cons.inj whole).2
        cases front with
        | nil => exact absurd (List.cons.inj tail).2.symm closing
        | cons opening front => exact absurd (List.cons.inj tail).2 (inBraces front)
      · have tail : '{' :: '{' :: (body ++ ['}', '}', '}']) = front ++ '{' :: overlap :=
          (List.cons.inj whole).2
        cases front with
        | cons opening front =>
          have behind : '{' :: (body ++ ['}', '}', '}']) = front ++ '{' :: overlap :=
            (List.cons.inj tail).2
          cases front with
          | nil => exact absurd (List.cons.inj behind).2.symm closing
          | cons opening front => exact absurd (List.cons.inj behind).2 (inBraces front)
        | nil =>
          -- both tags have one body, so the third closing brace of the first follows the second
          have long : tagSource 2 inner ++ rest = tagSource 2 body ++ '}' :: after := by
            rw [shared, ← (List.cons.inj tail).2]
            simp [tagSource]
          obtain ⟨-, rfl⟩ := tagSource_inj long (by decide) follows.isBody isBody
          exact absurd rfl follows.separate
  · exact ⟨middle, whole⟩

/-- No tag that begins in a text takes anything of what stands behind the text. -/
def Apart (text behind : Text) : Prop :=
  ∀ braces body after, (braces = 2 ∨ braces = 3) → IsBody body →
    text ++ behind = tagSource braces body ++ after →
      ∃ middle, text = tagSource braces body ++ middle

/-- What stands apart behind a text does not change which tag is found at the start of the text. -/
theorem Apart.tagWith?_append {behind : Text} (apart : Apart text behind)
    (size : braces = 2 ∨ braces = 3) : tagWith? braces (text ++ behind) =
      (tagWith? braces text).map fun found => (found.1, found.2 ++ behind) := by
  have positive : 0 < braces := by omega
  cases found : tagWith? braces text with
  | some tag =>
    obtain ⟨whole, isBody⟩ := (tagWith?_eq_some_iff positive).1 found
    refine (tagWith?_eq_some_iff positive).2 ⟨?_, isBody⟩
    rw [whole, List.append_assoc]
  | none =>
    cases joined : tagWith? braces (text ++ behind) with
    | none => rfl
    | some tag =>
      obtain ⟨whole, isBody⟩ := (tagWith?_eq_some_iff positive).1 joined
      obtain ⟨middle, ends⟩ := apart braces tag.1 tag.2 size isBody whole
      have alone := (tagWith?_eq_some_iff positive).2 ⟨ends, isBody⟩
      rw [found] at alone
      cases alone

/-- What stands apart behind a text does not change which piece is cut off at the start of the
text. -/
theorem Apart.tagAt?_append {behind : Text} (apart : Apart text behind) : tagAt? (text ++ behind) =
      (tagAt? text).map fun found => (found.1, found.2 ++ behind) := by
  rw [tagAt?, tagAt?, apart.tagWith?_append (Or.inl rfl), apart.tagWith?_append (Or.inr rfl)]
  cases tagWith? 2 text with
  | some two => rfl
  | none =>
    cases tagWith? 3 text with
    | some three => rfl
    | none => rfl

/-- Where a tag is found, the content before it and the tag are cut off. -/
theorem cutFrom_found {taken : Text} {first : Char} {piece : Piece}
    (found : tagAt? (first :: text) = some (piece, rest)) :
    cutFrom taken (first :: text) = contentOf taken ++ piece :: cutFrom [] rest := by
  rw [cutFrom]
  split
  · rename_i other more same
    obtain ⟨rfl, rfl⟩ := Prod.mk.inj (Option.some.inj (found.symm.trans same))
    rfl
  · rename_i missing
    rw [found] at missing
    cases missing

/-- Where no tag is found, one character is taken as content. -/
theorem cutFrom_missing {taken : Text} {first : Char} (missing : tagAt? (first :: text) = none) :
    cutFrom taken (first :: text) = cutFrom (first :: taken) text := by
  rw [cutFrom]
  split
  · rename_i other more same
    rw [missing] at same
    cases same
  · rfl

/-- A tag behind a text from whose ends it stands apart is cut off as itself, and does not change the
pieces of the text. -/
theorem cutFrom_apart {behind : Text} {piece : Piece} (begins : tagAt? behind = some (piece, rest))
    (taken text : Text) (apart : ∀ ending, ending ≠ [] → ending <:+ text → Apart ending behind) :
    cutFrom taken (text ++ behind) = cutFrom taken text ++ piece :: cutFrom [] rest := by
  fun_induction cutFrom taken text with
  | case1 taken =>
    cases behind with
    | nil => simp [tagAt?, tagWith?, Text.after?] at begins
    | cons first behind => exact cutFrom_found begins
  | case2 taken first text tag after found induction =>
    have joined := (apart _ (List.cons_ne_nil _ _) List.suffix_rfl).tagAt?_append
    rw [found, List.cons_append] at joined
    have later : after <:+ first :: text := ⟨tag.source, (tagAt?_source found).1.symm⟩
    rw [List.cons_append, cutFrom_found joined,
      induction fun ending nonempty ends => apart ending nonempty (ends.trans later),
      List.append_assoc]
    rfl
  | case3 taken first text missing induction =>
    have joined := (apart _ (List.cons_ne_nil _ _) List.suffix_rfl).tagAt?_append
    rw [missing, List.cons_append] at joined
    have later : text <:+ first :: text := List.suffix_cons first text
    rw [List.cons_append, cutFrom_missing joined,
      induction fun ending nonempty ends => apart ending nonempty (ends.trans later)]

/-- A tag behind a text is cut off as itself, and does not change the pieces of the text. -/
theorem Follows.cutFrom_append (follows : Follows inner rest) (taken text : Text) :
    cutFrom taken (text ++ (tagSource 2 inner ++ rest)) =
      cutFrom taken text ++ .tag 2 inner :: cutFrom [] rest := by
  exact cutFrom_apart (tagAt?_begins (Or.inl rfl) follows.isBody rest) taken text
    fun ending nonempty _ braces body after size isBody same =>
      follows.ends_before size isBody nonempty same

/-- Tags with two braces that are put behind a template are cut off as themselves, and the pieces
of the template stay what they were. -/
theorem cut_append (template : Text) (bodies : List Text)
    (areBodies : ∀ body ∈ bodies, IsBody body) :
    cut (template ++ bodies.flatMap (tagSource 2)) = cut template ++ bodies.map (.tag 2) := by
  have behind : ∀ bodies : List Text, (bodies.flatMap (tagSource 2)).head? ≠ some '}' := by
    intro bodies
    cases bodies <;> simp [tagSource, List.replicate_succ]
  have closing (taken text : Text) : cutFrom taken (text ++ bodies.flatMap (tagSource 2)) =
      cutFrom taken text ++ bodies.map (.tag 2) := by
    induction bodies generalizing taken text with
    | nil => simp
    | cons body rest induction =>
      have follows : Follows body (rest.flatMap (tagSource 2)) :=
        ⟨areBodies body (List.mem_cons_self ..), behind rest⟩
      have later := induction (fun other member => areBodies other (List.mem_cons_of_mem _ member))
        [] []
      rw [List.flatMap_cons, follows.cutFrom_append, ← List.nil_append (List.flatMap _ rest), later]
      simp [cutFrom, contentOf]
  exact closing [] template

/-- A tag at the start of a text has two or three braces, and a body that may stand between them. -/
theorem tagAt?_shape (found : tagAt? text = some (.tag braces body, rest)) :
    (braces = 2 ∨ braces = 3) ∧ IsBody body := by
  unfold tagAt? at found
  split at found
  · rename_i two
    cases found
    exact ⟨Or.inl rfl, ((tagWith?_eq_some_iff (by decide)).1 two).2⟩
  · obtain ⟨three, tagged, same⟩ := Option.map_eq_some_iff.1 found
    cases same
    exact ⟨Or.inr rfl, ((tagWith?_eq_some_iff (by decide)).1 tagged).2⟩

/-- Each tag of a text has two or three braces, and a body that may stand between them. -/
theorem cutFrom_shape (taken text : Text) : ∀ braces body,
    .tag braces body ∈ cutFrom taken text → (braces = 2 ∨ braces = 3) ∧ IsBody body := by
  have contents (taken : Text) : ∀ braces body, .tag braces body ∉ contentOf taken := by
    intro braces body
    unfold contentOf
    split <;> simp
  fun_induction cutFrom taken text with
  | case1 taken => exact fun braces body member => absurd member (contents taken braces body)
  | case2 taken first text piece after found induction =>
    intro braces body member
    rcases List.mem_append.1 member with content | tag
    · exact absurd content (contents taken braces body)
    · rcases List.mem_cons.1 tag with rfl | later
      · exact tagAt?_shape found
      · exact induction braces body later
  | case3 taken first text missing induction => exact induction

/-- The offsets of pieces behind others begin where the others end. -/
theorem withOffsets_append (first second : List Piece) (offset : Nat) :
    withOffsets offset (first ++ second) = withOffsets offset first ++
      withOffsets (offset + Text.byteLength (first.flatMap source)) second := by
  induction first generalizing offset with
  | nil => rfl
  | cons piece rest induction =>
    rw [List.cons_append, withOffsets, withOffsets, induction, List.flatMap_cons,
      Text.byteLength_append, Nat.add_assoc]
    rfl

end Piece

/-! ### What is found does not depend on lines -/

/-- The readings of pieces behind others go on in the surroundings that the others leave. -/
theorem readPieces_append (options : Options) (lines : LineTable)
    (first second : List (Nat × Piece)) (surroundings : Surroundings) :
    readPieces options lines surroundings (first ++ second) =
      ((readPieces options lines surroundings first).1 ++ (readPieces options lines
          (readPieces options lines surroundings first).2 second).1,
        (readPieces options lines (readPieces options lines surroundings first).2 second).2) := by
  induction first generalizing surroundings with
  | nil => rfl
  | cons place rest induction =>
    obtain ⟨start, piece⟩ := place
    cases piece with
    | content text => simp only [List.cons_append, readPieces, induction]
    | tag braces body => simp only [List.cons_append, readPieces, induction]

namespace Reading

/-- Two readings agree when they find the same, leave the same blocks open and give tokens of the
same kinds. -/
structure Agrees (left right : Reading) : Prop where
  kinds : left.tokens.map Token.kind = right.tokens.map Token.kind
  findings : left.findings = right.findings
  blocks : left.blocks = right.blocks

end Reading

namespace Tag

variable {lines other : LineTable} {start braces : Nat} {body : Text} {blocks : OpenBlocks}

/-- The line of a tag does not matter to what a block with a keyword opens and what is found in
it. -/
theorem readBlock_agrees (kind : ScopeKind) :
    ((tagAt lines start braces body).readBlock lines kind blocks).Agrees
      ((tagAt other start braces body).readBlock other kind blocks) := by
  have payload : (tagAt other start braces body).payload =
    (tagAt lines start braces body).payload := rfl
  unfold readBlock
  rw [payload]
  dsimp only
  split
  · exact ⟨rfl, rfl, rfl⟩
  · split
    · exact ⟨rfl, rfl, rfl⟩
    · split
      · exact ⟨rfl, rfl, rfl⟩
      · exact ⟨rfl, rfl, rfl⟩

/-- The line of a tag does not matter to what a block of a path opens and what is found in it. -/
theorem readPathBlock_agrees (kind : ScopeKind) :
    ((tagAt lines start braces body).readPathBlock lines kind blocks).Agrees
      ((tagAt other start braces body).readPathBlock other kind blocks) := by
  have afterSigil : (tagAt other start braces body).afterSigil =
    (tagAt lines start braces body).afterSigil := rfl
  unfold readPathBlock
  rw [afterSigil]
  dsimp only
  split
  · exact ⟨rfl, rfl, rfl⟩
  · exact ⟨rfl, rfl, rfl⟩

/-- The line of a tag does not matter to what is found in a binding. -/
theorem readAssignment_agrees (durable : Bool) :
    ((tagAt lines start braces body).readAssignment durable blocks).Agrees
      ((tagAt other start braces body).readAssignment durable blocks) := by
  have payload : (tagAt other start braces body).payload =
    (tagAt lines start braces body).payload := rfl
  unfold readAssignment
  rw [payload]
  split
  · exact ⟨rfl, rfl, rfl⟩
  · exact ⟨rfl, rfl, rfl⟩

/-- A tag is read alike in two templates in which it stands at the same offset, on whatever
line. -/
theorem readTag_agrees (surroundings : Surroundings) :
    (Progress.readTag Options.standard lines (tagAt lines start braces body) surroundings).Agrees
      (Progress.readTag Options.standard other (tagAt other start braces body) surroundings) := by
  rw [readTag_standard, readTag_standard]
  have form : TagForm.ofTag (tagAt other start braces body) =
    TagForm.ofTag (tagAt lines start braces body) := rfl
  rw [form]
  cases TagForm.ofTag (tagAt lines start braces body) with
  | keyword keyword =>
    cases keyword with
    | block kind => exact readBlock_agrees kind
    | assignment durable => exact readAssignment_agrees durable
    | _ => exact ⟨rfl, rfl, rfl⟩
  | invertedBlock => exact readPathBlock_agrees _
  | pathBlock => exact readPathBlock_agrees _
  | _ => exact ⟨rfl, rfl, rfl⟩

end Tag

/-- A token of a kind closes an if block whatever else it holds. -/
theorem foldl_closesIf_agrees {left right : List Token}
    (kinds : left.map Token.kind = right.map Token.kind) (before : Bool) :
    left.foldl Progress.closesIf before = right.foldl Progress.closesIf before := by
  have byKind (tokens : List Token) : tokens.foldl Progress.closesIf before =
      (tokens.map Token.kind).foldl (fun closed kind => Progress.closesIf closed
        (Token.plain kind [] [] ⟨0, 0⟩ ⟨0, 0⟩)) before := by
    rw [List.foldl_map]
    rfl
  rw [byKind, byKind, kinds]

/-- Pieces are read alike with different lines: the same is found in them, and they leave the
same surroundings. -/
theorem readPieces_agrees (lines other : LineTable) (places : List (Nat × Piece))
    (surroundings : Surroundings) :
    (readPieces Options.standard lines surroundings places).1.map Reading.findings =
        (readPieces Options.standard other surroundings places).1.map Reading.findings ∧
      (readPieces Options.standard lines surroundings places).2 =
        (readPieces Options.standard other surroundings places).2 := by
  induction places generalizing surroundings with
  | nil => exact ⟨rfl, rfl⟩
  | cons place rest induction =>
    obtain ⟨start, piece⟩ := place
    cases piece with
    | content text =>
      obtain ⟨findings, last⟩ := induction surroundings
      exact ⟨congrArg (List.cons []) findings, last⟩
    | tag braces body =>
      let tag := tagAt lines start braces body
      let reading := Progress.readTag Options.standard lines tag surroundings
      let counterpart := Progress.readTag Options.standard other
        (tagAt other start braces body) surroundings
      have agrees : reading.Agrees counterpart := Tag.readTag_agrees surroundings
      have after : surroundings.after tag reading =
          surroundings.after (tagAt other start braces body) counterpart := by
        simp only [Surroundings.after, agrees.blocks, foldl_closesIf_agrees agrees.kinds]
        rfl
      obtain ⟨findings, last⟩ := induction (surroundings.after tag reading)
      have later : (readPieces Options.standard other (surroundings.after tag reading) rest) =
          readPieces Options.standard other
            (surroundings.after (tagAt other start braces body) counterpart) rest := by
        rw [after]
      rw [later] at findings last
      exact ⟨List.cons_eq_cons.2 ⟨agrees.findings, findings⟩, last⟩

/-- The events of a piece are the same with different lines. -/
theorem pieceEvents_eq (lines other : LineTable) : pieceEvents lines = pieceEvents other := by
  funext place
  obtain ⟨start, piece⟩ := place
  cases piece <;> rfl

/-! ### Templates -/

/-- Tags with two braces at their offsets, the first of them at `offset`. -/
def tagPlaces (offset : Nat) (bodies : List Text) : List (Nat × Piece) :=
  Piece.withOffsets offset (bodies.map (.tag 2))

namespace Template

/-- With tags put behind it, a template has its own events and then those of the tags. What is
found in its own tags is found in them still, and then what is found in the others, which are read
where the template ends. -/
theorem appended (template : Text) (bodies : List Text)
    (areBodies : ∀ body ∈ bodies, Piece.IsBody body) :
    let whole := template ++ bodies.flatMap (tagSource 2)
    let lines := LineTable.ofSource whole
    let places := tagPlaces template.byteLength bodies
    blockEvents whole = blockEvents template ++ places.flatMap (pieceEvents lines) ∧
      tagFindings whole = tagFindings template ++
        (readPieces Options.standard lines (readings Options.standard template).2
          places).1.flatMap Reading.findings := by
  intro whole lines places
  have cut : Piece.withOffsets 0 (Piece.cut whole) =
      Piece.withOffsets 0 (Piece.cut template) ++ places := by
    rw [Piece.cut_append template bodies areBodies, Piece.withOffsets_append, Piece.cut_source,
      Nat.zero_add]
    rfl
  constructor
  · rw [blockEvents, cut, List.flatMap_append, blockEvents,
      pieceEvents_eq (LineTable.ofSource template) lines]
  · obtain ⟨same, last⟩ := readPieces_agrees (LineTable.ofSource template) lines
      (Piece.withOffsets 0 (Piece.cut template))
      ⟨OpenBlocks.empty, Options.standard.partials, false⟩
    have flat (readings : List Reading) : readings.flatMap Reading.findings =
        (readings.map Reading.findings).flatten := List.flatMap_def
    rw [tagFindings, readings, cut, readPieces_append, List.flatMap_append, tagFindings, readings,
      flat, flat (readPieces _ (LineTable.ofSource template) _ _).1, same, last]

end Template

end Bracework
