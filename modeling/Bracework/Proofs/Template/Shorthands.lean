import Bracework.Proofs.Lexer.LetterCase
import Bracework.Proofs.Lexer.Places
import Bracework.Proofs.Template.Concatenation

/-!
# Shorthands

Two forms of tags are short for others. A tag that goes over to the other case closes an if block
and opens the block for its other case, as two tags would. A value between three braces is a value
written with `&` between two.

Written out, the tags behind stand at other offsets and perhaps on other lines, and there is one
token text more or less. None of this matters to what is found, to the blocks that are open, or to
the document. So a template and the template with a shorthand written out have the same document, or
neither has one.
-/

namespace Bracework

/-! ### Pieces -/

namespace Piece

variable {braces : Nat} {before body after behind : Text}

/-- What begins with an opening brace stands apart behind a text that does not end with one. -/
theorem apart_of_bare (bare : before.getLast? ≠ some '{') (nonempty : before ≠ []) :
    Apart before ('{' :: behind) := by
  intro braces body after _ isBody same
  rcases List.append_eq_append_iff.1 same with ⟨overlap, whole, shared⟩ | ⟨middle, whole, -⟩
  · cases overlap with
    | nil => exact ⟨[], by rw [whole, List.append_nil, List.append_nil]⟩
    | cons first overlap =>
      obtain ⟨rfl, -⟩ := List.cons.inj shared
      -- the tag goes on behind the text with an opening brace, which is not in its body
      rw [tagSource, List.append_assoc] at whole
      rcases List.append_eq_append_iff.1 whole with ⟨inside, -, rest⟩ | ⟨inside, opening, -⟩
      · refine absurd ?_ (isBody.no_opening braces)
        rw [rest]
        exact List.mem_append_right _ (List.mem_cons_self ..)
      · refine absurd ?_ bare
        have last : before.getLast nonempty ∈ List.replicate braces '{' := by
          rw [opening]
          exact List.mem_append_left _ (List.getLast_mem nonempty)
        rw [List.getLast?_eq_some_getLast nonempty, List.eq_of_mem_replicate last]
  · exact ⟨middle, whole⟩

/-- A tag at the beginning of a text is cut off first. -/
theorem cut_begins (size : braces = 2 ∨ braces = 3) (isBody : IsBody body) (after : Text) :
    cut (tagSource braces body ++ after) = .tag braces body :: cut after := by
  have found := tagAt?_begins size isBody after
  rcases size with rfl | rfl <;> exact cutFrom_found found

/-- A tag behind a text that does not end with an opening brace is cut off as itself, and leaves the
pieces around it as they are. -/
theorem cut_around (size : braces = 2 ∨ braces = 3) (isBody : IsBody body)
    (bare : before.getLast? ≠ some '{') (after : Text) :
    cut (before ++ (tagSource braces body ++ after)) = cut before ++ .tag braces body :: cut after := by
  obtain ⟨behind, opens⟩ : ∃ behind, tagSource braces body ++ after = '{' :: behind := by
    rcases size with rfl | rfl <;> exact ⟨_, rfl⟩
  refine cutFrom_apart (tagAt?_begins size isBody after) [] before fun ending nonempty ends => ?_
  rw [opens]
  refine apart_of_bare (fun last => bare ?_) nonempty
  obtain ⟨front, rfl⟩ := ends
  rw [List.getLast?_append_of_ne_nil _ nonempty, last]

end Piece

/-! ### Reading -/

/-- Surroundings that allow the same. -/
structure Surroundings.Matches (surroundings model : Surroundings) : Prop where
  here : surroundings.Allows model
  there : model.Allows surroundings

/-- Surroundings still allow the same where no partial has been added. -/
theorem Surroundings.Matches.of_labels {surroundings model here there : Surroundings}
    (matched : surroundings.Matches model) (labels : here.blocks.labels = there.blocks.labels)
    (known : here.partials = surroundings.partials) (others : there.partials = model.partials)
    (afterIf : here.afterIf = there.afterIf) : here.Matches there := by
  constructor
  · exact ⟨labels, known ▸ others ▸ matched.here.partials, afterIf ▸ id⟩
  · exact ⟨labels.symm, known ▸ others ▸ matched.there.partials, afterIf ▸ id⟩

/-- Pieces are read alike wherever both stand: they give tokens that say the same, nothing is found
in the ones exactly when nothing is found in the others, and then they leave the same behind. -/
def ReadAlike (options : Options) (pieces others : List Piece) : Prop :=
  ∀ (lines other : LineTable) (offset elsewhere : Nat) (surroundings model : Surroundings),
    surroundings.Matches model →
    let here := readPieces options lines surroundings (Piece.withOffsets offset pieces)
    let there := readPieces options other model (Piece.withOffsets elsewhere others)
    (here.1.flatMap Reading.tokens).map Token.meaning =
        (there.1.flatMap Reading.tokens).map Token.meaning ∧
      (here.1.flatMap Reading.findings = [] ↔ there.1.flatMap Reading.findings = []) ∧
      here.2.Matches there.2

namespace ReadAlike

variable {options : Options} {pieces others more further : List Piece}

/-- Pieces are read alike in two places. -/
theorem refl (builtin : options.providers = []) (pieces : List Piece) :
    ReadAlike options pieces pieces := by
  intro lines other offset elsewhere surroundings model matched
  obtain ⟨tokens, clean, last⟩ :=
    readPieces_repeats builtin lines other pieces offset elsewhere matched.here
  obtain ⟨-, unclean, back⟩ :=
    readPieces_repeats builtin other lines pieces elsewhere offset matched.there
  refine ⟨?_, ⟨unclean, clean⟩, ⟨last, back⟩⟩
  have same := congrArg (List.map Token.meaning) tokens
  rw [List.map_map, List.map_map] at same
  exact same

/-- Pieces one behind the other are read alike when the parts are. -/
theorem append (first : ReadAlike options pieces others) (second : ReadAlike options more further) :
    ReadAlike options (pieces ++ more) (others ++ further) := by
  intro lines other offset elsewhere surroundings model matched
  obtain ⟨tokens, clean, middle⟩ := first lines other offset elsewhere surroundings model matched
  obtain ⟨behind, cleanBehind, last⟩ := second lines other
    (offset + Text.byteLength (pieces.flatMap Piece.source))
    (elsewhere + Text.byteLength (others.flatMap Piece.source)) _ _ middle
  dsimp only
  rw [Piece.withOffsets_append, Piece.withOffsets_append, readPieces_append, readPieces_append]
  simp only [List.flatMap_append, List.map_append, List.append_eq_nil_iff, tokens, behind, clean,
    cleanBehind, true_and]
  exact last

end ReadAlike

/-! ### Keywords -/

/-- Parts that begin with the sigil and the word of a keyword have the keyword. -/
theorem Keyword.ofParts?_of_is {parts : TagParts} {sigil : Sigil} {word : String}
    {keyword : Keyword} (listed : (sigil, word, keyword) ∈ table) (begins : parts.is sigil word) :
    ofParts? parts = some keyword := by
  have own : ∀ entry ∈ table, ofParts? ⟨some entry.1, some entry.2.1, []⟩ = some entry.2.2 := by
    decide
  rw [← own _ listed]
  simp only [TagParts.is, Bool.and_eq_true, beq_iff_eq, Option.any_eq_true, Text.sameWord] at begins
  obtain ⟨same, written, found, lower⟩ := begins
  refine ofParts?_congr same ?_
  rw [found, Option.map_some, Option.map_some]
  exact congrArg some lower

/-- Where blocks with the same labels are open, the innermost is closed in both or in neither, and
blocks with the same labels are left. -/
theorem OpenBlocks.closeInnermost_matches {blocks model : OpenBlocks}
    (same : blocks.labels = model.labels) (accepts : BlockLabel → Bool) (start other : Nat)
    (keyword : Text) :
    ((blocks.closeInnermost accepts start keyword).findings = [] ↔
        (model.closeInnermost accepts other keyword).findings = []) ∧
      (blocks.closeInnermost accepts start keyword).blocks.labels =
        (model.closeInnermost accepts other keyword).blocks.labels := by
  obtain ⟨clean, labels⟩ := closeExpecting_repeats same accepts start other keyword
    blocks.innermostClosingTag model.innermostClosingTag
  obtain ⟨unclean, -⟩ := closeExpecting_repeats same.symm accepts other start keyword
    model.innermostClosingTag blocks.innermostClosingTag
  exact ⟨⟨unclean, clean⟩, labels⟩

namespace Tag

variable {lines : LineTable} {start : Nat} {body : Text}

/-- White space behind a keyword does not count. -/
theorem rejectPayload_blank (blank : (TagParts.ofBody body).rest.trimSpace = [])
    (lines : LineTable) (start : Nat) (report : Text) :
    (tagAt lines start 2 body).rejectPayload report = [] := if_pos blank

/-- A value written with `&` has the form of one. -/
theorem form_of_ampersand (lines : LineTable) (start : Nat) (body : Text) :
    TagForm.ofTag (tagAt lines start 2 ('&' :: body)) = .rawValue := by
  have sigil : (TagParts.ofBody ('&' :: body)).sigil = some .ampersand := by
    simp only [TagParts.ofBody, Sigil.ofChar?]
    split <;> rfl
  have none : Keyword.ofParts? (TagParts.ofBody ('&' :: body)) = none := by
    have others : ∀ entry ∈ Keyword.table, entry.1 ≠ .ampersand := by decide
    rw [Keyword.ofParts?, Option.map_eq_none_iff, List.find?_eq_none]
    intro entry listed
    have other := (others entry listed).symm
    simp [TagParts.is, sigil, other]
  simp only [TagForm.ofTag, tagAt, none, sigil]
  rfl

end Tag

/-! ### Tags written out -/

namespace ReadAlike

variable {options : Options} {body : Text}

/-- Going over to the other case is read as closing the if block and opening the other case. The tag
that opens it stands directly behind the one that has closed the if block. -/
theorem ifElse (builtin : options.providers = []) (word : (TagParts.ofBody body).is .hash "ifelse")
    (blank : (TagParts.ofBody body).rest.trimSpace = []) :
    ReadAlike options [.tag 2 body] [.tag 2 "/if", .tag 2 "#else"] := by
  intro lines other offset elsewhere surroundings model matched
  have form : TagForm.ofTag (tagAt lines offset 2 body) = .keyword .ifOtherwise :=
    Tag.form_of_keyword (Keyword.ofParts?_of_is (by decide) word)
  have closing : TagForm.ofTag (tagAt other elsewhere 2 "/if") = .keyword (.close .ifBlock) :=
    Tag.form_of_keyword (by decide)
  have opening (start : Nat) : TagForm.ofTag (tagAt other start 2 "#else") = .keyword .otherwise :=
    Tag.form_of_keyword (by decide)
  have bare := Tag.rejectPayload_blank blank
  have bareClose := Tag.rejectPayload_blank (show (TagParts.ofBody "/if").rest.trimSpace = [] by decide)
  have bareElse := Tag.rejectPayload_blank (show (TagParts.ofBody "#else").rest.trimSpace = [] by decide)
  have closes := OpenBlocks.closeInnermost_matches matched.here.labels
    (fun label => Closer.ifBlock.ends label.kind) offset elsewhere Closer.ifBlock.keyword
  have pushed := OpenBlocks.labels_push closes.2 .otherwise "else" offset
    (elsewhere + Text.byteLength (Piece.source (.tag 2 "/if")))
  simp only [Piece.withOffsets, readPieces, Tag.readTag_builtin builtin, form, closing, opening]
  refine ⟨rfl, ?_, matched.of_labels pushed ?_ ?_ rfl⟩
  · simp only [List.flatMap_cons, List.flatMap_nil, List.append_nil, Tag.readForm, Tag.readKeyword,
      Tag.readIfOtherwise, Tag.readClose, Tag.readOtherwise, bare, bareClose, bareElse,
      List.nil_append, List.append_eq_nil_iff]
    exact ⟨fun clean => ⟨closes.1.1 clean, rfl⟩, fun clean => closes.1.2 clean.1⟩
  · simp only [Surroundings.after, form, Progress.partialsAfter]
  · simp only [Surroundings.after, closing, opening, Progress.partialsAfter]

/-- A value between three braces is read as the value written with `&`. -/
theorem triple (builtin : options.providers = []) (body : Text) :
    ReadAlike options [.tag 3 body] [.tag 2 ('&' :: body)] := by
  intro lines other offset elsewhere surroundings model matched
  have form : TagForm.ofTag (tagAt lines offset 3 body) = .tripleValue := rfl
  have written := Tag.form_of_ampersand other elsewhere body
  have text : (tagAt lines offset 3 body).located.text =
    (tagAt other elsewhere 2 ('&' :: body)).afterSigil.text := rfl
  obtain ⟨expression, clean⟩ := Located.parse_repeats text
  obtain ⟨-, unclean⟩ := Located.parse_repeats text.symm
  simp only [Piece.withOffsets, readPieces, Tag.readTag_builtin builtin, form, written]
  simp only [List.flatMap_cons, List.flatMap_nil, List.append_nil, Tag.readForm, Tag.readValue]
  refine ⟨?_, ⟨unclean, clean⟩, matched.of_labels matched.here.labels ?_ ?_ rfl⟩
  · rw [expression, text]
    rfl
  · simp only [Surroundings.after, form, Progress.partialsAfter]
  · simp only [Surroundings.after, written, Progress.partialsAfter]

end ReadAlike

/-! ### Templates -/

/-- The span of a tag is found in a template only where the tag may stand. -/
theorem TagSpan.tag_of_mem_all {before body after : Text} {braces : Nat}
    (listed : TagSpan.ofTag before.byteLength braces body ∈
      TagSpan.all (before ++ tagSource braces body ++ after)) :
    (braces = 2 ∨ braces = 3) ∧ Piece.IsBody body := by
  obtain ⟨⟨start, piece⟩, member, same⟩ := List.mem_filterMap.1 listed
  cases piece with
  | content text => cases same
  | tag number inner =>
    simp only [TagSpan.ofPiece?, TagSpan.ofTag, Option.some.injEq, TagSpan.mk.injEq] at same
    obtain ⟨rfl, stop, rfl⟩ := same
    obtain ⟨front, back, whole, size⟩ := Piece.cut_within _ _ member
    dsimp only [Piece.source] at whole size
    rw [List.append_assoc, List.append_assoc] at whole
    obtain ⟨-, rest⟩ := Text.append_inj_byteLength whole (size.trans (Nat.zero_add _))
    have wide : Text.byteLength (tagSource number body) =
        Text.byteLength (tagSource number inner) := by omega
    obtain ⟨tag, -⟩ := Text.append_inj_byteLength rest wide
    obtain rfl : body = inner := List.append_cancel_left (List.append_cancel_right tag)
    exact Piece.cutFrom_shape [] _ _ _ (Piece.mem_of_mem_withOffsets member)

namespace Template

/-- Templates with pieces that are read alike have the same document, or neither has one. -/
theorem parse_alike {options : Options} (builtin : options.providers = [])
    {template other : Text} (alike : ReadAlike options (Piece.cut template) (Piece.cut other))
    (document : Document) (diagnostics : List Diagnostic) :
    parse options template = .ok ⟨some document, diagnostics⟩ ↔
      parse options other = .ok ⟨some document, diagnostics⟩ := by
  have ready : options.ReadyMade := by simp [Options.ReadyMade, builtin]
  have start : (⟨OpenBlocks.empty, options.partials, false⟩ : Surroundings).Matches
      ⟨OpenBlocks.empty, options.partials, false⟩ :=
    ⟨⟨rfl, List.Subset.refl _, id⟩, ⟨rfl, List.Subset.refl _, id⟩⟩
  obtain ⟨tokens, clean, last⟩ := alike (LineTable.ofSource template) (LineTable.ofSource other)
    0 0 _ _ start
  have closed : (readings options template).2.blocks.entries.map OpenBlock.unclosed = [] ↔
      (readings options other).2.blocks.entries.map OpenBlock.unclosed = [] := by
    rw [List.map_eq_nil_iff, List.map_eq_nil_iff, ← OpenBlocks.labels_eq_nil,
      ← OpenBlocks.labels_eq_nil]
    exact last.here.labels ▸ Iff.rfl
  have unfound : findings options template = [] ↔ findings options other = [] := by
    rw [findings, findings, List.append_eq_nil_iff, List.append_eq_nil_iff, closed]
    exact and_congr_left' clean
  rw [parse_document_iff ready, parse_document_iff ready, unfound,
    show Document.ofTokens options ((readings options template).1.flatMap Reading.tokens) =
      Document.ofTokens options ((readings options other).1.flatMap Reading.tokens) from
      Document.ofTokens_congr builtin tokens]

/-- Each shorthand says what it is short for. Where a tag goes over to the other case, a tag that
closes the if block and one that opens the other case may stand in its place; and where a value
stands between three braces, the value written with `&` may. The template has a document before
exactly when it has one after, and then the same. The tag must not stand behind an opening brace,
which would join its braces; what stands behind the tag does not matter.

Proof: the pieces around the tag stay what they are. They are read alike in surroundings that allow
the same, and so are the tag and what is written in its place. -/
theorem shorthands_agree (partials : List Text) {before body after : Text} {braces : Nat}
    (listed : TagSpan.ofTag before.byteLength braces body ∈
      TagSpan.all (before ++ tagSource braces body ++ after))
    (bare : before.getLast? ≠ some '{') (document : Document) (diagnostics : List Diagnostic) :
    (braces = 2 → (TagParts.ofBody body).is .hash "ifelse" →
      (TagParts.ofBody body).rest.trimSpace = [] →
      (parse ⟨partials, []⟩ (before ++ tagSource braces body ++ after) =
          .ok ⟨some document, diagnostics⟩ ↔
        parse ⟨partials, []⟩ (before ++ (tagSource 2 "/if" ++ tagSource 2 "#else") ++ after) =
          .ok ⟨some document, diagnostics⟩)) ∧
    (braces = 3 →
      (parse ⟨partials, []⟩ (before ++ tagSource braces body ++ after) =
          .ok ⟨some document, diagnostics⟩ ↔
        parse ⟨partials, []⟩ (before ++ tagSource 2 ('&' :: body) ++ after) =
          .ok ⟨some document, diagnostics⟩)) := by
  obtain ⟨size, isBody⟩ := TagSpan.tag_of_mem_all listed
  have builtin : (⟨partials, []⟩ : Options).providers = [] := rfl
  have around {pieces others : List Piece} (alike : ReadAlike ⟨partials, []⟩ pieces others) :
      ReadAlike ⟨partials, []⟩ (Piece.cut before ++ (pieces ++ Piece.cut after))
        (Piece.cut before ++ (others ++ Piece.cut after)) :=
    (ReadAlike.refl builtin _).append (alike.append (.refl builtin _))
  have cutTag := Piece.cut_around size isBody bare after
  constructor
  · rintro rfl word blank
    have closing : Piece.IsBody "/if" := ⟨by decide, by simp [isBrace]⟩
    have opening : Piece.IsBody "#else" := ⟨by decide, by simp [isBrace]⟩
    have cutClose : Piece.cut (before ++ (tagSource 2 "/if" ++ (tagSource 2 "#else" ++ after))) =
        Piece.cut before ++ .tag 2 "/if" :: Piece.cut (tagSource 2 "#else" ++ after) :=
      Piece.cut_around (Or.inl rfl) closing bare _
    have cutElse : Piece.cut (tagSource 2 "#else" ++ after) = .tag 2 "#else" :: Piece.cut after :=
      Piece.cut_begins (Or.inl rfl) opening after
    have alike := around (.ifElse builtin word blank)
    refine parse_alike builtin ?_ document diagnostics
    rw [List.append_assoc, List.append_assoc, List.append_assoc, cutTag, cutClose, cutElse]
    exact alike
  · rintro rfl
    have written : Piece.IsBody ('&' :: body) :=
      ⟨List.cons_ne_nil _ _, List.forall_mem_cons.2 ⟨by decide, isBody.2⟩⟩
    have cutWritten : Piece.cut (before ++ (tagSource 2 ('&' :: body) ++ after)) =
        Piece.cut before ++ .tag 2 ('&' :: body) :: Piece.cut after :=
      Piece.cut_around (Or.inl rfl) written bare after
    have alike := around (.triple builtin body)
    refine parse_alike builtin ?_ document diagnostics
    rw [List.append_assoc, List.append_assoc, cutTag, cutWritten]
    exact alike

/-- A keyword in another case with white space behind it, and an expression between three braces, with
content around the tags. -/
theorem shorthands_agree_other_case :
    let before := tagSource 2 "#if a" ++ "yes"
    let after := "no" ++ tagSource 2 "/else"
    (∃ document diagnostics,
      parse ⟨[], []⟩ (before ++ tagSource 2 "#IfElse " ++ after) =
        .ok ⟨some document, diagnostics⟩ ∧
      parse ⟨[], []⟩ (before ++ (tagSource 2 "/if" ++ tagSource 2 "#else") ++ after) =
        .ok ⟨some document, diagnostics⟩) ∧
    ∃ document diagnostics,
      parse ⟨[], []⟩ ("so \x7d" ++ tagSource 3 " a.b " ++ "!") = .ok ⟨some document, diagnostics⟩ ∧
      parse ⟨[], []⟩ ("so \x7d" ++ tagSource 2 "& a.b " ++ "!") =
        .ok ⟨some document, diagnostics⟩ := by
  intro before after
  have reads : ((parse ⟨[], []⟩ (before ++ tagSource 2 "#IfElse " ++ after)).toOption.bind
      ParseResult.document).any (fun _ => true) = true := by
    decide +kernel
  have listed : TagSpan.ofTag before.byteLength 2 "#IfElse " ∈
      TagSpan.all (before ++ tagSource 2 "#IfElse " ++ after) := by
    decide +kernel
  have readsTriple : ((parse ⟨[], []⟩ ("so \x7d" ++ tagSource 3 " a.b " ++ "!")).toOption.bind
      ParseResult.document).any (fun _ => true) = true := by
    decide +kernel
  have listedTriple : TagSpan.ofTag (Text.byteLength "so \x7d") 3 " a.b " ∈
      TagSpan.all ("so \x7d" ++ tagSource 3 " a.b " ++ "!") := by
    decide +kernel
  obtain ⟨document, diagnostics, parsed, -⟩ := exists_document_of_any reads
  obtain ⟨other, none, parsedTriple, -⟩ := exists_document_of_any readsTriple
  refine ⟨⟨document, diagnostics, parsed, ?_⟩, other, none, parsedTriple, ?_⟩
  · exact ((shorthands_agree [] listed (by decide) document diagnostics).1 rfl (by decide)
      (by decide)).1 parsed
  · exact ((shorthands_agree [] listedTriple (by decide) other none).2 rfl).1 parsedTriple

end Template

end Bracework
