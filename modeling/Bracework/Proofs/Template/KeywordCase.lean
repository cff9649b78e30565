import Bracework.Proofs.Lexer.Spelling
import Bracework.Proofs.Template.Concatenation

/-!
# Keywords in another case

The case of the letters in a keyword, or in the word of a clause, matters to nothing but the source
text that tokens carry. A tag with its keyword spelled in another way binds, names and computes the
same, at the same place, opens and closes the same blocks, and has nothing wrong with it where the
tag has not.

A report may quote what is written, and so may differ. A template with a document has none.
-/

namespace Bracework

/-! ### Lines -/

section Lines

variable {lines others : LineTable}

/-- Tables that locate offsets alike are read with alike. -/
theorem Tag.readForm_located (located : lines.locate = others.locate) (tag : Tag)
    (surroundings : Surroundings) (form : TagForm) :
    tag.readForm lines surroundings form = tag.readForm others surroundings form := by
  have named (kind : ScopeKind) (written name : Located) (behavior : Option ScopeBehavior)
      (blocks : OpenBlocks) : tag.readNamedBlock lines kind written name behavior blocks =
        tag.readNamedBlock others kind written name behavior blocks := by
    rw [readNamedBlock, readNamedBlock, nameToken, nameToken, located]
  cases form with
  | keyword keyword =>
    cases keyword with
    | block kind => simp only [readForm, readKeyword, readBlock, named]
    | _ => rfl
  | pathBlock => simp only [readForm, readPathBlock, named]
  | invertedBlock => simp only [readForm, readPathBlock, named]
  | _ => rfl

/-- Only where offsets are located matters to the reading of pieces. -/
theorem readPieces_located {options : Options} (builtin : options.providers = [])
    (located : lines.locate = others.locate) (places : List (Nat × Piece))
    (surroundings : Surroundings) :
    readPieces options lines surroundings places =
      readPieces options others surroundings places := by
  induction places generalizing surroundings with
  | nil => rfl
  | cons place rest induction =>
    obtain ⟨start, piece⟩ := place
    cases piece with
    | content text => simp only [readPieces, contentToken, located, induction]
    | tag braces body =>
      simp only [readPieces, tagAt, located, induction, Tag.readTag_builtin builtin,
        Tag.readForm_located located]

end Lines

/-! ### Readings -/

/-- A token without its source text. -/
def Token.rawless (token : Token) : Token := { token with raw := [] }

/-- A reading restates another one: its tokens differ in their source text only, it finds nothing
where the other finds nothing, and the same blocks are open behind it. -/
structure Reading.Restates (reading model : Reading) : Prop where
  tokens : reading.tokens.map Token.rawless = model.tokens.map Token.rawless
  clean : model.findings = [] → reading.findings = []
  blocks : reading.blocks = model.blocks

/-- A tag stands in the place of another one when it occupies the same bytes. -/
structure Tag.InPlaceOf (tag model : Tag) : Prop where
  start : tag.start = model.start
  span : tag.span = model.span
  position : tag.position = model.position

namespace Tag

variable {tag model : Tag} {lines : LineTable} {blocks : OpenBlocks}

/-- What is said of tags in the same place differs in their source text only. -/
theorem InPlaceOf.token (place : tag.InPlaceOf model) (kind : TokenKind) (value : Text) :
    (tag.token kind value).rawless = (model.token kind value).rawless := by
  simp only [Tag.token, Token.rawless, Token.plain, place.span, place.position]

/-- So it is with an expression. -/
theorem InPlaceOf.tokenWith (place : tag.InPlaceOf model) (kind : TokenKind) (value : Text)
    (expression : Option Expression) :
    ((tag.token kind value).withExpression expression).rawless =
      ((model.token kind value).withExpression expression).rawless :=
  congrArg (Token.withExpression · expression) (place.token kind value)

theorem readUnnamedBlock_restates (place : tag.InPlaceOf model) (kind : ScopeKind)
    (written : Located) :
    (tag.readUnnamedBlock kind written blocks).Restates
      (model.readUnnamedBlock kind written blocks) := by
  refine ⟨congrArg (fun token => [token]) (place.tokenWith _ _ _), id, ?_⟩
  rw [readUnnamedBlock, readUnnamedBlock, place.start]

theorem readNamedBlock_restates (place : tag.InPlaceOf model) (kind : ScopeKind)
    (written name : Located) (behavior : Option ScopeBehavior) :
    (tag.readNamedBlock lines kind written name behavior blocks).Restates
      (model.readNamedBlock lines kind written name behavior blocks) := by
  have token := congrArg (Token.withBehavior · behavior)
    (place.tokenWith (.opens kind) written.text written.parse.expression)
  refine ⟨congrArg (fun token => [token, (nameToken lines name).rawless]) token, id, ?_⟩
  rw [readNamedBlock, readNamedBlock, place.start]

/-- A block with a keyword is opened alike when what follows the keyword is the same. -/
theorem readBlock_restates (place : tag.InPlaceOf model) (payload : tag.payload = model.payload)
    (kind : ScopeKind) :
    (tag.readBlock lines kind blocks).Restates (model.readBlock lines kind blocks) := by
  unfold readBlock
  dsimp only
  rw [payload]
  split
  · exact readUnnamedBlock_restates place kind _
  · split
    · exact readNamedBlock_restates place kind _ _ _
    · split
      · have read (written : Located) : (tag.readUnnamedBlock kind written blocks).Restates
            (model.readUnnamedBlock kind written blocks) :=
          readUnnamedBlock_restates place kind written
        exact ⟨(read _).tokens, by simp, (read _).blocks⟩
      · exact readUnnamedBlock_restates place kind _

/-- Each item of a collection is taken alike when the words of the clauses are spelled in another
way. -/
theorem readEach_restates (place : tag.InPlaceOf model)
    (offset : tag.payload.offset = model.payload.offset)
    (spelled : Stretch.Spelled (Keyword.stretches model.payload.text (.block .each))
      tag.payload.text) :
    (tag.readBlock lines .each blocks).Restates (model.readBlock lines .each blocks) := by
  have whole := AliasSplit.stretches_makesUp ScopeBehavior.stretches_makesUp
  obtain ⟨lead, inside⟩ := Stretch.spelled_trimBlanks whole spelled
  obtain ⟨name, nameOffset, kept, front⟩ :=
    AliasSplit.spelled_ofText ScopeBehavior.stretches_makesUp inside
  have start : tag.payload.trim.offset = model.payload.trim.offset := by
    rw [Located.trim, Located.trim, lead, offset]
  have text : tag.payload.trim.text = tag.payload.text.trimBlanks := rfl
  have modelText : model.payload.trim.text = model.payload.text.trimBlanks := rfl
  unfold readBlock
  cases found : (AliasSplit.ofText model.payload.text.trimBlanks).name with
  | none =>
    have payload : tag.payload.trim = model.payload.trim :=
      congrArg₂ Located.mk (kept found) start
    simp only [payload, modelText, found]
    exact readUnnamedBlock_restates place .each _
  | some bound =>
    rw [found] at front
    have cut := ScopeBehavior.spelled_splitOff (front rfl)
    simp only [text, modelText, name, nameOffset, start, found, if_true, cut]
    exact readNamedBlock_restates place .each _ _ _

/-- A block of a path is opened alike when the word of its clause is spelled in another way. -/
theorem readPathBlock_restates (place : tag.InPlaceOf model)
    (offset : tag.afterSigil.offset = model.afterSigil.offset) (kind : ScopeKind)
    (spelled : Stretch.Spelled (Stretch.trimmed (AliasSplit.stretches Stretch.fixedOnly)
      model.afterSigil.text) tag.afterSigil.text) :
    (tag.readPathBlock lines kind blocks).Restates (model.readPathBlock lines kind blocks) := by
  obtain ⟨lead, inside⟩ := Stretch.spelled_trimBlanks
    (AliasSplit.stretches_makesUp Stretch.fixedOnly_makesUp) spelled
  have cut : AliasSplit.ofText tag.afterSigil.trim.text =
      AliasSplit.ofText model.afterSigil.trim.text :=
    AliasSplit.spelled_ofText_fixed inside
  have start : tag.afterSigil.trim.offset = model.afterSigil.trim.offset := by
    rw [Located.trim, Located.trim, lead, offset]
  unfold readPathBlock
  dsimp only
  rw [cut, start]
  split
  · exact readNamedBlock_restates place kind _ _ none
  · exact readUnnamedBlock_restates place kind _

/-- A partial is included alike when the inclusion has the same parts. -/
theorem readInclusion_restates (place : tag.InPlaceOf model) (partials : List Text)
    (same : Inclusion.ofPayload tag.payload = Inclusion.ofPayload model.payload) :
    (tag.readInclusion partials blocks).Restates (model.readInclusion partials blocks) := by
  refine ⟨?_, ?_, rfl⟩
  · simp only [readInclusion, same]
    exact congrArg (fun token => [token]) (place.tokenWith _ _ _)
  · simp only [readInclusion, same, List.append_eq_nil_iff]
    rintro ⟨⟨named, ended⟩, parsed⟩
    refine ⟨⟨nameFindings_repeats (List.Subset.refl _) _ named, ?_⟩, parsed⟩
    split at ended
    · simp at ended
    · rfl

/-- A tag with a keyword is read alike when what follows the keyword is the same. -/
theorem readKeyword_restates (place : tag.InPlaceOf model) (payload : tag.payload = model.payload)
    (surroundings : Surroundings) (keyword : Keyword) :
    (tag.readKeyword lines surroundings keyword).Restates
      (model.readKeyword lines surroundings keyword) := by
  have single (kind : TokenKind) (value : Text) :
      [tag.token kind value].map Token.rawless = [model.token kind value].map Token.rawless :=
    congrArg (fun token => [token]) (place.token kind value)
  have rejects := rejectPayload_repeats (congrArg Located.text payload)
  cases keyword with
  | declaration =>
    simp only [readKeyword, readDeclaration, declaredName?, payload, place.start]
    exact ⟨single _ _, id, rfl⟩
  | inclusion => exact readInclusion_restates place _ (congrArg Inclusion.ofPayload payload)
  | block kind => exact readBlock_restates place payload kind
  | close closer =>
    simp only [readKeyword, readClose, place.start]
    refine ⟨single _ _, fun clean => ?_, rfl⟩
    obtain ⟨argument, closing⟩ := List.append_eq_nil_iff.1 clean
    exact List.append_eq_nil_iff.2 ⟨rejects _ _ argument, closing⟩
  | otherwise =>
    simp only [readKeyword, readOtherwise, place.start]
    refine ⟨single _ _, fun clean => ?_, rfl⟩
    obtain ⟨argument, misplaced⟩ := List.append_eq_nil_iff.1 clean
    refine List.append_eq_nil_iff.2 ⟨rejects _ _ argument, ?_⟩
    split at misplaced
    · exact if_pos ‹_›
    · simp at misplaced
  | ifOtherwise =>
    simp only [readKeyword, readIfOtherwise, place.start, place.span, place.position]
    refine ⟨congrArg (· :: _) (place.token _ _), fun clean => ?_, rfl⟩
    obtain ⟨argument, closing⟩ := List.append_eq_nil_iff.1 clean
    exact List.append_eq_nil_iff.2 ⟨rejects _ _ argument, closing⟩
  | assignment durable =>
    simp only [readKeyword, readAssignment, payload]
    split
    · exact ⟨congrArg (fun token => [token]) (place.tokenWith _ _ _), id, rfl⟩
    · exact ⟨single _ _, by simp, rfl⟩
  | edit operation => exact ⟨single _ _, rejects _ _, rfl⟩

section Bodies

variable {start : Nat} {body other : Text}

/-- A tag with another spelling of a body occupies the same bytes. -/
theorem tagAt_inPlaceOf (lines : LineTable) (start : Nat)
    (spelled : Stretch.Spelled (TagParts.stretches body) other) :
    (tagAt lines start 2 other).InPlaceOf (tagAt lines start 2 body) := by
  refine ⟨rfl, ?_, rfl⟩
  have size := Text.byteLength_eq_of_lower (TagParts.stretches_makesUp.lower spelled)
  simp only [span, raw, tagAt, tagSource, Text.byteLength_append, size]

/-- What follows the keyword stands at the same place in another spelling, and is spelled there. -/
theorem spelled_payload {keyword : Keyword} (lines : LineTable) (start : Nat)
    (spelled : Stretch.Spelled (TagParts.stretches body) other)
    (found : Keyword.ofParts? (TagParts.ofBody body) = some keyword) :
    (tagAt lines start 2 other).payload.offset = (tagAt lines start 2 body).payload.offset ∧
      Stretch.Spelled (keyword.stretches (tagAt lines start 2 body).payload.text)
        (tagAt lines start 2 other).payload.text := by
  obtain ⟨offset, behind⟩ := TagParts.spelled_rest spelled found
  exact ⟨congrArg (start + 2 + ·) offset, behind⟩

/-- Another spelling of a tag has the form of the tag. -/
theorem form_of_spelled (lines : LineTable) (start : Nat)
    (spelled : Stretch.Spelled (TagParts.stretches body) other) :
    TagForm.ofTag (tagAt lines start 2 other) = TagForm.ofTag (tagAt lines start 2 body) := by
  obtain ⟨sigil, -, keyword⟩ := TagParts.spelled_ofBody spelled
  cases found : Keyword.ofParts? (TagParts.ofBody body) with
  | some word => rw [form_of_keyword found, form_of_keyword (keyword.trans found)]
  | none => rw [form_of_sigil found, form_of_sigil (keyword.trans found), sigil]

/-- Another spelling of a tag declares the same partial or none. -/
theorem partialsAfter_spelled (lines : LineTable) (start : Nat)
    (spelled : Stretch.Spelled (TagParts.stretches body) other) (known : List Text) :
    Progress.partialsAfter (tagAt lines start 2 other)
        (TagForm.ofTag (tagAt lines start 2 other)) known =
      Progress.partialsAfter (tagAt lines start 2 body)
        (TagForm.ofTag (tagAt lines start 2 body)) known := by
  rw [form_of_spelled lines start spelled]
  cases found : Keyword.ofParts? (TagParts.ofBody body) with
  | none =>
    rw [form_of_sigil found]
    cases (TagParts.ofBody body).sigil with
    | none => rfl
    | some sigil => cases sigil <;> rfl
  | some keyword =>
    rw [form_of_keyword found]
    cases keyword with
    | declaration =>
      obtain ⟨offset, behind⟩ := spelled_payload lines start spelled found
      have payload : (tagAt lines start 2 other).payload = (tagAt lines start 2 body).payload :=
        congrArg₂ Located.mk (Stretch.spelled_fixed_only behind) offset
      simp only [Progress.partialsAfter, declaredName?, payload]
    | _ => rfl

/-- Another spelling of a tag restates the tag. -/
theorem readForm_restates (lines : LineTable) (start : Nat)
    (spelled : Stretch.Spelled (TagParts.stretches body) other) (surroundings : Surroundings) :
    ((tagAt lines start 2 other).readForm lines surroundings
        (TagForm.ofTag (tagAt lines start 2 other))).Restates
      ((tagAt lines start 2 body).readForm lines surroundings
        (TagForm.ofTag (tagAt lines start 2 body))) := by
  have place := tagAt_inPlaceOf lines start spelled
  rw [form_of_spelled lines start spelled]
  cases found : Keyword.ofParts? (TagParts.ofBody body) with
  | some keyword =>
    rw [form_of_keyword found, readForm, readForm]
    obtain ⟨offset, behind⟩ := spelled_payload lines start spelled found
    have plain (fixed : Keyword.stretches (tagAt lines start 2 body).payload.text keyword =
        Stretch.fixedOnly (tagAt lines start 2 body).payload.text) :
        (tagAt lines start 2 other).payload = (tagAt lines start 2 body).payload := by
      rw [fixed] at behind
      exact congrArg₂ Located.mk (Stretch.spelled_fixed_only behind) offset
    cases keyword with
    | inclusion =>
      exact readInclusion_restates place _ (Inclusion.spelled_ofPayload offset behind)
    | block kind =>
      cases kind with
      | each => exact readEach_restates place offset behind
      | _ => exact readBlock_restates place (plain rfl) _
    | _ => exact readKeyword_restates place (plain rfl) surroundings _
  | none =>
    rw [form_of_sigil found]
    obtain ⟨first, behind⟩ := TagParts.spelled_tail spelled found
    have kept (same : Stretch.Spelled (Stretch.fixedOnly (body.drop 1)) (other.drop 1)) :
        other = body := by
      rw [← List.take_append_drop 1 other, first, Stretch.spelled_fixed_only same,
        List.take_append_drop]
    cases form : TagForm.ofSigil (TagParts.ofBody body).sigil with
    | pathBlock =>
      rw [form, List.drop_one, List.drop_one] at behind
      exact readPathBlock_restates place rfl .expression behind
    | invertedBlock =>
      rw [form, List.drop_one, List.drop_one] at behind
      exact readPathBlock_restates place rfl .inverted behind
    | _ =>
      rw [form] at behind
      obtain rfl := kept behind
      exact ⟨rfl, id, rfl⟩

end Bodies

end Tag

/-! ### Templates -/

/-- Whether an if block has been closed does not depend on source texts. -/
theorem foldl_closesIf_rawless (tokens : List Token) (before : Bool) :
    (tokens.map Token.rawless).foldl Progress.closesIf before =
      tokens.foldl Progress.closesIf before :=
  List.foldl_map

/-- A tag that is spelled in another way restates the tag, and leaves the same surroundings. -/
theorem Piece.Respelled.restates {options : Options} (builtin : options.providers = [])
    {braces : Nat} {body : Text} {other : Piece} (respelled : Respelled (.tag braces body) other)
    (lines : LineTable) (start : Nat) (surroundings : Surroundings) :
    ∃ changed, other = .tag braces changed ∧
      let reading := Progress.readTag options lines (tagAt lines start braces changed) surroundings
      let model := Progress.readTag options lines (tagAt lines start braces body) surroundings
      reading.Restates model ∧ surroundings.after (tagAt lines start braces changed) reading =
        surroundings.after (tagAt lines start braces body) model := by
  cases respelled with
  | kept => exact ⟨body, rfl, ⟨rfl, id, rfl⟩, rfl⟩
  | @tag _ changed spelled =>
    have restates := Tag.readForm_restates lines start spelled surroundings
    rw [← Tag.readTag_builtin builtin, ← Tag.readTag_builtin builtin] at restates
    refine ⟨changed, rfl, restates, ?_⟩
    rw [Surroundings.after, Surroundings.after, restates.blocks,
      Tag.partialsAfter_spelled lines start spelled, ← foldl_closesIf_rawless, restates.tokens,
      foldl_closesIf_rawless]

/-- Pieces that are spelled in another way are read like the pieces: their tokens differ in source
text only, nothing is found in them where nothing is found in the pieces, and the surroundings
behind them are the same. -/
theorem readPieces_restates {options : Options} (builtin : options.providers = [])
    (lines : LineTable) {pieces others : List Piece}
    (respelled : List.Forall₂ Piece.Respelled pieces others) (offset : Nat)
    (surroundings : Surroundings) :
    let here := readPieces options lines surroundings (Piece.withOffsets offset others)
    let there := readPieces options lines surroundings (Piece.withOffsets offset pieces)
    (here.1.flatMap Reading.tokens).map Token.rawless =
        (there.1.flatMap Reading.tokens).map Token.rawless ∧
      (there.1.flatMap Reading.findings = [] → here.1.flatMap Reading.findings = []) ∧
      here.2 = there.2 := by
  induction respelled generalizing offset surroundings with
  | nil => exact ⟨rfl, id, rfl⟩
  | @cons piece other rest more first later induction =>
    have size : other.source.byteLength = piece.source.byteLength := by
      apply Text.byteLength_eq_of_lower
      rw [← Piece.source_lower, first.lower, Piece.source_lower]
    cases piece with
    | content text =>
      cases first with
      | kept =>
        obtain ⟨tokens, clean, last⟩ := induction (offset + text.byteLength) surroundings
        exact ⟨congrArg (List.cons _) tokens, clean, last⟩
    | tag braces body =>
      obtain ⟨changed, rfl, restates, after⟩ := first.restates builtin lines offset surroundings
      obtain ⟨tokens, clean, last⟩ := induction (offset + (tagSource braces body).byteLength)
        (surroundings.after (tagAt lines offset braces body)
          (Progress.readTag options lines (tagAt lines offset braces body) surroundings))
      simp only [Piece.withOffsets, readPieces, size, after, List.flatMap_cons, List.map_append,
        List.append_eq_nil_iff, restates.tokens]
      exact ⟨congrArg _ tokens, fun found => ⟨restates.clean found.1, clean found.2⟩, last⟩

namespace Template

/-- The case of keywords does not change what a template means. Where the letters of its keywords,
or of the words of its clauses, are written in another case, a template that has a document has the
same document still, and its tokens differ in their source text only.

Proof: the other spelling is cut into spellings of the same pieces, and each offset has the same
line and column in both. Read one by one, the tags restate those of the template and leave the same
surroundings. The document is made of what the tokens say, which is not their source text. -/
theorem keywords_in_any_case (partials : List Text) {template other : Text}
    (spelled : Stretch.Spelled (stretches template) other) {document : Document}
    {diagnostics : List Diagnostic}
    (parsed : parse ⟨partials, []⟩ template = .ok ⟨some document, diagnostics⟩) :
    parse ⟨partials, []⟩ other = .ok ⟨some document, diagnostics⟩ ∧
      ∃ tokens others, tokenize ⟨partials, []⟩ template = .ok ⟨tokens, []⟩ ∧
        tokenize ⟨partials, []⟩ other = .ok ⟨others, []⟩ ∧
        others.map Token.rawless = tokens.map Token.rawless := by
  have builtin : (⟨partials, []⟩ : Options).providers = [] := rfl
  have ready : (⟨partials, []⟩ : Options).ReadyMade := by simp [Options.ReadyMade]
  obtain ⟨clean, none, built⟩ := (parse_document_iff ready).1 parsed
  obtain ⟨respelled, small⟩ := cut_spelled spelled
  have located : (LineTable.ofSource other).locate = (LineTable.ofSource template).locate := by
    rw [← LineTable.locate_lower, small, LineTable.locate_lower]
  have read : readings ⟨partials, []⟩ other = readPieces ⟨partials, []⟩
      (LineTable.ofSource template) ⟨OpenBlocks.empty, partials, false⟩
        (Piece.withOffsets 0 (Piece.cut other)) :=
    readPieces_located builtin located _ _
  obtain ⟨tokens, cleanTags, last⟩ := readPieces_restates builtin (LineTable.ofSource template)
    respelled 0 ⟨OpenBlocks.empty, partials, false⟩
  rw [← read] at tokens cleanTags last
  have cleanOther : findings ⟨partials, []⟩ other = [] := by
    obtain ⟨inTags, unclosed⟩ := List.append_eq_nil_iff.1 clean
    refine List.append_eq_nil_iff.2 ⟨cleanTags inTags, ?_⟩
    rw [last]
    exact unclosed
  have meaning := congrArg (List.map Token.meaning) tokens
  rw [List.map_map, List.map_map] at meaning
  refine ⟨(parse_document_iff ready).2 ⟨cleanOther, none, ?_⟩, _, _, ?_, ?_, tokens⟩
  · rw [Document.ofTokens_congr builtin meaning]
    exact built
  · rw [tokenize_ok ready, clean]
    rfl
  · rw [tokenize_ok ready, cleanOther]
    rfl

/-- Every clause there is, behind keywords in another case, with names that are spelled like the
words of clauses. -/
theorem keywords_in_any_case_clauses :
    let template := "Hi " ++ tagSource 2 "#each with.as noscope as item" ++
      tagSource 2 "#include row with item" ++ tagSource 2 "/each" ++ tagSource 2 "#user as with" ++
      tagSource 2 "/with"
    let other := "Hi " ++ tagSource 2 "#EACH with.as NoScope As item" ++
      tagSource 2 "#Include row WITH item" ++ tagSource 2 "/Each" ++ tagSource 2 "#user AS with" ++
      tagSource 2 "/with"
    Stretch.Spelled (stretches template) other ∧ ∃ document diagnostics tokens others,
      parse ⟨["row"], []⟩ template = .ok ⟨some document, diagnostics⟩ ∧
      parse ⟨["row"], []⟩ other = .ok ⟨some document, diagnostics⟩ ∧
      tokenize ⟨["row"], []⟩ template = .ok ⟨tokens, []⟩ ∧
      tokenize ⟨["row"], []⟩ other = .ok ⟨others, []⟩ ∧
      others.map Token.rawless = tokens.map Token.rawless := by
  intro template other
  have spelled : Stretch.Spelled (stretches template) other := by decide +kernel
  have read : ((parse ⟨["row"], []⟩ template).toOption.bind ParseResult.document).any
      (fun _ => true) = true := by
    decide +kernel
  obtain ⟨document, diagnostics, parsed, -⟩ := exists_document_of_any read
  obtain ⟨same, tokens, others, lexed, relexed, rawless⟩ :=
    keywords_in_any_case ["row"] spelled parsed
  exact ⟨spelled, document, diagnostics, tokens, others, parsed, same, lexed, relexed, rawless⟩

end Template

end Bracework
