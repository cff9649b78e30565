import Bracework.Extension.Standard
import Bracework.Proofs.Lexer.Fragments
import Bracework.Template

/-!
# What the reading of a tag gives

Whatever is wrong with a tag, its reading gives one token that carries the source text of the
tag. Two forms give a second token, which carries none: a block that names its items gives the
name, and the tag that goes over to the other case of an if block gives the token that opens it.
The ready-made providers give one token each.

No such token ends behind its tag, so reading a template never breaks off. The reading of the
whole is then a plain recursion over the pieces, which is stated here next to the loop that stops
at a breach.
-/

namespace Bracework

namespace Options

/-- Every provider is one of the ready-made ones. -/
def ReadyMade (options : Options) : Prop :=
  ∀ provider ∈ options.providers, ∃ keyword,
    provider = TagProvider.leaf keyword ∨ provider = TagProvider.block keyword

end Options

namespace Tag

/-- A token carries a tag when it has the source text, the span and the position of the tag. It
is not content then. -/
structure Carries (tag : Tag) (token : Token) : Prop where
  raw : token.raw = tag.raw
  span : token.span = tag.span
  position : token.position = tag.position
  kind : token.kind ≠ .content

/-- The tokens that a tag may give: one that carries the tag, and perhaps the name of its items,
or the opening of the block for the other case. -/
inductive Gives (lines : LineTable) (tag : Tag) : List Token → Prop
  | single {token : Token} (carries : tag.Carries token) : Gives lines tag [token]
  | named {token : Token} {name : Located} (carries : tag.Carries token)
      (within : name.Within tag.located) : Gives lines tag [token, nameToken lines name]
  | ifOtherwise {token opened : Token} (carries : tag.Carries token)
      (closes : token.kind = .closes .ifBlock) (form : TagForm.ofTag tag = .keyword .ifOtherwise)
      (opens : opened.kind = .opens .otherwise) (silent : opened.raw = [])
      (empty : opened.span = ⟨tag.span.stop, tag.span.stop⟩) : Gives lines tag [token, opened]

variable {tag : Tag} {lines : LineTable} {kind : TokenKind} {value : Text}

/-- A token made of a tag carries it. -/
theorem token_carries (other : kind ≠ .content) : tag.Carries (tag.token kind value) :=
  ⟨rfl, rfl, rfl, other⟩

/-- A token made of a tag is all that the tag gives. -/
theorem gives_token (other : kind ≠ .content) : tag.Gives lines [tag.token kind value] :=
  .single (token_carries other)

/-- An expression on a token does not change what it carries. -/
theorem Carries.withExpression {token : Token} (carries : tag.Carries token)
    (expression : Option Expression) : tag.Carries (token.withExpression expression) :=
  ⟨carries.raw, carries.span, carries.position, carries.kind⟩

/-- A word on the scope of a token does not change what it carries. -/
theorem Carries.withBehavior {token : Token} (carries : tag.Carries token)
    (behavior : Option ScopeBehavior) : tag.Carries (token.withBehavior behavior) :=
  ⟨carries.raw, carries.span, carries.position, carries.kind⟩

/-- A block without a name gives one token. -/
theorem readUnnamedBlock_gives (kind : ScopeKind) (written : Located) (blocks : OpenBlocks) :
    tag.Gives lines (tag.readUnnamedBlock kind written blocks).tokens :=
  .single ((token_carries (by simp)).withExpression _)

/-- A block with a name gives its own token and the name. -/
theorem readNamedBlock_gives {name : Located} (within : name.Within tag.located)
    (kind : ScopeKind) (written : Located) (behavior : Option ScopeBehavior)
    (blocks : OpenBlocks) :
    tag.Gives lines (tag.readNamedBlock lines kind written name behavior blocks).tokens :=
  .named (((token_carries (by simp)).withExpression _).withBehavior _) within

/-- A block with a keyword gives its own token, and the name of its items if it may have one. -/
theorem readBlock_gives (kind : ScopeKind) (blocks : OpenBlocks) :
    tag.Gives lines (tag.readBlock lines kind blocks).tokens := by
  unfold readBlock
  dsimp only
  split
  · exact readUnnamedBlock_gives _ _ _
  · rename_i name found
    have within : (⟨name, tag.payload.trim.offset +
        (AliasSplit.ofText tag.payload.trim.text).nameOffset⟩ : Located).Within tag.located :=
      (AliasSplit.name_within _ found).trans
        ((Located.trim_within tag.payload).trans tag.payload_within)
    split
    · exact readNamedBlock_gives within _ _ _ _
    · split
      · exact readUnnamedBlock_gives kind _ blocks
      · exact readUnnamedBlock_gives _ _ _

/-- A block that is opened by a path gives its own token, and the name of its items if it has
one. -/
theorem readPathBlock_gives (marked : (TagParts.ofBody tag.body).sigil.isSome)
    (kind : ScopeKind) (blocks : OpenBlocks) :
    tag.Gives lines (tag.readPathBlock lines kind blocks).tokens := by
  unfold readPathBlock
  dsimp only
  split
  · rename_i name found
    have within : (⟨name, tag.afterSigil.trim.offset +
        (AliasSplit.ofText tag.afterSigil.trim.text).nameOffset⟩ : Located).Within tag.located :=
      (AliasSplit.name_within _ found).trans
        ((Located.trim_within tag.afterSigil).trans (afterSigil_within marked))
    exact readNamedBlock_gives within _ _ _ _
  · exact readUnnamedBlock_gives _ _ _

/-- A binding gives one token, whether or not it can be read. -/
theorem readAssignment_gives (durable : Bool) (blocks : OpenBlocks) :
    tag.Gives lines (tag.readAssignment durable blocks).tokens := by
  unfold readAssignment
  split
  · exact .single ((token_carries (by simp)).withExpression _)
  · exact gives_token (by simp)

/-- The forms of blocks that a path opens have a sigil. -/
theorem sigil_of_form (form : TagForm.ofTag tag = .pathBlock ∨ TagForm.ofTag tag = .invertedBlock) :
    (TagParts.ofBody tag.body).sigil.isSome := by
  cases marked : (TagParts.ofBody tag.body).sigil with
  | some sigil => rfl
  | none =>
    unfold TagForm.ofTag at form
    dsimp only at form
    split at form
    · simp at form
    · split at form
      · simp at form
      · simp [marked, TagForm.ofSigil] at form

/-- A tag of a built-in form gives the tokens that a tag may give, whatever is wrong with it. -/
theorem readForm_gives (surroundings : Surroundings) :
    tag.Gives lines (tag.readForm lines surroundings (TagForm.ofTag tag)).tokens := by
  cases form : TagForm.ofTag tag with
  | keyword keyword =>
    cases keyword with
    | declaration => exact gives_token (by simp)
    | inclusion => exact .single ((token_carries (by simp)).withExpression _)
    | block kind => exact readBlock_gives kind _
    | close closer => exact gives_token (by simp)
    | otherwise => exact gives_token (by simp)
    | ifOtherwise => exact .ifOtherwise (token_carries (by simp)) rfl form rfl rfl rfl
    | assignment durable => exact readAssignment_gives durable _
    | edit operation => exact gives_token (by simp)
  | tripleValue => exact .single ((token_carries (by simp)).withExpression _)
  | rawValue => exact .single ((token_carries (by simp)).withExpression _)
  | comment => exact gives_token (by simp)
  | invertedBlock => exact readPathBlock_gives (sigil_of_form (Or.inr form)) _ _
  | pathBlock => exact readPathBlock_gives (sigil_of_form (Or.inl form)) _ _
  | pathClose => exact gives_token (by simp)
  | value => exact .single ((token_carries (by simp)).withExpression _)

/-- A ready-made provider gives one token for each tag. -/
theorem provider_gives {provider : TagProvider} {keyword : Text}
    (ready : provider = TagProvider.leaf keyword ∨ provider = TagProvider.block keyword)
    (partials : List Text) (blocks : OpenBlocks) :
    tag.Gives lines (provider.read partials tag blocks).tokens := by
  rcases ready with rfl | rfl
  · exact gives_token (by simp)
  · simp only [TagProvider.block]
    split
    · exact gives_token (by simp)
    · exact gives_token (by simp [TagProvider.closingKind])

/-- A tag is read by a provider that claims it, or as its form says. -/
theorem readTag_cases (options : Options) (tag : Tag) (lines : LineTable)
    (surroundings : Surroundings) :
    (∃ provider, options.reader? tag = some provider ∧
      Progress.readTag options lines tag surroundings =
        provider.read options.partials tag surroundings.blocks) ∨
    Progress.readTag options lines tag surroundings =
      tag.readForm lines surroundings (TagForm.ofTag tag) := by
  unfold Progress.readTag
  dsimp only
  split
  · rename_i provider found
    split at found
    · exact Or.inl ⟨provider, found, rfl⟩
    · simp at found
  · exact Or.inr rfl

/-- Where all providers are ready-made, every tag gives the tokens that a tag may give. -/
theorem readTag_gives {options : Options} (ready : options.ReadyMade)
    (surroundings : Surroundings) :
    tag.Gives lines (Progress.readTag options lines tag surroundings).tokens := by
  obtain ⟨provider, claimed, reading⟩ | reading := readTag_cases options tag lines surroundings
  · obtain ⟨keyword, made⟩ := ready provider (List.mem_of_find?_eq_some claimed)
    rw [reading]
    exact provider_gives made _ _
  · rw [reading]
    exact readForm_gives surroundings

/-- Where there are no providers, the form of a tag says how it is read. -/
theorem readTag_builtin {options : Options} (builtin : options.providers = []) (tag : Tag)
    (lines : LineTable) (surroundings : Surroundings) :
    Progress.readTag options lines tag surroundings =
      tag.readForm lines surroundings (TagForm.ofTag tag) := by
  obtain ⟨provider, claimed, -⟩ | reading := readTag_cases options tag lines surroundings
  · simp [Options.reader?, builtin] at claimed
  · exact reading

/-- No token of a tag ends behind the tag. -/
theorem Gives.stop_le {tokens : List Token} (gives : tag.Gives lines tokens) :
    ∀ token ∈ tokens, token.span.stop ≤ tag.span.stop := by
  have inside : ∀ name : Located, name.Within tag.located →
      name.offset + name.text.byteLength ≤ tag.span.stop := by
    intro name within
    exact (within.trans tag.located_within).bounds.2
  have whole : ∀ token : Token, tag.Carries token → token.span.stop ≤ tag.span.stop :=
    fun token carries => Nat.le_of_eq (congrArg Span.stop carries.span)
  cases gives with
  | single carries =>
    rw [List.forall_mem_singleton]
    exact whole _ carries
  | named carries within =>
    rw [List.forall_mem_cons, List.forall_mem_singleton]
    exact ⟨whole _ carries, inside _ within⟩
  | ifOtherwise carries closes form opens silent empty =>
    have stop := congrArg Span.stop empty
    rw [List.forall_mem_cons, List.forall_mem_singleton]
    exact ⟨whole _ carries, Nat.le_of_eq stop⟩

end Tag

/-! ### Reading without breaches -/

namespace Surroundings

/-- The surroundings of the tag that follows a tag with a given reading. -/
def after (surroundings : Surroundings) (tag : Tag) (reading : Reading) : Surroundings where
  blocks := reading.blocks
  partials := Progress.partialsAfter tag (TagForm.ofTag tag) surroundings.partials
  afterIf := reading.tokens.foldl Progress.closesIf surroundings.afterIf

end Surroundings

/-- The token of content that begins at an offset. -/
def contentToken (lines : LineTable) (start : Nat) (text : Text) : Token :=
  Token.plain .content text text ⟨start, start + text.byteLength⟩ (lines.locate start)

/-- A tag at an offset, with its position. -/
def tagAt (lines : LineTable) (start braces : Nat) (body : Text) : Tag :=
  { start, braces, body, position := lines.locate start }

namespace Tag

variable {lines : LineTable} {start : Nat} {body : Text}

/-- A tag between two braces with a keyword has the form of the keyword. -/
theorem form_of_keyword {keyword : Keyword}
    (found : Keyword.ofParts? (TagParts.ofBody body) = some keyword) :
    TagForm.ofTag (tagAt lines start 2 body) = .keyword keyword := by
  simp only [TagForm.ofTag, tagAt, found]
  rfl

/-- A tag between two braces without a keyword has the form of its sigil. -/
theorem form_of_sigil (missing : Keyword.ofParts? (TagParts.ofBody body) = none) :
    TagForm.ofTag (tagAt lines start 2 body) = .ofSigil (TagParts.ofBody body).sigil := by
  simp only [TagForm.ofTag, tagAt, missing]
  rfl

end Tag

/-- The readings of the pieces of a template, and the surroundings behind the last piece. -/
def readPieces (options : Options) (lines : LineTable) (surroundings : Surroundings) :
    List (Nat × Piece) → List Reading × Surroundings
  | [] => ([], surroundings)
  | (start, .content text) :: rest =>
    let (readings, last) := readPieces options lines surroundings rest
    (⟨[contentToken lines start text], [], surroundings.blocks⟩ :: readings, last)
  | (start, .tag braces body) :: rest =>
    let tag := tagAt lines start braces body
    let reading := Progress.readTag options lines tag surroundings
    let (readings, last) := readPieces options lines (surroundings.after tag reading) rest
    (reading :: readings, last)

namespace Progress

variable {options : Options} {lines : LineTable}

/-- The reading of a tag is added without a breach. -/
theorem addReading_ok {tag : Tag} {reading : Reading} (gives : tag.Gives lines reading.tokens)
    (progress : Progress) : progress.addReading tag reading =
      .ok ⟨progress.tokens ++ reading.tokens, progress.findings ++ reading.findings,
        progress.surroundings.after tag reading⟩ := by
  have inside : (reading.tokens.find? fun token => token.span.stop > tag.span.stop) = none := by
    apply List.find?_eq_none.2
    intro token member
    have bound := gives.stop_le token member
    simpa using bound
  unfold addReading
  rw [inside]
  rfl

/-- Reading the pieces one by one never breaks off, and gives what the recursion over them
gives. -/
theorem foldlM_addPiece (ready : options.ReadyMade) (lines : LineTable)
    (pieces : List (Nat × Piece)) (progress : Progress) : ∃ last,
      pieces.foldlM (addPiece options lines) progress = .ok last ∧
      last.tokens.toList = progress.tokens.toList ++
        (readPieces options lines progress.surroundings pieces).1.flatMap Reading.tokens ∧
      last.findings.toList = progress.findings.toList ++
        (readPieces options lines progress.surroundings pieces).1.flatMap Reading.findings ∧
      last.surroundings = (readPieces options lines progress.surroundings pieces).2 := by
  induction pieces generalizing progress with
  | nil => exact ⟨progress, rfl, (List.append_nil _).symm, (List.append_nil _).symm, rfl⟩
  | cons piece rest induction =>
    obtain ⟨start, piece⟩ := piece
    cases piece with
    | content text =>
      obtain ⟨last, read, tokens, findings, surroundings⟩ :=
        induction (progress.addContent lines start text)
      refine ⟨last, read, ?_, findings, surroundings⟩
      rw [tokens]
      simp [readPieces, addContent, contentToken]
    | tag braces body =>
      let tag := tagAt lines start braces body
      let reading := readTag options lines tag progress.surroundings
      have gives : tag.Gives lines reading.tokens :=
        Tag.readTag_gives ready progress.surroundings
      have added := addReading_ok gives progress
      obtain ⟨last, read, tokens, findings, surroundings⟩ := induction
        ⟨progress.tokens ++ reading.tokens, progress.findings ++ reading.findings,
          progress.surroundings.after tag reading⟩
      refine ⟨last, ?_, ?_, ?_, surroundings⟩
      · rw [List.foldlM_cons]
        have taken : progress.addPiece options lines (start, .tag braces body) =
            progress.addReading tag reading := rfl
        rw [taken, added]
        exact read
      · rw [Array.toList_appendList, List.append_assoc] at tokens
        exact tokens
      · rw [Array.toList_appendList, List.append_assoc] at findings
        exact findings

end Progress

namespace Lexed

/-- Where all providers are ready-made, a template is read to its end. -/
theorem ofLines_ok {options : Options} (ready : options.ReadyMade) (lines : LineTable) :
    ofLines options lines = .ok
      (let (readings, last) := readPieces options lines
        ⟨OpenBlocks.empty, options.partials, false⟩ (Piece.withOffsets 0 (Piece.cut lines.source))
      { tokens := readings.flatMap Reading.tokens
        findings := readings.flatMap Reading.findings ++
          last.blocks.entries.map OpenBlock.unclosed }) := by
  obtain ⟨last, read, tokens, findings, surroundings⟩ := Progress.foldlM_addPiece ready lines
    (Piece.withOffsets 0 (Piece.cut lines.source)) (Progress.start options)
  have whole : ofLines options lines = .ok (ofProgress last) := by
    unfold ofLines
    dsimp only
    rw [read]
    rfl
  rw [whole, ofProgress, tokens, findings, surroundings]
  rfl

end Lexed

namespace Template

/-- The readings of the pieces of a template, and the surroundings at its end. -/
def readings (options : Options) (template : Text) : List Reading × Surroundings :=
  readPieces options (LineTable.ofSource template) ⟨OpenBlocks.empty, options.partials, false⟩
    (Piece.withOffsets 0 (Piece.cut template))

/-- Everything that is found wrong with a template: what is found in its tags, and then the
blocks that are never closed. -/
def findings (options : Options) (template : Text) : List Finding :=
  (readings options template).1.flatMap Reading.findings ++
    (readings options template).2.blocks.entries.map OpenBlock.unclosed

/-- Where all providers are ready-made, the tokens of a template are those of its readings. -/
theorem tokenize_ok {options : Options} (ready : options.ReadyMade) (template : Text) :
    tokenize options template = .ok
      { tokens := (readings options template).1.flatMap Reading.tokens
        diagnostics := (findings options template).map
          (Diagnostic.place (LineTable.ofSource template)) } := by
  unfold tokenize
  dsimp only
  rw [Lexed.ofLines_ok ready]
  rfl

/-- Where all providers are ready-made, a template has a document exactly when nothing is found
wrong with it and its tokens build the document. -/
theorem parse_document_iff {options : Options} (ready : options.ReadyMade) {template : Text}
    {document : Document} {diagnostics : List Diagnostic} :
    parse options template = .ok ⟨some document, diagnostics⟩ ↔
      findings options template = [] ∧ diagnostics = [] ∧
        Document.ofTokens options ((readings options template).1.flatMap Reading.tokens) =
          .ok document := by
  unfold parse
  rw [tokenize_ok ready]
  cases found : findings options template with
  | nil =>
    cases built : Document.ofTokens options
        ((readings options template).1.flatMap Reading.tokens) with
    | error breach => simp [bind, Except.bind, built]
    | ok made =>
      simp [bind, Except.bind, built, pure, Except.pure, and_comm, eq_comm]
  | cons first rest => simp [bind, Except.bind, pure, Except.pure]

/-- Where all providers are ready-made, a template with which anything is found wrong has no
document, and all of it is reported. -/
theorem parse_refused {options : Options} (ready : options.ReadyMade) {template : Text}
    (wrong : findings options template ≠ []) :
    parse options template = .ok ⟨none, (findings options template).map
      (Diagnostic.place (LineTable.ofSource template))⟩ := by
  rw [parse, tokenize_ok ready]
  obtain ⟨first, rest, found⟩ := List.exists_cons_of_ne_nil wrong
  rw [found]
  rfl

/-- A document that a template is checked to have is one that it is read as. -/
theorem exists_document_of_any {options : Options} {template : Text} {check : Document → Bool}
    (found : ((parse options template).toOption.bind ParseResult.document).any check = true) :
    ∃ document diagnostics, parse options template = .ok ⟨some document, diagnostics⟩ ∧
      check document = true := by
  cases parsed : parse options template with
  | error breach => simp [parsed, Except.toOption] at found
  | ok result =>
    obtain ⟨document?, diagnostics⟩ := result
    cases document? with
    | none => simp [parsed, Except.toOption] at found
    | some document =>
      have passed : check document = true := by simpa [parsed, Except.toOption] using found
      exact ⟨document, diagnostics, rfl, passed⟩

end Template

end Bracework
