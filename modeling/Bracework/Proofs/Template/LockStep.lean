import Bracework.Proofs.Lexer.Readings
import Bracework.Proofs.Template.Moves

/-!
# Two stacks in lock step

Two stacks follow the blocks of a template. The one kept while tags are read holds labels and is
asked whether a closing tag matches; the one kept while the document is built holds nodes and is
never asked. Where nothing is found wrong with a template, the second does what the first has
checked: tags that are read without a finding give tokens that move the kinds of the open blocks
as the reading does, and the nodes under construction move in step.

A tag of a provider needs more. It is read by the first provider that takes its keyword in any
case, and built by the first whose keyword is spelled the same. The two are one provider, since
whatever builds the token would have read the tag.
-/

namespace Bracework

namespace Options

/-- Every provider is a ready-made one, and its keyword is a word of ASCII letters. -/
def Worded (options : Options) : Prop :=
  ∀ provider ∈ options.providers, ∃ keyword : Text, keyword ≠ [] ∧ keyword.all isAsciiLetter ∧
    (provider = TagProvider.leaf keyword ∨ provider = TagProvider.block keyword)

/-- Providers with such keywords are ready-made ones. -/
theorem Worded.readyMade {options : Options} (worded : options.Worded) : options.ReadyMade := by
  intro provider member
  obtain ⟨keyword, -, -, made⟩ := worded provider member
  exact ⟨keyword, made⟩

end Options

/-! ### Reading -/

namespace OpenBlocks

/-- The kinds of the open blocks, the innermost first. -/
def kinds (blocks : OpenBlocks) : List BlockKind := blocks.entries.map fun entry => entry.label.kind

/-- A closing tag that is not reported closes the innermost block, which it accepts. -/
theorem closeExpecting_clean {blocks : OpenBlocks} {accepts : BlockLabel → Bool} {start : Nat}
    {keyword expected : Text}
    (clean : (blocks.closeExpecting accepts start keyword expected).findings = []) :
    ∃ label, accepts label = true ∧ blocks.kinds =
      label.kind :: (blocks.closeExpecting accepts start keyword expected).blocks.kinds := by
  obtain ⟨entries⟩ := blocks
  cases entries with
  | nil => simp [closeExpecting, popIf?] at clean
  | cons entry rest =>
    by_cases accepted : accepts entry.label = true
    · refine ⟨entry.label, accepted, ?_⟩
      simp [closeExpecting, popIf?, accepted, kinds]
    · simp [closeExpecting, popIf?, accepted] at clean

end OpenBlocks

namespace Tag

open Token

variable {options : Options} {tag : Tag} {lines : LineTable} {blocks : OpenBlocks}

/-- A block without a name opens a block of its kind. -/
theorem readUnnamedBlock_moves (kind : ScopeKind) (written : Located) :
    MoveAll options blocks.kinds (tag.readUnnamedBlock kind written blocks).tokens
      (tag.readUnnamedBlock kind written blocks).blocks.kinds :=
  .single (.opens rfl rfl)

/-- A block with a name opens a block of its kind, and the name moves nothing. -/
theorem readNamedBlock_moves (kind : ScopeKind) (written name : Located)
    (behavior : Option ScopeBehavior) :
    MoveAll options blocks.kinds
      (tag.readNamedBlock lines kind written name behavior blocks).tokens
      (tag.readNamedBlock lines kind written name behavior blocks).blocks.kinds :=
  .step (.opens rfl rfl) (.single (.quiet rfl))

/-- A block with a keyword opens a block of its kind. -/
theorem readBlock_moves (kind : ScopeKind) :
    MoveAll options blocks.kinds (tag.readBlock lines kind blocks).tokens
      (tag.readBlock lines kind blocks).blocks.kinds := by
  unfold readBlock
  dsimp only
  split
  · exact readUnnamedBlock_moves kind _
  · split
    · exact readNamedBlock_moves kind _ _ _
    · split
      · exact readUnnamedBlock_moves kind _
      · exact readUnnamedBlock_moves kind _

/-- A block that a path opens is of its kind, with or without a name. -/
theorem readPathBlock_moves (kind : ScopeKind) :
    MoveAll options blocks.kinds (tag.readPathBlock lines kind blocks).tokens
      (tag.readPathBlock lines kind blocks).blocks.kinds := by
  unfold readPathBlock
  dsimp only
  split
  · exact readNamedBlock_moves kind _ _ _
  · exact readUnnamedBlock_moves kind _

/-- The closing tag of a block that a path opened closes such a block, if it is not reported. -/
theorem readPathClose_moves (clean : (tag.readPathClose blocks).findings = []) :
    MoveAll options blocks.kinds (tag.readPathClose blocks).tokens
      (tag.readPathClose blocks).blocks.kinds := by
  obtain ⟨label, accepted, shape⟩ := OpenBlocks.closeExpecting_clean clean
  rw [shape]
  have scope : label.kind = .scope := by
    simp only [Bool.and_eq_true, beq_iff_eq] at accepted
    exact accepted.1
  refine .single (.closes rfl ?_)
  rw [scope]
  rfl

/-- A closing tag with a keyword closes a block that it ends, if it is not reported. -/
theorem readClose_moves (closer : Closer) (clean : (tag.readClose closer blocks).findings = []) :
    MoveAll options blocks.kinds (tag.readClose closer blocks).tokens
      (tag.readClose closer blocks).blocks.kinds := by
  obtain ⟨label, accepted, shape⟩ :=
    OpenBlocks.closeExpecting_clean (List.append_eq_nil_iff.1 clean).2
  rw [shape]
  exact .single (.closes rfl accepted)

/-- Going over to the other case closes an if block and opens the other, if it is not
reported. -/
theorem readIfOtherwise_moves (clean : (tag.readIfOtherwise blocks).findings = []) :
    MoveAll options blocks.kinds (tag.readIfOtherwise blocks).tokens
      (tag.readIfOtherwise blocks).blocks.kinds := by
  obtain ⟨label, accepted, shape⟩ :=
    OpenBlocks.closeExpecting_clean (List.append_eq_nil_iff.1 clean).2
  rw [shape]
  exact .step (.closes rfl accepted) (.single (.opens rfl rfl))

/-- A binding moves nothing. -/
theorem readAssignment_moves (durable : Bool) :
    MoveAll options blocks.kinds (tag.readAssignment durable blocks).tokens
      (tag.readAssignment durable blocks).blocks.kinds := by
  unfold readAssignment
  split
  · exact .single (.quiet rfl)
  · exact .single (.quiet rfl)

/-- A tag of a built-in form with nothing wrong in it moves the kinds of the open blocks as its
tokens do. -/
theorem readForm_moves (surroundings : Surroundings) (form : TagForm)
    (clean : (tag.readForm lines surroundings form).findings = []) :
    MoveAll options surroundings.blocks.kinds (tag.readForm lines surroundings form).tokens
      (tag.readForm lines surroundings form).blocks.kinds := by
  cases form with
  | keyword keyword =>
    cases keyword with
    | declaration => exact .single (.declares rfl)
    | inclusion => exact .single (.quiet rfl)
    | block kind => exact readBlock_moves kind
    | close closer => exact readClose_moves closer clean
    | otherwise => exact .single (.opens rfl rfl)
    | ifOtherwise => exact readIfOtherwise_moves clean
    | assignment durable => exact readAssignment_moves durable
    | edit operation => exact .single (.quiet rfl)
  | tripleValue => exact .single (.quiet rfl)
  | rawValue => exact .single (.quiet rfl)
  | comment => exact .single (.quiet rfl)
  | invertedBlock => exact readPathBlock_moves .inverted
  | pathBlock => exact readPathBlock_moves .expression
  | pathClose => exact readPathClose_moves clean
  | value => exact .single (.quiet rfl)

end Tag

/-! ### Tags of providers -/

namespace Options

variable {options : Options} {tag : Tag} {token : Token} {provider : TagProvider} {keyword : Text}

/-- The provider that reads a tag builds its token, if all providers that build the token would
read the tag. -/
theorem builder?_of_reader? (read : options.reader? tag = some provider)
    (builds : provider.assembles token = true)
    (claims : ∀ other ∈ options.providers, other.assembles token = true →
      other.recognizes tag = true) : options.builder? token = some provider := by
  obtain ⟨-, before, after, providers, earlier⟩ := List.find?_eq_some_iff_append.1 read
  refine List.find?_eq_some_iff_append.2 ⟨builds, before, after, providers, ?_⟩
  intro other member
  have listed : other ∈ options.providers := by
    rw [providers]
    exact List.mem_append_left _ member
  by_cases taken : other.assembles token = true
  · have passed := earlier other member
    rw [claims other listed taken] at passed
    simp at passed
  · simpa using taken

/-- A provider that builds the opening token of a keyword reads its opening tag. -/
theorem recognizes_opening (ready : options.ReadyMade) (named : token.kind = .custom keyword)
    (word : keyword.all isAsciiLetter) (opens : TagProvider.opensWith .hash keyword tag = true) :
    ∀ other ∈ options.providers, other.assembles token = true → other.recognizes tag = true := by
  intro other member builds
  obtain ⟨spelled, rfl | rfl⟩ := ready other member
  · obtain rfl : keyword = spelled := by
      simpa [TagProvider.leaf, named] using builds
    exact opens
  · simp only [TagProvider.block, named, TagProvider.closingKind, Bool.or_eq_true, beq_iff_eq,
      TokenKind.custom.injEq] at builds ⊢
    rcases builds with rfl | rfl
    · exact Or.inl opens
    · have letter : isAsciiLetter '/' = false := by decide
      simp [letter] at word

/-- A provider that builds the closing token of a keyword reads its closing tag. -/
theorem recognizes_closing (worded : options.Worded)
    (named : token.kind = TagProvider.closingKind keyword)
    (closes : TagProvider.opensWith .slash keyword tag = true) :
    ∀ other ∈ options.providers, other.assembles token = true → other.recognizes tag = true := by
  have letter : isAsciiLetter '/' = false := by decide
  intro other member builds
  obtain ⟨spelled, -, word, rfl | rfl⟩ := worded other member
  · obtain rfl : '/' :: keyword = spelled := by
      simpa [TagProvider.leaf, named, TagProvider.closingKind] using builds
    simp [letter] at word
  · simp only [TagProvider.block, named, TagProvider.closingKind, Bool.or_eq_true, beq_iff_eq,
      TokenKind.custom.injEq] at builds ⊢
    rcases builds with rfl | same
    · simp [letter] at word
    · obtain rfl : keyword = spelled := (List.cons.inj same).2
      exact Or.inr closes

/-- The tag of a leaf moves nothing, if the keyword of its provider is a word. -/
theorem leaf_moves (ready : options.ReadyMade) (word : keyword.all isAsciiLetter)
    (read : options.reader? tag = some (TagProvider.leaf keyword)) (partials : List Text)
    (blocks : OpenBlocks) :
    Token.MoveAll options blocks.kinds
      ((TagProvider.leaf keyword).read partials tag blocks).tokens
      ((TagProvider.leaf keyword).read partials tag blocks).blocks.kinds := by
  have opens : TagProvider.opensWith .hash keyword tag = true :=
    (List.find?_eq_some_iff_append.1 read).1
  refine .single (.leaf rfl word ?_)
  exact builder?_of_reader? read (by simp [TagProvider.leaf, Tag.token, Token.plain])
    (recognizes_opening ready rfl word opens)

/-- The opening tag of a provider's block opens a block of its kind, if the keyword of the
provider is a word. -/
theorem opening_moves (ready : options.ReadyMade) (word : keyword.all isAsciiLetter)
    (read : options.reader? tag = some (TagProvider.block keyword))
    (opens : TagProvider.opensWith .hash keyword tag = true) (blocks : OpenBlocks) :
    Token.MoveAll options blocks.kinds (TagProvider.readOpening keyword tag blocks).tokens
      (TagProvider.readOpening keyword tag blocks).blocks.kinds := by
  refine .single (.opensCustom rfl word ?_)
  exact builder?_of_reader? read (by simp [TagProvider.block, Tag.token, Token.plain])
    (recognizes_opening ready rfl word opens)

/-- A closing tag of a provider's block that is not reported closes a block of its kind. -/
theorem readClosing_clean {blocks : OpenBlocks}
    (clean : (TagProvider.readClosing keyword tag blocks).findings = []) :
    blocks.kinds = .custom keyword :: (TagProvider.readClosing keyword tag blocks).blocks.kinds := by
  obtain ⟨label, accepted, shape⟩ :=
    OpenBlocks.closeExpecting_clean (List.append_eq_nil_iff.1 clean).2
  rw [shape, beq_iff_eq.1 accepted]
  rfl

/-- A tag of a provider's block is its opening tag or its closing tag, and is read as such. -/
theorem read_block (recognized : (TagProvider.block keyword).recognizes tag = true)
    (partials : List Text) (blocks : OpenBlocks) :
    (TagProvider.opensWith .hash keyword tag = true ∧
      (TagProvider.block keyword).read partials tag blocks =
        TagProvider.readOpening keyword tag blocks) ∨
    (TagProvider.opensWith .slash keyword tag = true ∧
      (TagProvider.block keyword).read partials tag blocks =
        TagProvider.readClosing keyword tag blocks) := by
  by_cases opens : TagProvider.opensWith .hash keyword tag = true
  · exact Or.inl ⟨opens, by simp only [TagProvider.block, opens, if_true]⟩
  · have closes : TagProvider.opensWith .slash keyword tag = true := by
      simpa [TagProvider.block, opens] using recognized
    exact Or.inr ⟨closes, by simp only [TagProvider.block, opens, Bool.false_eq_true, if_false]⟩

/-- A tag of a provider with nothing wrong in it moves the kinds of the open blocks as its token
does. -/
theorem provider_moves (worded : options.Worded) (read : options.reader? tag = some provider)
    (partials : List Text) (blocks : OpenBlocks)
    (clean : (provider.read partials tag blocks).findings = []) :
    Token.MoveAll options blocks.kinds (provider.read partials tag blocks).tokens
      (provider.read partials tag blocks).blocks.kinds := by
  have recognized : provider.recognizes tag = true := (List.find?_eq_some_iff_append.1 read).1
  obtain ⟨keyword, -, word, rfl | rfl⟩ := worded provider (List.mem_of_find?_eq_some read)
  · exact leaf_moves worded.readyMade word read partials blocks
  · obtain ⟨opens, reading⟩ | ⟨closes, reading⟩ := read_block recognized partials blocks
    · rw [reading]
      exact opening_moves worded.readyMade word read opens blocks
    · rw [reading] at clean ⊢
      rw [readClosing_clean clean]
      refine .single (.closesCustom rfl word ?_)
      exact builder?_of_reader? read
        (by simp [TagProvider.block, Tag.token, Token.plain, TagProvider.closingKind])
        (recognizes_closing worded rfl closes)

end Options

/-! ### Templates -/

namespace Template

open Token

variable {options : Options}

/-- A tag with nothing wrong in it moves the kinds of the open blocks as its tokens do. -/
theorem readTag_moves (worded : options.Worded) {lines : LineTable} {tag : Tag}
    {surroundings : Surroundings}
    (clean : (Progress.readTag options lines tag surroundings).findings = []) :
    MoveAll options surroundings.blocks.kinds
      (Progress.readTag options lines tag surroundings).tokens
      (Progress.readTag options lines tag surroundings).blocks.kinds := by
  obtain ⟨provider, read, reading⟩ | reading := Tag.readTag_cases options tag lines surroundings
  · rw [reading] at clean ⊢
    exact Options.provider_moves worded read _ _ clean
  · rw [reading] at clean ⊢
    exact Tag.readForm_moves surroundings _ clean

/-- Pieces with nothing wrong in them move the kinds of the open blocks as their tokens do. -/
theorem readPieces_moves (worded : options.Worded) {lines : LineTable}
    (places : List (Nat × Piece)) (surroundings : Surroundings)
    (clean : (readPieces options lines surroundings places).1.flatMap Reading.findings = []) :
    MoveAll options surroundings.blocks.kinds
      ((readPieces options lines surroundings places).1.flatMap Reading.tokens)
      (readPieces options lines surroundings places).2.blocks.kinds := by
  induction places generalizing surroundings with
  | nil => exact .done
  | cons place rest induction =>
    obtain ⟨start, piece⟩ := place
    cases piece with
    | content text => exact .step (.quiet rfl) (induction surroundings clean)
    | tag braces body =>
      obtain ⟨here, later⟩ := List.append_eq_nil_iff.1 clean
      exact (readTag_moves worded here).append (induction _ later)

/-- Where nothing is found wrong with a template, no block is open at its end. -/
theorem kinds_at_end {template : Text} (clean : findings options template = []) :
    (readings options template).2.blocks.kinds = [] := by
  obtain ⟨-, unclosed⟩ := List.append_eq_nil_iff.1 clean
  rw [OpenBlocks.kinds, List.map_eq_nil_iff.1 unclosed]
  rfl

/-- The tokens of a template with nothing wrong in it open and close blocks until none is open. -/
theorem tokens_moveAll (worded : options.Worded) {template : Text}
    (clean : findings options template = []) :
    MoveAll options [] ((readings options template).1.flatMap Reading.tokens) [] := by
  have moves : MoveAll options [] ((readings options template).1.flatMap Reading.tokens)
      (readings options template).2.blocks.kinds :=
    readPieces_moves worded _ _ (List.append_eq_nil_iff.1 clean).1
  rw [kinds_at_end clean] at moves
  exact moves

/-- Tokens that open and close blocks until none is open leave no block open in the document, and
each closing token closes a node of its kind. -/
theorem built_of_moveAll {tokens : List Token} (moves : MoveAll options [] tokens []) :
    (tokens.foldl (Construction.addToken options) Construction.start).stack.blocks = [] ∧
    ∀ before close after, tokens = before ++ close :: after → close.kind.IsClosing →
      (before.foldl (Construction.addToken options) Construction.start).ClosesBlock options
        close := by
  have start : Construction.InStep [] Construction.start := .nil
  constructor
  · have opened := List.forall₂_nil_left_iff.1 (start.run moves)
    exact List.map_eq_nil_iff.1 opened
  · intro before close after split closing
    rw [split] at moves
    obtain ⟨middle, left, right⟩ := moves.cut
    obtain _ | ⟨here, later⟩ := right
    exact (start.run left).closesBlock here closing

/-- Tokens, diagnostics and a document answer the three questions about a template alike. -/
structure Answers (options : Options) (template : Text) (tokens : List Token)
    (diagnostics : List Diagnostic) (document : Option Document) : Prop where
  tokenized : tokenize options template = .ok ⟨tokens, diagnostics⟩
  validated : validate options template = .ok diagnostics
  parsed : parse options template = .ok ⟨document, diagnostics⟩
  /-- There is a document exactly when nothing is wrong. -/
  document_iff : document.isSome ↔ diagnostics = []
  /-- When nothing is wrong, no block is left open behind the last token. -/
  closed : diagnostics = [] →
    (tokens.foldl (Construction.addToken options) Construction.start).stack.blocks = []
  /-- When nothing is wrong, each closing token closes a node of its kind. -/
  closes : diagnostics = [] → ∀ before close after, tokens = before ++ close :: after →
    close.kind.IsClosing →
    (before.foldl (Construction.addToken options) Construction.start).ClosesBlock options close

/-- The three questions about a template are answered alike, and never with a breach. Its
findings are the same for each, and it has a document exactly when there are none. Where nothing
is found, the blocks of the document are closed at the end, and each closing token has closed a
node of its kind.

Proof: a template without findings gives tokens that move the kinds of the open blocks from none
to none. The nodes of the document under construction move in step with them. -/
theorem answers_agree (options : Options) (template : Text) (worded : options.Worded) :
    ∃ tokens diagnostics document, Answers options template tokens diagnostics document := by
  have tokenized := tokenize_ok worded.readyMade template
  have validated : validate options template = .ok ((findings options template).map
      (Diagnostic.place (LineTable.ofSource template))) := by
    rw [validate, tokenized]
    rfl
  cases found : findings options template with
  | nil =>
    obtain ⟨closed, closes⟩ := built_of_moveAll (tokens_moveAll worded found)
    rw [found] at tokenized validated
    obtain ⟨document, built⟩ : ∃ document, Document.ofTokens options
        ((readings options template).1.flatMap Reading.tokens) = .ok document := by
      rw [Document.ofTokens, BuildStack.toDocument, closed]
      exact ⟨_, rfl⟩
    have parsed : parse options template = .ok ⟨some document, []⟩ := by
      rw [parse, tokenized]
      simp only [bind, Except.bind, built]
      rfl
    exact ⟨_, _, some document, tokenized, validated, parsed, by simp, fun _ => closed,
      fun _ => closes⟩
  | cons first rest =>
    rw [found] at tokenized validated
    have parsed : parse options template = .ok ⟨none, (first :: rest).map
        (Diagnostic.place (LineTable.ofSource template))⟩ := by
      rw [parse, tokenized]
      rfl
    refine ⟨_, _, none, tokenized, validated, parsed, by simp, ?_, ?_⟩
    · simp
    · simp

/-- A keyword in another case is read by the first provider that takes it, and built by the
same. -/
theorem answers_agree_other_case :
    let options : Options :=
      ⟨["row"], [TagProvider.leaf "Now", TagProvider.block "now", TagProvider.block "section"]⟩
    let template := tagSource 2 "#SECTION a" ++ tagSource 2 "#now" ++ tagSource 2 "#if b" ++
      tagSource 2 "#ifelse" ++ tagSource 2 "/else" ++ tagSource 2 "/Section"
    options.Worded ∧
      ∃ tokens diagnostics document, Answers options template tokens diagnostics document := by
  intro options template
  have worded : options.Worded := by
    intro provider member
    simp only [options, List.mem_cons, List.not_mem_nil, or_false] at member
    rcases member with rfl | rfl | rfl
    · exact ⟨"Now", by decide, by decide, Or.inl rfl⟩
    · exact ⟨"now", by decide, by decide, Or.inr rfl⟩
    · exact ⟨"section", by decide, by decide, Or.inr rfl⟩
  exact ⟨worded, answers_agree options template worded⟩

end Template

end Bracework
