import Bracework.Proofs.Template.LockStep
import Bracework.Proofs.Text.Words

/-!
# Closing tokens that another provider builds

The keyword of a provider may be any text. A tag is read by a provider only if its keyword is a
word, but a token is built by the first provider whose keyword is spelled the same, and one
spelled with a slash in front takes the closing tokens of a block. The reading has closed the
block then, and the construction has not.

From there on more nodes are under construction than blocks are open in the reading, whatever
follows, so one is left at the end and there is no document. A template that has a document
therefore moves the kinds of its blocks as its reading does, whatever the keywords of its
providers are.
-/

namespace Bracework

/-! ### Runs with and without such tokens -/

namespace Token

/-- The closing token of a block is built by a provider that does not close the block. -/
def StraysFrom (options : Options) (keyword : Text) (token : Token) : Prop :=
  token.kind = TagProvider.closingKind keyword ∧
    (options.builder? token = some (.leaf ('/' :: keyword)) ∨
      options.builder? token = some (.block ('/' :: keyword)))

/-- How the reading of tokens moves the kinds of the open blocks, whoever builds the tokens. -/
inductive Runs (options : Options) : List BlockKind → List Token → List BlockKind → Prop
  | done {kinds : List BlockKind} : Runs options kinds [] kinds
  | moves {before middle after : List BlockKind} {token : Token} {rest : List Token}
      (first : Moves options before token middle) (later : Runs options middle rest after) :
      Runs options before (token :: rest) after
  | strays {kinds after : List BlockKind} {keyword : Text} {token : Token} {rest : List Token}
      (first : token.StraysFrom options keyword) (later : Runs options kinds rest after) :
      Runs options (.custom keyword :: kinds) (token :: rest) after

variable {options : Options} {before middle after : List BlockKind} {tokens : List Token}
  {token : Token} {keyword : Text}

/-- Tokens that move kinds run along them. -/
theorem MoveAll.runs (moves : MoveAll options before tokens after) :
    Runs options before tokens after := by
  induction moves with
  | done => exact .done
  | step first later induction => exact .moves first induction

/-- Runs one behind the other. -/
theorem Runs.append {first second : List Token} (left : Runs options before first middle)
    (right : Runs options middle second after) : Runs options before (first ++ second) after := by
  induction left with
  | done => exact right
  | moves here later induction => exact .moves here (induction right)
  | strays here later induction => exact .strays here (induction right)

/-- A closing token that another provider builds closes nothing. -/
theorem StraysFrom.opened_le (strays : token.StraysFrom options keyword)
    (construction : Construction) :
    construction.stack.opened.length ≤
      (construction.addToken options token).stack.opened.length := by
  obtain ⟨named, leaf | block⟩ := strays
  · rw [Construction.addToken_custom named leaf]
    simp [TagProvider.leaf, Construction.pushChild]
  · rw [Construction.addToken_opensCustom named block]
    simp [Construction.openScope, BuildStack.opened, BuildStack.openBlock]

/-- A token that moves kinds opens a node for each kind that it opens, and closes at most one for
each kind that it closes. -/
theorem Moves.gains (moves : Moves options before token after) (construction : Construction) :
    after.length + construction.stack.opened.length ≤
      before.length + (construction.addToken options token).stack.opened.length := by
  cases moves with
  | quiet silent => rw [Construction.opened_addToken_quiet silent]
  | opens opening same =>
    have standard : token.IsStandard := by simp [Token.IsStandard, opening]
    rw [Construction.opened_addToken standard, Nesting.after, opening]
    simp only [Construction.nesting, List.length_cons]
    omega
  | declares opening =>
    have standard : token.IsStandard := by simp [Token.IsStandard, opening]
    rw [Construction.opened_addToken standard, Nesting.after, opening]
    simp only [Construction.nesting, List.length_cons]
    omega
  | closes closing ends =>
    have standard : token.IsStandard := by simp [Token.IsStandard, closing]
    rw [Construction.opened_addToken standard, Nesting.after, closing]
    simp only [Construction.nesting, List.length_cons, List.length_tail]
    omega
  | leaf named word built =>
    rw [Construction.addToken_custom named built]
    simp [TagProvider.leaf, Construction.pushChild]
  | opensCustom named word built =>
    rw [Construction.addToken_opensCustom named built]
    simp only [Construction.openScope, BuildStack.opened, BuildStack.openBlock, List.map_cons,
      List.length_cons]
    omega
  | closesCustom named word built =>
    rw [Construction.addToken_closesCustom named built]
    simp only [Construction.close, BuildStack.opened_close, List.length_cons, List.length_tail]
    omega

/-- Whoever builds the tokens of a run, the construction never loses nodes to the reading. -/
theorem Runs.gains (runs : Runs options before tokens after) (construction : Construction) :
    after.length + construction.stack.opened.length ≤
      before.length +
        (tokens.foldl (Construction.addToken options) construction).stack.opened.length := by
  induction runs generalizing construction with
  | done => exact Nat.le_refl _
  | @moves before middle after token rest first later induction =>
    have here := first.gains construction
    have whole := induction (construction.addToken options token)
    rw [List.foldl_cons]
    omega
  | @strays kinds after keyword token rest first later induction =>
    have here := first.opened_le construction
    have whole := induction (construction.addToken options token)
    rw [List.foldl_cons, List.length_cons]
    omega

/-- Either all tokens of a run move kinds, or the construction is ahead of the reading behind
it. -/
theorem Runs.moveAll_or_ahead (runs : Runs options before tokens after) :
    MoveAll options before tokens after ∨ ∀ construction : Construction,
      after.length + construction.stack.opened.length <
        before.length +
          (tokens.foldl (Construction.addToken options) construction).stack.opened.length := by
  induction runs with
  | done => exact Or.inl .done
  | @moves before middle after token rest first later induction =>
    rcases induction with all | ahead
    · exact Or.inl (.step first all)
    · right
      intro construction
      have here := first.gains construction
      have whole := ahead (construction.addToken options token)
      rw [List.foldl_cons]
      omega
  | @strays kinds after keyword token rest first later induction =>
    right
    intro construction
    have here := first.opened_le construction
    have whole := later.gains (construction.addToken options token)
    rw [List.foldl_cons, List.length_cons]
    omega

end Token

/-! ### Tags of providers -/

/-- A keyword of a tag is a word. -/
theorem TagParts.keyword_letters {body word : Text} (found : (ofBody body).keyword = some word) :
    word.all isAsciiLetter := by
  unfold ofBody at found
  split at found
  · simp at found
  · split at found
    · simp at found
    · dsimp only at found
      split at found
      · obtain rfl := Option.some.inj found
        exact List.all_takeWhile
      · simp at found

/-- A tag begins only with keywords that are words. -/
theorem TagProvider.opensWith_letters {sigil : Sigil} {keyword : Text} {tag : Tag}
    (opens : opensWith sigil keyword tag = true) : keyword.all isAsciiLetter := by
  simp only [opensWith, TagParts.is, Bool.and_eq_true, Option.any_eq_true] at opens
  obtain ⟨-, word, found, same⟩ := opens
  rw [← Text.sameWord_letters same]
  exact TagParts.keyword_letters found

namespace Options

variable {options : Options} {tag : Tag} {token : Token} {provider : TagProvider} {keyword : Text}

/-- The closing token of a block is built by the block's provider, or by one that does not close
the block. -/
theorem closing_built (ready : options.ReadyMade)
    (named : token.kind = TagProvider.closingKind keyword)
    (listed : TagProvider.block keyword ∈ options.providers) :
    options.builder? token = some (.block keyword) ∨ token.StraysFrom options keyword := by
  have taken : (options.builder? token).isSome := by
    rw [builder?, List.find?_isSome]
    exact ⟨_, listed, by simp [TagProvider.block, named]⟩
  obtain ⟨provider, built⟩ := Option.isSome_iff_exists.1 taken
  have builds : provider.assembles token = true := (List.find?_eq_some_iff_append.1 built).1
  obtain ⟨spelled, rfl | rfl⟩ := ready provider (List.mem_of_find?_eq_some built)
  · obtain rfl : '/' :: keyword = spelled := by
      simpa [TagProvider.leaf, named, TagProvider.closingKind] using builds
    exact Or.inr ⟨named, Or.inl built⟩
  · simp only [TagProvider.block, named, TagProvider.closingKind, Bool.or_eq_true, beq_iff_eq,
      TokenKind.custom.injEq] at builds
    rcases builds with rfl | same
    · exact Or.inr ⟨named, Or.inr built⟩
    · obtain rfl : keyword = spelled := (List.cons.inj same).2
      exact Or.inl built

/-- A tag of a provider with nothing wrong in it runs as its reading does. -/
theorem provider_runs (ready : options.ReadyMade) (read : options.reader? tag = some provider)
    (partials : List Text) (blocks : OpenBlocks)
    (clean : (provider.read partials tag blocks).findings = []) :
    Token.Runs options blocks.kinds (provider.read partials tag blocks).tokens
      (provider.read partials tag blocks).blocks.kinds := by
  have recognized : provider.recognizes tag = true := (List.find?_eq_some_iff_append.1 read).1
  have listed : provider ∈ options.providers := List.mem_of_find?_eq_some read
  obtain ⟨keyword, rfl | rfl⟩ := ready provider listed
  · exact (leaf_moves ready (TagProvider.opensWith_letters recognized) read partials blocks).runs
  · obtain ⟨opens, reading⟩ | ⟨closes, reading⟩ := read_block recognized partials blocks
    · rw [reading]
      exact (opening_moves ready (TagProvider.opensWith_letters opens) read opens blocks).runs
    · rw [reading] at clean ⊢
      rw [readClosing_clean clean]
      have word := TagProvider.opensWith_letters closes
      have built : options.builder? (tag.token (TagProvider.closingKind keyword) []) =
          some (.block keyword) ∨
          (tag.token (TagProvider.closingKind keyword) []).StraysFrom options keyword :=
        closing_built ready rfl listed
      obtain built | strays := built
      · exact .moves (.closesCustom rfl word built) .done
      · exact .strays strays .done

end Options

/-! ### Templates -/

namespace Template

open Token

variable {options : Options}

/-- A tag with nothing wrong in it runs as its reading does. -/
theorem readTag_runs (ready : options.ReadyMade) {lines : LineTable} {tag : Tag}
    {surroundings : Surroundings}
    (clean : (Progress.readTag options lines tag surroundings).findings = []) :
    Runs options surroundings.blocks.kinds
      (Progress.readTag options lines tag surroundings).tokens
      (Progress.readTag options lines tag surroundings).blocks.kinds := by
  obtain ⟨provider, read, reading⟩ | reading := Tag.readTag_cases options tag lines surroundings
  · rw [reading] at clean ⊢
    exact Options.provider_runs ready read _ _ clean
  · rw [reading] at clean ⊢
    exact (Tag.readForm_moves surroundings _ clean).runs

/-- Pieces with nothing wrong in them run as their readings do. -/
theorem readPieces_runs (ready : options.ReadyMade) {lines : LineTable}
    (places : List (Nat × Piece)) (surroundings : Surroundings)
    (clean : (readPieces options lines surroundings places).1.flatMap Reading.findings = []) :
    Runs options surroundings.blocks.kinds
      ((readPieces options lines surroundings places).1.flatMap Reading.tokens)
      (readPieces options lines surroundings places).2.blocks.kinds := by
  induction places generalizing surroundings with
  | nil => exact .done
  | cons place rest induction =>
    obtain ⟨start, piece⟩ := place
    cases piece with
    | content text => exact .moves (.quiet rfl) (induction surroundings clean)
    | tag braces body =>
      obtain ⟨here, later⟩ := List.append_eq_nil_iff.1 clean
      exact (readTag_runs ready here).append (induction _ later)

/-- The tokens of a template that has a document open and close blocks until none is open,
whatever the keywords of the providers are.

Proof: the readings of the template run from no open block to none. Were one closing token built
by another provider, the construction would be ahead of the reading at the end, and a block would
still be open. -/
theorem moveAll_of_document (ready : options.ReadyMade) {template : Text} {document : Document}
    (clean : findings options template = [])
    (built : Document.ofTokens options ((readings options template).1.flatMap Reading.tokens) =
      .ok document) :
    MoveAll options [] ((readings options template).1.flatMap Reading.tokens) [] := by
  have runs : Runs options [] ((readings options template).1.flatMap Reading.tokens)
      (readings options template).2.blocks.kinds :=
    readPieces_runs ready _ _ (List.append_eq_nil_iff.1 clean).1
  rw [kinds_at_end clean] at runs
  rcases runs.moveAll_or_ahead with moves | ahead
  · exact moves
  · have finished := ahead Construction.start
    have opened : (((readings options template).1.flatMap Reading.tokens).foldl
        (Construction.addToken options) Construction.start).stack.opened = [] := by
      by_contra stillOpen
      rw [Document.ofTokens, BuildStack.toDocument_of_open stillOpen] at built
      cases built
    simp [opened] at finished

end Template

end Bracework
