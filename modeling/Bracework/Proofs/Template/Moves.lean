import Mathlib.Data.List.Forall2
import Bracework.Extension.Standard
import Bracework.Lexer.Builtin
import Bracework.Proofs.Assembly.Events

/-!
# Moves of the open blocks

A token may open a block, close one, or leave the open blocks alone. Its move says which, for the
kinds of the open blocks and nothing else of them. Building a document asks no questions about
kinds, but from tokens that move kinds it builds nodes in step with them: at every token the
nodes under construction are as many as the kinds, and each is of its kind. A closing token then
meets a node that it may close.

A token of a provider moves kinds only as the provider that builds it does.
-/

namespace Bracework

/-! ### Kinds, nodes and closing tokens -/

/-- A node is of the kind of a block's label. -/
inductive BlockKind.Matches : BlockKind → Node → Prop
  | scope {block : BlockKind} {kind : ScopeKind} {condition : Option Expression} {scopeId : Nat}
      {children : List Node} (same : kind.blockKind = block) :
      Matches block (.scope kind condition scopeId children)
  | declaration {name : Text} {scopeId : Nat} {children : List Node} :
      Matches .declaration (.declaration name scopeId children)
  | custom {tag value : Text} {scopeId : Nat} {children : List Node} :
      Matches (.custom tag) (.custom tag value (some scopeId) children)

/-- A token of a kind closes a block. The closing tokens of providers are named by a slash and the
keyword. -/
def TokenKind.IsClosing (kind : TokenKind) : Prop :=
  (∃ closer, kind = .closes closer) ∨ ∃ tag, kind = .custom ('/' :: tag)

/-- Whether tokens of a kind neither open nor close a block, and no provider builds them. -/
def TokenKind.isQuiet : TokenKind → Bool
  | .opens _ => false
  | .declares => false
  | .closes _ => false
  | .custom _ => false
  | _ => true

/-- What a closing tag of blocks of a kind closes. -/
def ScopeKind.closer : ScopeKind → Closer
  | .ifTrue => .ifBlock
  | .ifNot => .ifBlock
  | .otherwise => .otherwise
  | .each => .each
  | .whileTrue => .whileTrue
  | .doBlock => .doBlock
  | .repeated => .repeated
  | .expression => .scope
  | .inverted => .scope

/-- A node may be closed by a token of a kind. -/
inductive Node.ClosedBy : Node → TokenKind → Prop
  | scope {kind : ScopeKind} {condition : Option Expression} {scopeId : Nat}
      {children : List Node} :
      ClosedBy (.scope kind condition scopeId children) (.closes kind.closer)
  | declaration {name : Text} {scopeId : Nat} {children : List Node} :
      ClosedBy (.declaration name scopeId children) (.closes .declaration)
  | custom {tag value : Text} {scopeId : Nat} {children : List Node} :
      ClosedBy (.custom tag value (some scopeId) children) (.custom ('/' :: tag))

/-- A closing tag that ends the blocks of a scope's kind is the one of that kind. -/
theorem Closer.eq_closer {closer : Closer} {kind : ScopeKind}
    (ends : closer.ends kind.blockKind = true) : closer = kind.closer := by
  cases kind <;> cases closer <;>
    simp [ScopeKind.blockKind, Closer.ends, ScopeKind.closer] at ends ⊢

/-- A node of a kind that a closing tag ends may be closed by its token. -/
theorem BlockKind.Matches.closedBy {kind : BlockKind} {node : Node} {closer : Closer}
    (matched : kind.Matches node) (ends : closer.ends kind = true) :
    node.ClosedBy (.closes closer) := by
  cases matched with
  | scope same =>
    subst same
    rw [Closer.eq_closer ends]
    exact .scope
  | declaration =>
    cases closer with
    | declaration => exact .declaration
    | _ => simp [Closer.ends] at ends
  | custom => cases closer <;> simp [Closer.ends] at ends

/-! ### Moves -/

namespace Token

/-- How one token moves the kinds of the open blocks, the innermost first. -/
inductive Moves (options : Options) : List BlockKind → Token → List BlockKind → Prop
  | quiet {kinds : List BlockKind} {token : Token} (silent : token.kind.isQuiet) :
      Moves options kinds token kinds
  | opens {kinds : List BlockKind} {token : Token} {kind : ScopeKind} {block : BlockKind}
      (opening : token.kind = .opens kind) (same : kind.blockKind = block) :
      Moves options kinds token (block :: kinds)
  | declares {kinds : List BlockKind} {token : Token} (opening : token.kind = .declares) :
      Moves options kinds token (.declaration :: kinds)
  | closes {kinds : List BlockKind} {token : Token} {kind : BlockKind} {closer : Closer}
      (closing : token.kind = .closes closer) (ends : closer.ends kind = true) :
      Moves options (kind :: kinds) token kinds
  | leaf {kinds : List BlockKind} {token : Token} {keyword : Text}
      (named : token.kind = .custom keyword) (word : keyword.all isAsciiLetter)
      (built : options.builder? token = some (.leaf keyword)) : Moves options kinds token kinds
  | opensCustom {kinds : List BlockKind} {token : Token} {keyword : Text}
      (named : token.kind = .custom keyword) (word : keyword.all isAsciiLetter)
      (built : options.builder? token = some (.block keyword)) :
      Moves options kinds token (.custom keyword :: kinds)
  | closesCustom {kinds : List BlockKind} {token : Token} {keyword : Text}
      (named : token.kind = TagProvider.closingKind keyword) (word : keyword.all isAsciiLetter)
      (built : options.builder? token = some (.block keyword)) :
      Moves options (.custom keyword :: kinds) token kinds

/-- How tokens one behind the other move the kinds of the open blocks. -/
inductive MoveAll (options : Options) : List BlockKind → List Token → List BlockKind → Prop
  | done {kinds : List BlockKind} : MoveAll options kinds [] kinds
  | step {before middle after : List BlockKind} {token : Token} {rest : List Token}
      (first : Moves options before token middle) (later : MoveAll options middle rest after) :
      MoveAll options before (token :: rest) after

variable {options : Options} {before middle after : List BlockKind} {tokens : List Token}

/-- A single token moves the kinds as it does. -/
theorem MoveAll.single {token : Token} (moves : Moves options before token after) :
    MoveAll options before [token] after :=
  .step moves .done

/-- Moves one behind the other. -/
theorem MoveAll.append {first second : List Token} (left : MoveAll options before first middle)
    (right : MoveAll options middle second after) :
    MoveAll options before (first ++ second) after := by
  induction left with
  | done => exact right
  | step moves later induction => exact .step moves (induction right)

/-- Moves can be cut between two tokens. -/
theorem MoveAll.cut {first second : List Token}
    (moves : MoveAll options before (first ++ second) after) :
    ∃ middle, MoveAll options before first middle ∧ MoveAll options middle second after := by
  induction first generalizing before with
  | nil => exact ⟨before, .done, moves⟩
  | cons token rest induction =>
    obtain _ | ⟨here, later⟩ := moves
    obtain ⟨middle, left, right⟩ := induction later
    exact ⟨middle, .step here left, right⟩

end Token

/-! ### Building -/

namespace Construction

/-- The nodes of a construction are of the kinds of labels, one by one. -/
def InStep (kinds : List BlockKind) (construction : Construction) : Prop :=
  List.Forall₂ BlockKind.Matches kinds construction.stack.opened

/-- A token closes the innermost block, which is of a kind that it may close. -/
def ClosesBlock (options : Options) (construction : Construction) (token : Token) : Prop :=
  ∃ block rest, construction.stack.blocks = block :: rest ∧ block.node.ClosedBy token.kind ∧
    construction.stack.close? = some (construction.addToken options token).stack

variable {options : Options} {construction : Construction} {before after : List BlockKind}
  {token : Token}

/-- The blocks that are open behind a standard token. -/
theorem opened_addToken (standard : token.IsStandard) :
    (construction.addToken options token).stack.opened =
      (construction.nesting.after token).blocks :=
  congrArg Nesting.blocks (nesting_addToken options construction standard)

/-- A quiet token opens and closes nothing. -/
theorem opened_addToken_quiet (silent : token.kind.isQuiet) :
    (construction.addToken options token).stack.opened = construction.stack.opened := by
  have standard : token.IsStandard := by
    intro tag custom
    rw [custom] at silent
    simp [TokenKind.isQuiet] at silent
  rw [opened_addToken standard, Nesting.after]
  cases kind : token.kind with
  | opens scope => simp [kind, TokenKind.isQuiet] at silent
  | declares => simp [kind, TokenKind.isQuiet] at silent
  | closes closer => simp [kind, TokenKind.isQuiet] at silent
  | _ => rfl

/-- A token that its provider builds is added as the provider says. -/
theorem addToken_custom {tag : Text} {provider : TagProvider} (named : token.kind = .custom tag)
    (built : options.builder? token = some provider) :
    construction.addToken options token = provider.assemble token construction := by
  simp only [addToken, named, addCustom, built]

/-- The opening token of a provider's block opens a node of the kind of its keyword. -/
theorem addToken_opensCustom {keyword : Text} (named : token.kind = .custom keyword)
    (built : options.builder? token = some (.block keyword)) :
    construction.addToken options token =
      construction.openScope fun scopeId => .custom keyword token.value (some scopeId) [] := by
  rw [addToken_custom named built]
  simp [TagProvider.block, named]

/-- The closing token of a provider's block closes the innermost block. -/
theorem addToken_closesCustom {keyword : Text}
    (named : token.kind = TagProvider.closingKind keyword)
    (built : options.builder? token = some (.block keyword)) :
    construction.addToken options token = construction.close := by
  have different : (token.kind == .custom keyword) = false := by
    rw [named, TagProvider.closingKind]
    simp
  rw [addToken_custom named built]
  simp only [TagProvider.block, different, Bool.false_eq_true, if_false]

/-- A token that moves kinds moves the nodes in step with them. -/
theorem InStep.step (inStep : InStep before construction)
    (moves : Token.Moves options before token after) :
    InStep after (construction.addToken options token) := by
  unfold InStep at inStep ⊢
  cases moves with
  | quiet silent =>
    rw [opened_addToken_quiet silent]
    exact inStep
  | opens opening same =>
    have standard : token.IsStandard := by simp [Token.IsStandard, opening]
    rw [opened_addToken standard, Nesting.after, opening]
    exact .cons (.scope same) inStep
  | declares opening =>
    have standard : token.IsStandard := by simp [Token.IsStandard, opening]
    rw [opened_addToken standard, Nesting.after, opening]
    exact .cons .declaration inStep
  | closes closing ends =>
    have standard : token.IsStandard := by simp [Token.IsStandard, closing]
    rw [opened_addToken standard, Nesting.after, closing]
    obtain ⟨node, nodes, -, rest, shape⟩ := List.forall₂_cons_left_iff.1 inStep
    simpa only [nesting, shape, List.tail_cons] using rest
  | leaf named word built =>
    rw [addToken_custom named built]
    simp only [TagProvider.leaf, pushChild, BuildStack.opened_pushChild]
    exact inStep
  | opensCustom named word built =>
    rw [addToken_opensCustom named built]
    exact .cons .custom inStep
  | closesCustom named word built =>
    rw [addToken_closesCustom named built]
    obtain ⟨node, nodes, -, rest, shape⟩ := List.forall₂_cons_left_iff.1 inStep
    simpa only [close, BuildStack.opened_close, shape, List.tail_cons] using rest

/-- Where a token closes the innermost block, it closes the node on top. -/
theorem closesBlock_of_close {kind : BlockKind} {kinds : List BlockKind}
    (inStep : InStep (kind :: kinds) construction)
    (closes : construction.addToken options token = construction.close)
    (allowed : ∀ node, kind.Matches node → node.ClosedBy token.kind) :
    construction.ClosesBlock options token := by
  obtain ⟨node, nodes, matched, -, shape⟩ := List.forall₂_cons_left_iff.1 inStep
  obtain ⟨block, rest, blocks, rfl, -⟩ := List.map_eq_cons_iff.1 shape
  refine ⟨block, rest, blocks, allowed _ matched, ?_⟩
  rw [closes]
  simp [close, BuildStack.close, BuildStack.close?, blocks]

/-- The opening tokens of providers do not close, since no keyword begins with a slash. -/
theorem not_isClosing_of_word {keyword : Text} (named : token.kind = .custom keyword)
    (word : keyword.all isAsciiLetter) : ¬token.kind.IsClosing := by
  rintro (⟨closer, closes⟩ | ⟨tag, slash⟩)
  · rw [named] at closes
    cases closes
  · rw [named] at slash
    cases slash
    have letter : isAsciiLetter '/' = false := by decide
    simp [letter] at word

/-- A closing token that moves kinds closes a block of a kind that it may close. -/
theorem InStep.closesBlock (inStep : InStep before construction)
    (moves : Token.Moves options before token after) (closing : token.kind.IsClosing) :
    construction.ClosesBlock options token := by
  cases moves with
  | quiet silent =>
    rcases closing with ⟨closer, kind⟩ | ⟨tag, kind⟩
    · simp [kind, TokenKind.isQuiet] at silent
    · simp [kind, TokenKind.isQuiet] at silent
  | opens opening same => simp [TokenKind.IsClosing, opening] at closing
  | declares opening => simp [TokenKind.IsClosing, opening] at closing
  | closes kind ends =>
    apply closesBlock_of_close inStep
    · simp only [addToken, kind]
    · intro node matched
      rw [kind]
      exact matched.closedBy ends
  | leaf named word built => exact absurd closing (not_isClosing_of_word named word)
  | opensCustom named word built => exact absurd closing (not_isClosing_of_word named word)
  | closesCustom named word built =>
    apply closesBlock_of_close inStep (addToken_closesCustom named built)
    intro node matched
    rw [named]
    cases matched with
    | scope same =>
      rename_i kind condition scopeId children
      cases kind <;> simp [ScopeKind.blockKind] at same
    | custom => exact .custom

/-- Tokens that move kinds move the nodes in step with them. -/
theorem InStep.run {tokens : List Token} (inStep : InStep before construction)
    (moves : Token.MoveAll options before tokens after) :
    InStep after (tokens.foldl (addToken options) construction) := by
  induction moves generalizing construction with
  | done => exact inStep
  | step first later induction => exact induction (inStep.step first)

end Construction

end Bracework
