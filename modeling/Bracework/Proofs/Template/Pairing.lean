import Bracework.Proofs.Assembly.Scoping
import Bracework.Proofs.Lexer.BlockCheck
import Bracework.Proofs.Template.Drift

/-!
# An if block before each other case

A block for the other case makes sense only behind an if block. The reading of a template asks for
it with a single question about tokens: whether the last one that is neither content nor a comment
has closed an if block. It does not look at nesting. In the document the question is one about
siblings, since what an if block has closed stands in the same list as what follows it.

The nodes under construction carry the answer from the tokens to the siblings. Wherever the
question would be answered with yes, the innermost list ends with an if block and content behind
it, and below every open block for the other case the list around it ends so.
-/

namespace Bracework

namespace Node

/-- Whether a node is content. -/
def isContent : Node → Bool
  | .content _ => true
  | _ => false

/-- Whether a node is an if block, of either kind. -/
def isIf : Node → Bool
  | .scope .ifTrue _ _ _ => true
  | .scope .ifNot _ _ _ => true
  | _ => false

/-- Whether a node is a block for the other case. -/
def isOtherwise : Node → Bool
  | .scope .otherwise _ _ _ => true
  | _ => false

/-- What comes behind nodes follows an if block: one of them is an if block, and between it and
the end there is nothing but content. -/
def FollowsIf (earlier : List Node) : Prop :=
  ∃ before block between, earlier = before ++ block :: between ∧ block.isIf = true ∧
    ∀ node ∈ between, node.isContent = true

/-- Among siblings, every block for the other case follows an if block. -/
def Paired (siblings : List Node) : Prop :=
  ∀ earlier node later, siblings = earlier ++ node :: later → node.isOtherwise = true →
    FollowsIf earlier

/-- Siblings are paired, and so are the children of all nodes among them and below. -/
def Settled (siblings : List Node) : Prop :=
  Paired siblings ∧ ∀ node ∈ walkAll siblings, Paired node.children

variable {siblings : List Node} {node : Node}

/-- What comes behind an if block follows it. -/
theorem followsIf_block (block : node.isIf = true) : FollowsIf (siblings ++ [node]) :=
  ⟨siblings, node, [], rfl, block, by simp⟩

/-- Content in between does not matter. -/
theorem FollowsIf.content (follows : FollowsIf siblings) (text : Text) :
    FollowsIf (siblings ++ [.content text]) := by
  obtain ⟨before, block, between, rfl, opens, content⟩ := follows
  refine ⟨before, block, between ++ [.content text], by simp, opens, ?_⟩
  rw [List.forall_mem_append, List.forall_mem_singleton]
  exact ⟨content, rfl⟩

/-- No siblings are paired. -/
theorem paired_nil : Paired [] := by
  intro earlier node later split
  simp at split

/-- One more sibling is paired if it follows an if block or asks for none. -/
theorem Paired.concat (paired : Paired siblings)
    (follows : node.isOtherwise = true → FollowsIf siblings) : Paired (siblings ++ [node]) := by
  intro earlier other later split otherwise
  rcases List.eq_nil_or_concat later with rfl | ⟨inner, last, rfl⟩
  · obtain ⟨rfl, same⟩ := List.append_inj' split rfl
    obtain rfl : node = other := by simpa using same
    exact follows otherwise
  · have shorter : siblings = earlier ++ other :: inner := by
      have split' : siblings ++ [node] = (earlier ++ other :: inner) ++ [last] := by
        simpa using split
      exact (List.append_inj' split' rfl).1
    exact paired earlier other inner shorter otherwise

/-- No siblings are settled. -/
theorem settled_nil : Settled [] :=
  ⟨paired_nil, by simp [walkAll]⟩

/-- One more sibling is settled if it is paired and everything below it is. -/
theorem Settled.concat (settled : Settled siblings)
    (follows : node.isOtherwise = true → FollowsIf siblings)
    (inside : ∀ below ∈ node.walk, Paired below.children) : Settled (siblings ++ [node]) := by
  refine ⟨settled.1.concat follows, ?_⟩
  rw [walkAll_append, List.forall_mem_append]
  exact ⟨settled.2, by simpa [walkAll] using inside⟩

/-- A node without children has nothing below it. -/
theorem inside_of_childless (childless : node.children = []) :
    ∀ below ∈ node.walk, Paired below.children := by
  rw [walk_eq, childless, walkAll, List.forall_mem_singleton, childless]
  exact paired_nil

/-- What is below a block that takes settled children is paired. -/
theorem inside_withChildren (settled : Settled siblings) (node : Node) :
    ∀ below ∈ (node.withChildren siblings).walk, Paired below.children := by
  have taken : (node.withChildren siblings).children = siblings ∨
      (node.withChildren siblings).children = [] := by
    cases node with
    | scope kind condition id children => exact Or.inl rfl
    | declaration name id children => exact Or.inl rfl
    | custom tag value id children => exact Or.inl rfl
    | _ => exact Or.inr rfl
  rcases taken with children | childless
  · rw [walk_eq, children, List.forall_mem_cons, children]
    exact settled
  · exact inside_of_childless childless

/-- Other children do not make another block of a node. -/
theorem withChildren_kind (children : List Node) :
    (node.withChildren children).isIf = node.isIf ∧
      (node.withChildren children).isOtherwise = node.isOtherwise := by
  cases node with
  | scope kind condition id inner => cases kind <;> exact ⟨rfl, rfl⟩
  | _ => exact ⟨rfl, rfl⟩

/-- Nodes that give names back ask for nothing. -/
theorem Settled.unbinds (settled : Settled siblings) (names : List Text) (scopeId : Nat) :
    Settled (siblings ++ names.map (Node.unbind · scopeId)) := by
  induction names generalizing siblings with
  | nil => simpa using settled
  | cons name rest induction =>
    have one : Settled (siblings ++ [Node.unbind name scopeId]) :=
      settled.concat (by simp [isOtherwise]) (inside_of_childless rfl)
    have all := induction one
    rw [List.append_assoc] at all
    exact all

end Node

open Node

/-- A node that the closing tag of if blocks may close is an if block. -/
theorem BlockKind.Matches.isIf {kind : BlockKind} {node : Node} (matched : kind.Matches node)
    (ends : Closer.ifBlock.ends kind = true) : node.isIf = true := by
  cases matched with
  | @scope _ scopeKind condition scopeId children same =>
    subst same
    cases scopeKind <;> simp [ScopeKind.blockKind, Closer.ends] at ends <;> rfl
  | declaration => simp [Closer.ends] at ends
  | custom => simp [Closer.ends] at ends

/-! ### Open blocks -/

/-- A block that is closed with settled children has only paired nodes below it. -/
theorem OpenNode.inside_finish {block : OpenNode} (settled : Settled block.children.toList) :
    ∀ below ∈ block.finish.walk, Paired below.children := by
  have behind : Settled (block.children.toList ++ block.unbinds) := by
    unfold unbinds
    split
    · exact settled.unbinds _ _
    · simpa using settled
  exact inside_withChildren behind block.node

namespace BuildStack

/-- The finished nodes of the innermost open block, or of the top level. -/
def innermost (stack : BuildStack) : List Node :=
  match stack.blocks with
  | [] => stack.top.toList
  | block :: _ => block.children.toList

/-- The finished nodes of every open block and of the top level are settled, and each open block
for the other case will follow an if block when it is closed. -/
inductive Paired : BuildStack → Prop
  | top {top : Array Node} (settled : Settled top.toList) : Paired ⟨top, []⟩
  | block {top : Array Node} {block : OpenNode} {rest : List OpenNode}
      (settled : Settled block.children.toList)
      (follows : block.node.isOtherwise = true → FollowsIf (innermost ⟨top, rest⟩))
      (outer : Paired ⟨top, rest⟩) : Paired ⟨top, block :: rest⟩

variable {stack : BuildStack} {node : Node}

/-- A node is added behind the innermost ones. -/
theorem innermost_pushChild : (stack.pushChild node).innermost = stack.innermost ++ [node] := by
  obtain ⟨top, blocks⟩ := stack
  cases blocks <;> exact Array.toList_push

/-- Adding a node that is paired where it is added. -/
theorem Paired.pushChild (paired : stack.Paired)
    (follows : node.isOtherwise = true → FollowsIf stack.innermost)
    (inside : ∀ below ∈ node.walk, Node.Paired below.children) :
    (stack.pushChild node).Paired := by
  cases paired with
  | top settled =>
    refine .top ?_
    rw [Array.toList_push]
    exact settled.concat follows inside
  | block settled earlier outer =>
    refine .block ?_ earlier outer
    rw [Array.toList_push]
    exact settled.concat follows inside

/-- Opening a block that will be paired when it is closed. -/
theorem Paired.openBlock (paired : stack.Paired)
    (follows : node.isOtherwise = true → FollowsIf stack.innermost) :
    (stack.openBlock node).Paired :=
  .block settled_nil follows paired

/-- Closing a block, which has waited for nothing but its children. -/
theorem Paired.close (paired : stack.Paired) : stack.close.Paired := by
  cases paired with
  | top settled => exact .top settled
  | @block top block rest settled follows outer =>
    refine outer.pushChild ?_ (OpenNode.inside_finish settled)
    intro otherwise
    rw [OpenNode.finish, (withChildren_kind _).2] at otherwise
    exact follows otherwise

/-- Recording a name changes no list of nodes. -/
theorem Paired.declareLocal (paired : stack.Paired) (name : Text) :
    (stack.declareLocal name).Paired ∧ (stack.declareLocal name).innermost = stack.innermost := by
  induction paired with
  | top settled => exact ⟨.top settled, rfl⟩
  | @block top block rest settled follows outer induction =>
    rw [BuildStack.declareLocal] at induction ⊢
    rw [bindInNearest]
    split
    · obtain ⟨node, children⟩ := block.bindLocal_keeps name
      constructor
      · refine .block ?_ ?_ outer
        · rw [children]
          exact settled
        · rw [node]
          exact follows
      · exact congrArg Array.toList children
    · refine ⟨.block settled ?_ induction.1, rfl⟩
      rw [induction.2]
      exact follows

/-- A finished document is settled. -/
theorem Paired.settled (paired : stack.Paired) {document : Document}
    (finished : stack.toDocument = .ok document) : Settled document.children := by
  cases paired with
  | top settled =>
    cases finished
    exact settled
  | block settled follows outer => cases finished

end BuildStack

/-! ### Tokens -/

/-- Each token that opens a block for the other case comes when the last token that matters has
closed an if block. -/
def Token.Placed : Bool → List Token → Prop
  | _, [] => True
  | afterIf, token :: rest =>
    (token.kind = .opens .otherwise → afterIf = true) ∧
      Placed (Progress.closesIf afterIf token) rest

namespace Construction

/-- Everything built so far is paired, and where the last token that matters has closed an if
block, the next node follows it. -/
structure Paired (afterIf : Bool) (construction : Construction) : Prop where
  stack : construction.stack.Paired
  follows : afterIf = true → FollowsIf construction.stack.innermost

variable {construction : Construction} {afterIf : Bool} {options : Options} {token : Token}
  {before after : List BlockKind} {node : Node}

/-- Where nothing is claimed of the last token, it is enough that the stack is paired. -/
theorem Paired.plain (stack : construction.stack.Paired) : Paired false construction :=
  ⟨stack, by simp⟩

/-- Adding a node without children that asks for nothing. -/
theorem Paired.leaf (paired : Paired afterIf construction) (childless : node.children = [])
    (other : node.isOtherwise = false) : Paired false (construction.pushChild node) :=
  .plain (paired.stack.pushChild (by simp [other]) (inside_of_childless childless))

/-- Binding a name. -/
theorem Paired.bindLocal (paired : Paired afterIf construction) {name : Text} {make : Nat → Node}
    (childless : ∀ scope, (make scope).children = [])
    (other : ∀ scope, (make scope).isOtherwise = false) :
    Paired false (construction.bindLocal name make) := by
  have pushed : (construction.stack.pushChild (make construction.stack.nearestScope)).Paired :=
    paired.stack.pushChild (by simp [other]) (inside_of_childless (childless _))
  exact .plain (pushed.declareLocal name).1

/-- Adding content, behind which an if block is still followed. -/
theorem Paired.content (paired : Paired afterIf construction) (text : Text) :
    Paired afterIf (construction.pushChild (.content text)) := by
  refine ⟨paired.stack.pushChild (by simp [isOtherwise]) (inside_of_childless rfl), ?_⟩
  intro closed
  rw [Construction.pushChild, BuildStack.innermost_pushChild]
  exact (paired.follows closed).content text

/-- A quiet token adds at most one node, which asks for nothing. -/
theorem Paired.quiet (paired : Paired afterIf construction) (silent : token.kind.isQuiet) :
    Paired (Progress.closesIf afterIf token) (construction.addToken options token) := by
  unfold addToken Progress.closesIf
  cases kind : token.kind with
  | content => exact paired.content _
  | value escaped =>
    cases token.expression with
    | none => exact .plain paired.stack
    | some printed => exact paired.leaf rfl rfl
  | renders => exact paired.leaf rfl rfl
  | bindsName =>
    change Paired false (construction.bindLocal token.value fun scopeId =>
      .boundName token.value scopeId)
    exact paired.bindLocal (fun _ => rfl) (fun _ => rfl)
  | assigns durable =>
    cases token.expression with
    | none => exact .plain paired.stack
    | some assigned =>
      cases durable with
      | true => exact paired.leaf rfl rfl
      | false =>
        change Paired false (construction.bindLocal token.value
          fun scopeId => .binding token.value assigned scopeId false)
        exact paired.bindLocal (fun _ => rfl) (fun _ => rfl)
  | edits operation => exact paired.leaf rfl rfl
  | comment => exact paired
  | _ => simp [kind, TokenKind.isQuiet] at silent

/-- An if block that is closed is followed by what comes next. -/
theorem Paired.closeIf {kind : BlockKind} {kinds : List BlockKind}
    (paired : Paired afterIf construction) (inStep : InStep (kind :: kinds) construction)
    (ends : Closer.ifBlock.ends kind = true) : Paired true construction.close := by
  refine ⟨paired.stack.close, fun _ => ?_⟩
  obtain ⟨node, nodes, matched, -, shape⟩ := List.forall₂_cons_left_iff.1 inStep
  obtain ⟨block, rest, blocks, rfl, -⟩ := List.map_eq_cons_iff.1 shape
  have closed : construction.close.stack =
      ({ construction.stack with blocks := rest } : BuildStack).pushChild block.finish := by
    simp [close, BuildStack.close, BuildStack.close?, blocks]
  rw [closed, BuildStack.innermost_pushChild]
  refine followsIf_block ?_
  rw [OpenNode.finish, (withChildren_kind _).1]
  exact matched.isIf ends

/-- A token that moves kinds and is placed leaves everything paired. -/
theorem Paired.step (paired : Paired afterIf construction) (inStep : InStep before construction)
    (moves : Token.Moves options before token after)
    (placed : token.kind = .opens .otherwise → afterIf = true) :
    Paired (Progress.closesIf afterIf token) (construction.addToken options token) := by
  cases moves with
  | quiet silent => exact paired.quiet silent
  | @opens _ _ scopeKind _ opening same =>
    have opened : Paired false (construction.addToken options token) := by
      simp only [addToken, opening]
      refine .plain (paired.stack.openBlock ?_)
      intro otherwise
      obtain rfl : scopeKind = .otherwise := by
        cases scopeKind <;> simp [isOtherwise] at otherwise ⊢
      exact paired.follows (placed opening)
    simpa only [Progress.closesIf, opening] using opened
  | declares opening =>
    simp only [Progress.closesIf, addToken, opening]
    exact .plain (paired.stack.openBlock (by simp [isOtherwise]))
  | @closes _ _ kind closer closing ends =>
    simp only [addToken, closing]
    by_cases ifBlock : closer = .ifBlock
    · subst ifBlock
      simp only [Progress.closesIf, closing]
      exact paired.closeIf inStep ends
    · have forgotten : Progress.closesIf afterIf token = false := by
        simp only [Progress.closesIf, closing]
        cases closer <;> simp at ifBlock ⊢
      rw [forgotten]
      exact .plain paired.stack.close
  | leaf named word built =>
    rw [addToken_custom named built]
    simp only [Progress.closesIf, named]
    exact paired.leaf rfl rfl
  | opensCustom named word built =>
    rw [addToken_opensCustom named built]
    simp only [Progress.closesIf, named]
    exact .plain (paired.stack.openBlock (by simp [isOtherwise]))
  | closesCustom named word built =>
    rw [addToken_closesCustom named built]
    simp only [Progress.closesIf, named, TagProvider.closingKind]
    exact .plain paired.stack.close

/-- Tokens that move kinds and are placed leave everything paired. -/
theorem Paired.run {tokens : List Token} (paired : Paired afterIf construction)
    (inStep : InStep before construction) (moves : Token.MoveAll options before tokens after)
    (placed : Token.Placed afterIf tokens) :
    (tokens.foldl (addToken options) construction).stack.Paired := by
  induction moves generalizing construction afterIf with
  | done => exact paired.stack
  | step first later induction =>
    exact induction (paired.step inStep first placed.1) (inStep.step first) placed.2

end Construction

/-! ### Reading -/

namespace Token

variable {afterIf : Bool}

/-- Tokens one behind the other are placed when each part is, from what the first part leaves. -/
theorem placed_append {first second : List Token} :
    Placed afterIf (first ++ second) ↔
      Placed afterIf first ∧ Placed (first.foldl Progress.closesIf afterIf) second := by
  induction first generalizing afterIf with
  | nil => simp [Placed]
  | cons token rest induction =>
    rw [List.cons_append, Placed, Placed, List.foldl_cons, induction, and_assoc]

/-- Tokens that open no block for the other case are placed. -/
theorem placed_of_plain {tokens : List Token}
    (plain : ∀ token ∈ tokens, token.kind ≠ .opens .otherwise) : Placed afterIf tokens := by
  induction tokens generalizing afterIf with
  | nil => trivial
  | cons token rest induction =>
    obtain ⟨here, later⟩ := List.forall_mem_cons.1 plain
    exact ⟨fun opens => absurd opens here, induction later⟩

end Token

/-- Only the keyword of its own opens a block for the other case. -/
theorem Keyword.block_ne_otherwise {sigil : Sigil} {word : String} {kind : ScopeKind}
    (member : (sigil, word, .block kind) ∈ table) : kind ≠ .otherwise := by
  have all : table.all (fun entry => entry.2.2 != .block .otherwise) = true := by decide
  have here := List.all_eq_true.1 all _ member
  rintro rfl
  simp at here

namespace Tag

variable {tag : Tag} {lines : LineTable} {surroundings : Surroundings}

/-- A block without a name gives one token, of its kind. -/
theorem readUnnamedBlock_placed {kind : ScopeKind} (other : kind ≠ .otherwise)
    (written : Located) (blocks : OpenBlocks) (afterIf : Bool) :
    Token.Placed afterIf (tag.readUnnamedBlock kind written blocks).tokens :=
  ⟨fun opens => absurd (TokenKind.opens.inj opens) other, trivial⟩

/-- A block with a name gives a token of its kind and the name. -/
theorem readNamedBlock_placed {kind : ScopeKind} (other : kind ≠ .otherwise)
    (written name : Located) (behavior : Option ScopeBehavior) (blocks : OpenBlocks)
    (afterIf : Bool) :
    Token.Placed afterIf (tag.readNamedBlock lines kind written name behavior blocks).tokens :=
  ⟨fun opens => absurd (TokenKind.opens.inj opens) other, by simp [nameToken, Token.plain], trivial⟩

/-- The tokens of a block with a keyword are placed. -/
theorem readBlock_placed {kind : ScopeKind} (other : kind ≠ .otherwise) (blocks : OpenBlocks)
    (afterIf : Bool) : Token.Placed afterIf (tag.readBlock lines kind blocks).tokens := by
  unfold readBlock
  dsimp only
  split
  · exact readUnnamedBlock_placed other _ _ _
  · split
    · exact readNamedBlock_placed other _ _ _ _ _
    · split
      · exact readUnnamedBlock_placed other _ blocks _
      · exact readUnnamedBlock_placed other _ _ _

/-- The tokens of a block that a path opens are placed. -/
theorem readPathBlock_placed {kind : ScopeKind} (other : kind ≠ .otherwise) (blocks : OpenBlocks)
    (afterIf : Bool) : Token.Placed afterIf (tag.readPathBlock lines kind blocks).tokens := by
  unfold readPathBlock
  dsimp only
  split
  · exact readNamedBlock_placed other _ _ _ _ _
  · exact readUnnamedBlock_placed other _ _ _

/-- A tag that opens a block for the other case without a finding comes behind an if block. -/
theorem readOtherwise_placed {afterIf : Bool} {blocks : OpenBlocks}
    (clean : (tag.readOtherwise afterIf blocks).findings = []) :
    Token.Placed afterIf (tag.readOtherwise afterIf blocks).tokens := by
  refine ⟨fun _ => ?_, trivial⟩
  have misplaced := (List.append_eq_nil_iff.1 clean).2
  by_contra missing
  simp [missing] at misplaced

/-- The tokens of a tag of a built-in form with nothing wrong in it are placed. -/
theorem readForm_placed
    (clean : (tag.readForm lines surroundings (TagForm.ofTag tag)).findings = []) :
    Token.Placed surroundings.afterIf
      (tag.readForm lines surroundings (TagForm.ofTag tag)).tokens := by
  cases form : TagForm.ofTag tag with
  | keyword keyword =>
    rw [form] at clean
    obtain ⟨sigil, word, member⟩ := TagForm.mem_table form
    cases keyword with
    | block kind => exact readBlock_placed (Keyword.block_ne_otherwise member) _ _
    | otherwise => exact readOtherwise_placed clean
    | ifOtherwise => exact ⟨by simp [Tag.token, Token.plain], fun _ => rfl, trivial⟩
    | assignment durable =>
      simp only [readForm, readKeyword, readAssignment]
      split <;> exact ⟨by simp [Tag.token, Token.plain, Token.withExpression], trivial⟩
    | _ =>
      exact ⟨by simp [Tag.token, Token.plain, Token.withExpression], trivial⟩
  | invertedBlock => exact readPathBlock_placed (by decide) _ _
  | pathBlock => exact readPathBlock_placed (by decide) _ _
  | _ => exact ⟨by simp [Tag.token, Token.plain, Token.withExpression], trivial⟩

/-- The tokens of a tag with nothing wrong in it are placed. A provider opens no block for the
other case. -/
theorem readTag_placed {options : Options} (ready : options.ReadyMade)
    (clean : (Progress.readTag options lines tag surroundings).findings = []) :
    Token.Placed surroundings.afterIf
      (Progress.readTag options lines tag surroundings).tokens := by
  obtain ⟨provider, read, reading⟩ | reading := readTag_cases options tag lines surroundings
  · rw [reading]
    obtain ⟨keyword, rfl | rfl⟩ := ready provider (List.mem_of_find?_eq_some read)
    · exact ⟨by simp [Tag.token, Token.plain], trivial⟩
    · refine Token.placed_of_plain ?_
      obtain ⟨-, shape⟩ | ⟨-, shape⟩ := Options.read_block
        (List.find?_eq_some_iff_append.1 read).1 options.partials surroundings.blocks
      · rw [shape]
        simp [TagProvider.readOpening, Tag.token, Token.plain]
      · rw [shape]
        simp [TagProvider.readClosing, Tag.token, Token.plain, TagProvider.closingKind]
  · rw [reading] at clean ⊢
    exact readForm_placed clean

end Tag

/-! ### Templates -/

namespace Template

variable {options : Options}

/-- The tokens of pieces with nothing wrong in them are placed. -/
theorem readPieces_placed (ready : options.ReadyMade) {lines : LineTable}
    (places : List (Nat × Piece)) (surroundings : Surroundings)
    (clean : (readPieces options lines surroundings places).1.flatMap Reading.findings = []) :
    Token.Placed surroundings.afterIf
      ((readPieces options lines surroundings places).1.flatMap Reading.tokens) := by
  induction places generalizing surroundings with
  | nil => trivial
  | cons place rest induction =>
    obtain ⟨start, piece⟩ := place
    cases piece with
    | content text => exact ⟨by simp [contentToken, Token.plain], induction surroundings clean⟩
    | tag braces body =>
      obtain ⟨here, later⟩ := List.append_eq_nil_iff.1 clean
      exact Token.placed_append.2 ⟨Tag.readTag_placed ready here, induction _ later⟩

/-- In every document, a block for the other case follows an if block: among the nodes before it
in the same list there is one that is no content, and the last of these is an if block. This
holds at any depth and whichever tag opened the block, for all ready-made providers.

Proof: the tokens of a template that has a document move the kinds of the open blocks, and those
that open such a block are placed where the reading allows it. By induction on the tokens, what
the reading knows of the last token holds of the innermost list of nodes. -/
theorem otherwise_follows_if (ready : options.ReadyMade) {template : Text} {document : Document}
    {diagnostics : List Diagnostic}
    (parsed : parse options template = .ok ⟨some document, diagnostics⟩) :
    ∀ siblings, (siblings = document.children ∨
      ∃ node ∈ document.allNodes, siblings = node.children) → Paired siblings := by
  obtain ⟨clean, -, built⟩ := (parse_document_iff ready).1 parsed
  have moves := moveAll_of_document ready clean built
  have placed : Token.Placed false ((readings options template).1.flatMap Reading.tokens) :=
    readPieces_placed ready _ _ (List.append_eq_nil_iff.1 clean).1
  have start : Construction.Paired false Construction.start := .plain (.top settled_nil)
  have paired := start.run .nil moves placed
  have settled : Settled document.children := by
    rw [Document.ofTokens] at built
    exact paired.settled built
  rintro siblings (rfl | ⟨node, member, rfl⟩)
  · exact settled.1
  · exact settled.2 node member

/-- Both ways to open a block for the other case, the second inside the block of a provider whose
keyword the template spells differently. -/
theorem otherwise_follows_if_nested :
    let options : Options := ⟨[], [TagProvider.block "Box"]⟩
    let template := tagSource 2 "#if a" ++ tagSource 2 "/if" ++ " or " ++ tagSource 2 "#else" ++
      tagSource 2 "#box" ++ tagSource 2 "^if b" ++ tagSource 2 "#ifelse" ++ tagSource 2 "/else" ++
      tagSource 2 "/BOX" ++ tagSource 2 "/else"
    options.ReadyMade ∧ ∃ document diagnostics,
      parse options template = .ok ⟨some document, diagnostics⟩ ∧
      document.allNodes.countP isOtherwise = 2 ∧
      ∀ siblings, (siblings = document.children ∨
        ∃ node ∈ document.allNodes, siblings = node.children) → Paired siblings := by
  intro options template
  have ready : options.ReadyMade := by
    intro provider member
    obtain rfl := List.mem_singleton.1 member
    exact ⟨"Box", Or.inr rfl⟩
  have read : ((parse options template).toOption.bind ParseResult.document).any
      (fun document => document.allNodes.countP isOtherwise == 2) = true := by
    decide +kernel
  obtain ⟨document, diagnostics, parsed, two⟩ := exists_document_of_any read
  exact ⟨ready, document, diagnostics, parsed, beq_iff_eq.1 two, otherwise_follows_if ready parsed⟩

end Template

end Bracework
