import Bracework.Assembly.Build

/-!
# The events of a document

Walking a document depth first gives a list of events: one for entering a block, one for leaving
it, and one for each node without children, in the order of the text. Nodes that give names back
stand for nothing in the text and give no event.

Tokens give events of the same kind on their own, without a document. All they need to know is
which blocks are open: a closing token is ignored when none is. A token that is a comment, or
whose expression could not be read, gives no event.

Building a document from tokens neither loses, nor repeats, nor moves anything: the document has
the events of the tokens. What carries the proof is a list of events for a stack of open blocks,
which holds what its blocks have collected so far, each behind the event of its opening. Every
token adds its own event at the end of that list.
-/

namespace Bracework

/-- Something met on a walk through a document. -/
inductive Event where
  | content (text : Text)
  | printed (expression : Expression) (escape : Bool)
  | entered (kind : ScopeKind) (condition : Option Expression)
  | declared (name : Text)
  /-- A block that a provider has opened, or a node that it has made. -/
  | provided (tag value : Text)
  /-- The end of the block that was entered last and not left yet. -/
  | left
  | named (name : Text)
  | bound (name : Text) (expression : Expression) (durable : Bool)
  | rendered (name : Text) (context : Option Expression)
  | edited (operation : TextOperation)
deriving Repr, BEq

namespace Node

mutual

/-- The events of a node and of all nodes below it. -/
def events : Node → List Event
  | .content text => [.content text]
  | .print expression escape => [.printed expression escape]
  | .scope kind condition _ children => .entered kind condition :: (eventsOf children ++ [.left])
  | .boundName name _ => [.named name]
  | .binding name expression _ durable => [.bound name expression durable]
  | .unbind _ _ => []
  | .declaration name _ children => .declared name :: (eventsOf children ++ [.left])
  | .rendering name context => [.rendered name context]
  | .edit operation => [.edited operation]
  | .custom tag value _ children => .provided tag value :: (eventsOf children ++ [.left])

/-- The events of several nodes. -/
def eventsOf : List Node → List Event
  | [] => []
  | first :: rest => events first ++ eventsOf rest

end

/-- The event of entering a node that owns children. -/
def entering? : Node → Option Event
  | .scope kind condition _ _ => some (.entered kind condition)
  | .declaration name _ _ => some (.declared name)
  | .custom tag value _ _ => some (.provided tag value)
  | _ => none

/-- The events of nodes one behind the other. -/
@[simp] theorem eventsOf_append (first second : List Node) :
    eventsOf (first ++ second) = eventsOf first ++ eventsOf second := by
  induction first with
  | nil => rfl
  | cons node rest induction =>
    rw [List.cons_append, eventsOf, eventsOf, induction, List.append_assoc]

/-- A single node has its own events alone. -/
@[simp] theorem eventsOf_singleton (node : Node) : eventsOf [node] = node.events := by
  rw [eventsOf, eventsOf, List.append_nil]

/-- Nodes that give names back have no events. -/
theorem eventsOf_unbinds (names : List Text) (scopeId : Nat) :
    eventsOf (names.map (Node.unbind · scopeId)) = [] := by
  induction names with
  | nil => rfl
  | cons name rest induction =>
    rw [List.map_cons, eventsOf, induction, events, List.append_nil]

/-- A block that has taken its children is entered, walked through and left. -/
theorem events_withChildren {node : Node} {event : Event} (opening : node.entering? = some event)
    (children : List Node) :
    (node.withChildren children).events = event :: (eventsOf children ++ [.left]) := by
  cases node with
  | scope kind condition scopeId inner =>
    cases opening
    rw [withChildren, events]
  | declaration name scopeId inner =>
    cases opening
    rw [withChildren, events]
  | custom tag value scopeId inner =>
    cases opening
    rw [withChildren, events]
  | _ => simp [entering?] at opening

end Node

namespace Document

/-- The events of a document. -/
def events (document : Document) : List Event := Node.eventsOf document.children

end Document

/-! ### Events of tokens -/

/-- The blocks that are open between two tokens, the innermost first and without children, and the
number of the next scope. -/
structure Nesting where
  blocks : List Node
  nextScope : Nat

namespace Nesting

/-- The nesting before the first token. -/
def outermost : Nesting := ⟨[], 1⟩

/-- The nesting behind a token. -/
def after (nesting : Nesting) (token : Token) : Nesting :=
  match token.kind with
  | .opens kind =>
    ⟨.scope kind token.expression nesting.nextScope [] :: nesting.blocks, nesting.nextScope + 1⟩
  | .declares =>
    ⟨.declaration token.value nesting.nextScope [] :: nesting.blocks, nesting.nextScope + 1⟩
  | .closes _ => { nesting with blocks := nesting.blocks.tail }
  | _ => nesting

/-- The event of a token, unless it has none. -/
def event? (nesting : Nesting) (token : Token) : Option Event :=
  match token.kind with
  | .content => some (.content token.value)
  | .value escaped => token.expression.map (.printed · escaped)
  | .opens kind => some (.entered kind token.expression)
  | .closes _ => if nesting.blocks.isEmpty then none else some .left
  | .declares => some (.declared token.value)
  | .renders => some (.rendered token.value token.expression)
  | .bindsName => some (.named token.value)
  | .assigns durable => token.expression.map (.bound token.value · durable)
  | .edits operation => some (.edited operation)
  | .comment => none
  | .custom _ => none

/-- The events of tokens that follow each other from a nesting on. -/
def events (nesting : Nesting) : List Token → List Event
  | [] => []
  | token :: rest => (nesting.event? token).toList ++ (nesting.after token).events rest

/-- Every open block owns children. -/
def Owning (nesting : Nesting) : Prop := ∀ node ∈ nesting.blocks, node.entering?.isSome

/-- A token opens no block but one that owns children. -/
theorem Owning.after {nesting : Nesting} (owning : nesting.Owning) (token : Token) :
    (nesting.after token).Owning := by
  intro node member
  unfold Nesting.after at member
  split at member
  · rcases List.mem_cons.1 member with rfl | older
    · rfl
    · exact owning node older
  · rcases List.mem_cons.1 member with rfl | older
    · rfl
    · exact owning node older
  · exact owning node (List.mem_of_mem_tail member)
  · exact owning node member

end Nesting

namespace Token

/-- Whether a token is of a kind that no provider has named. -/
def IsStandard (token : Token) : Prop := ∀ tag, token.kind ≠ .custom tag

/-- The events of tokens. -/
def events (tokens : List Token) : List Event := Nesting.outermost.events tokens

/-- The blocks that are open after the last token, the innermost first. -/
def openAfter (tokens : List Token) : List Node :=
  (tokens.foldl Nesting.after Nesting.outermost).blocks

end Token

/-! ### Events of open blocks -/

namespace OpenNode

/-- The events of a block that is still open. -/
def events (block : OpenNode) : List Event :=
  block.node.entering?.toList ++ Node.eventsOf block.children.toList

/-- Closing a block adds that it is left. -/
theorem events_finish {block : OpenNode} (opened : block.node.entering?.isSome) :
    block.finish.events = block.events ++ [.left] := by
  obtain ⟨event, opening⟩ := Option.isSome_iff_exists.1 opened
  have unbinds : Node.eventsOf block.unbinds = [] := by
    unfold unbinds
    split
    · exact Node.eventsOf_unbinds _ _
    · rfl
  rw [finish, Node.events_withChildren opening, Node.eventsOf_append, unbinds, List.append_nil,
    events, opening]
  rfl

end OpenNode

namespace BuildStack

/-- The events of open blocks, from the outermost to the innermost. -/
def blockEvents : List OpenNode → List Event
  | [] => []
  | block :: rest => blockEvents rest ++ block.events

/-- The events of a stack of open blocks. -/
def events (stack : BuildStack) : List Event :=
  Node.eventsOf stack.top.toList ++ blockEvents stack.blocks

/-- The blocks of a stack as they were opened. -/
def opened (stack : BuildStack) : List Node := stack.blocks.map OpenNode.node

variable {stack : BuildStack} {node : Node}

/-- A node is added behind all events. -/
@[simp] theorem events_pushChild :
    (stack.pushChild node).events = stack.events ++ node.events := by
  obtain ⟨top, blocks⟩ := stack
  cases blocks with
  | nil => simp [pushChild, events, blockEvents]
  | cons block rest => simp [pushChild, events, blockEvents, OpenNode.events]

/-- Adding a node opens and closes no block. -/
@[simp] theorem opened_pushChild : (stack.pushChild node).opened = stack.opened := by
  obtain ⟨top, blocks⟩ := stack
  cases blocks <;> rfl

/-- Opening a block adds that it is entered. -/
@[simp] theorem events_openBlock :
    (stack.openBlock node).events = stack.events ++ node.entering?.toList := by
  simp [openBlock, events, blockEvents, OpenNode.events, OpenNode.ofNode, Node.eventsOf]

/-- An opened block is the innermost. -/
@[simp] theorem opened_openBlock : (stack.openBlock node).opened = node :: stack.opened := rfl

/-- Recording a name changes neither the nodes of the blocks nor their events. -/
theorem bindInNearest_keeps (name : Text) (blocks : List OpenNode) :
    (bindInNearest name blocks).map OpenNode.node = blocks.map OpenNode.node ∧
      blockEvents (bindInNearest name blocks) = blockEvents blocks := by
  induction blocks with
  | nil => exact ⟨rfl, rfl⟩
  | cons block rest induction =>
    obtain ⟨nodes, events⟩ := induction
    rw [bindInNearest]
    split
    · have kept : (block.bindLocal name).node = block.node ∧
          (block.bindLocal name).events = block.events := by
        unfold OpenNode.bindLocal
        split <;> exact ⟨rfl, rfl⟩
      constructor
      · rw [List.map_cons, List.map_cons, kept.1]
      · rw [blockEvents, blockEvents, kept.2]
    · constructor
      · rw [List.map_cons, List.map_cons, nodes]
      · rw [blockEvents, blockEvents, events]

/-- Recording a name adds no event. -/
@[simp] theorem events_declareLocal (name : Text) :
    (stack.declareLocal name).events = stack.events := by
  rw [events, events, declareLocal, (bindInNearest_keeps name stack.blocks).2]

/-- Recording a name opens and closes no block. -/
@[simp] theorem opened_declareLocal (name : Text) :
    (stack.declareLocal name).opened = stack.opened :=
  (bindInNearest_keeps name stack.blocks).1

/-- Closing the innermost block adds that it is left; without an open block nothing happens. -/
theorem events_close (blocks : ∀ node ∈ stack.opened, node.entering?.isSome) :
    stack.close.events = stack.events ++ if stack.opened.isEmpty then [] else [.left] := by
  obtain ⟨top, collected⟩ := stack
  cases collected with
  | nil => simp [close, close?, opened]
  | cons block rest =>
    have entered : block.node.entering?.isSome := blocks block.node (List.mem_cons_self ..)
    have closed : (⟨top, block :: rest⟩ : BuildStack).close =
        (⟨top, rest⟩ : BuildStack).pushChild block.finish := rfl
    rw [closed, events_pushChild, OpenNode.events_finish entered]
    simp [events, blockEvents, opened]

/-- Closing takes the innermost block away. -/
theorem opened_close : stack.close.opened = stack.opened.tail := by
  obtain ⟨top, collected⟩ := stack
  cases collected with
  | nil => rfl
  | cons block rest => exact opened_pushChild

/-- A stack without open blocks is a document, which has the events of the stack. -/
theorem toDocument_of_closed (closed : stack.opened = []) :
    ∃ document, stack.toDocument = .ok document ∧ document.events = stack.events := by
  obtain ⟨top, collected⟩ := stack
  obtain rfl : collected = [] := List.map_eq_nil_iff.1 closed
  refine ⟨⟨top.toList⟩, rfl, ?_⟩
  rw [Document.events, events, blockEvents, List.append_nil]

/-- A stack with open blocks is no document. The blocks are listed from the outermost on. -/
theorem toDocument_of_open (stillOpen : stack.opened ≠ []) :
    stack.toDocument = .error (.openAtEnd (stack.opened.reverse.map Node.label)) := by
  obtain ⟨top, collected⟩ := stack
  cases collected with
  | nil => exact absurd rfl stillOpen
  | cons block rest => simp [toDocument, opened]

end BuildStack

/-! ### Building -/

namespace Construction

variable {construction : Construction}

/-- The nesting that a document under construction has reached. -/
def nesting (construction : Construction) : Nesting :=
  ⟨construction.stack.opened, construction.nextScope⟩

/-- A standard token moves the nesting on. -/
theorem nesting_addToken (options : Options) (construction : Construction) {token : Token}
    (standard : token.IsStandard) :
    (construction.addToken options token).nesting = construction.nesting.after token := by
  cases kind : token.kind with
  | content => simp [addToken, kind, nesting, Nesting.after, pushChild]
  | value escaped =>
    cases expression : token.expression with
    | none => simp [addToken, kind, expression, nesting, Nesting.after, addValue]
    | some printed => simp [addToken, kind, expression, nesting, Nesting.after, addValue, pushChild]
  | opens scope => simp [addToken, kind, nesting, Nesting.after, openScope]
  | closes closer =>
    simp [addToken, kind, nesting, Nesting.after, close, BuildStack.opened_close]
  | declares => simp [addToken, kind, nesting, Nesting.after, openScope]
  | renders => simp [addToken, kind, nesting, Nesting.after, pushChild]
  | bindsName => simp [addToken, kind, nesting, Nesting.after, bindLocal]
  | assigns durable =>
    cases expression : token.expression with
    | none => simp [addToken, kind, expression, nesting, Nesting.after, addBinding]
    | some assigned =>
      cases durable <;>
        simp [addToken, kind, expression, nesting, Nesting.after, addBinding, bindLocal, pushChild]
  | edits operation => simp [addToken, kind, nesting, Nesting.after, pushChild]
  | comment => simp [addToken, kind, nesting, Nesting.after]
  | custom tag => exact absurd kind (standard tag)

/-- A standard token adds its event behind all others. -/
theorem events_addToken (options : Options) {token : Token} (standard : token.IsStandard)
    (owning : construction.nesting.Owning) :
    (construction.addToken options token).stack.events =
      construction.stack.events ++ (construction.nesting.event? token).toList := by
  cases kind : token.kind with
  | content => simp [addToken, kind, Nesting.event?, pushChild, Node.events]
  | value escaped =>
    cases expression : token.expression with
    | none => simp [addToken, kind, expression, Nesting.event?, addValue]
    | some printed =>
      simp [addToken, kind, expression, Nesting.event?, addValue, pushChild, Node.events]
  | opens scope => simp [addToken, kind, Nesting.event?, openScope, Node.entering?]
  | closes closer =>
    have closed := BuildStack.events_close owning
    simp only [addToken, kind, close, Nesting.event?, closed]
    by_cases outermost : construction.stack.opened.isEmpty <;> simp [nesting, outermost]
  | declares => simp [addToken, kind, Nesting.event?, openScope, Node.entering?]
  | renders => simp [addToken, kind, Nesting.event?, pushChild, Node.events]
  | bindsName => simp [addToken, kind, Nesting.event?, bindLocal, Node.events]
  | assigns durable =>
    cases expression : token.expression with
    | none => simp [addToken, kind, expression, Nesting.event?, addBinding]
    | some assigned =>
      cases durable <;>
        simp [addToken, kind, expression, Nesting.event?, addBinding, bindLocal, pushChild,
          Node.events]
  | edits operation => simp [addToken, kind, Nesting.event?, pushChild, Node.events]
  | comment => simp [addToken, kind, Nesting.event?]
  | custom tag => exact absurd kind (standard tag)

/-- Standard tokens move the nesting on one by one, and add their events behind all others. -/
theorem foldl_addToken (options : Options) (tokens : List Token)
    (standard : ∀ token ∈ tokens, token.IsStandard) (owning : construction.nesting.Owning) :
    (tokens.foldl (addToken options) construction).nesting =
        tokens.foldl Nesting.after construction.nesting ∧
      (tokens.foldl (addToken options) construction).stack.events =
        construction.stack.events ++ construction.nesting.events tokens := by
  induction tokens generalizing construction with
  | nil => exact ⟨rfl, (List.append_nil _).symm⟩
  | cons token rest induction =>
    have here := standard token (List.mem_cons_self ..)
    have nesting := nesting_addToken options construction here
    have events := events_addToken options here owning
    have owningNext : (construction.addToken options token).nesting.Owning := by
      rw [nesting]
      exact owning.after token
    obtain ⟨lastNesting, lastEvents⟩ := induction
      (fun other member => standard other (List.mem_cons_of_mem _ member)) owningNext
    constructor
    · rw [List.foldl_cons, lastNesting, nesting, List.foldl_cons]
    · rw [List.foldl_cons, lastEvents, events, nesting, Nesting.events, List.append_assoc]

end Construction

namespace Document

/-- Standard tokens make a document exactly when every block that they open is closed by the end,
and the document has the events of the tokens: nothing is lost, repeated or moved. Otherwise the
labels of the blocks that are still open are given, from the outermost on.

Proof: by induction on the tokens, the stack has the events of the tokens so far and the open
blocks of their nesting. A stack without open blocks holds the whole document at its top. -/
theorem ofTokens_faithful (options : Options) (tokens : List Token)
    (standard : ∀ token ∈ tokens, token.IsStandard) :
    (Token.openAfter tokens = [] → ∃ document, ofTokens options tokens = .ok document ∧
      document.events = Token.events tokens) ∧
    (Token.openAfter tokens ≠ [] → ofTokens options tokens =
      .error (.openAtEnd ((Token.openAfter tokens).reverse.map Node.label))) := by
  have owning : Construction.start.nesting.Owning := by
    intro node member
    cases member
  obtain ⟨nesting, events⟩ := Construction.foldl_addToken options tokens standard owning
  have opened : (tokens.foldl (Construction.addToken options) Construction.start).stack.opened =
      Token.openAfter tokens := congrArg Nesting.blocks nesting
  constructor
  · intro closed
    obtain ⟨document, built, same⟩ := BuildStack.toDocument_of_closed (opened.trans closed)
    exact ⟨document, built, same.trans events⟩
  · intro stillOpen
    rw [ofTokens, ← opened]
    exact BuildStack.toDocument_of_open (opened ▸ stillOpen)

/-- A closing token without a block, and a block with content and a binding in it. The document
ends the block with a node that gives the name back, which is no event. -/
theorem ofTokens_faithful_stray_close :
    let token (kind : TokenKind) (value : Text) : Token := .plain kind [] value ⟨0, 0⟩ ⟨1, 1⟩
    let tokens := [token (.closes .ifBlock) [], token (.opens .doBlock) [],
      token .bindsName "item", token .comment "a remark", token .content "text",
      token (.closes .doBlock) []]
    (∀ token ∈ tokens, token.IsStandard) ∧ ∃ document,
      ofTokens Options.standard tokens = .ok document ∧ document.events =
        [.entered .doBlock none, .named "item", .content "text", .left] := by
  intro token tokens
  have standard : ∀ token ∈ tokens, token.IsStandard := by
    intro other member tag
    simp only [tokens, List.mem_cons, List.not_mem_nil, or_false] at member
    rcases member with rfl | rfl | rfl | rfl | rfl | rfl <;> simp [token, Token.plain]
  exact ⟨standard, (ofTokens_faithful Options.standard tokens standard).1 rfl⟩

end Document

end Bracework
