import Bracework.Proofs.Assembly.Scoping

/-!
# Building behind other nodes

What has been built before a token matters to the building in two ways only: it stands before
what follows, and it has used up the first numbers of scopes. A construction that goes on behind
finished nodes therefore gives the same nodes as one that begins with nothing, except that every
number of a scope is larger by as many scopes as there have been. The scope around all blocks is
number zero in both.
-/

namespace Bracework

namespace Node

/-- The number of a scope behind `count` others. Zero is the scope around all blocks. -/
def numberBehind (count : Nat) : Nat → Nat
  | 0 => 0
  | scopeId + 1 => scopeId + 1 + count

mutual

/-- A node with all numbers of scopes in it and below it as they are behind `count` others. -/
def renumber (count : Nat) : Node → Node
  | .content text => .content text
  | .print expression escape => .print expression escape
  | .scope kind condition scopeId children =>
    .scope kind condition (numberBehind count scopeId) (renumberAll count children)
  | .boundName name scopeId => .boundName name (numberBehind count scopeId)
  | .binding name expression scopeId durable =>
    .binding name expression (numberBehind count scopeId) durable
  | .unbind name scopeId => .unbind name (numberBehind count scopeId)
  | .declaration name scopeId children =>
    .declaration name (numberBehind count scopeId) (renumberAll count children)
  | .rendering name context => .rendering name context
  | .edit operation => .edit operation
  | .custom tag value scopeId children =>
    .custom tag value (scopeId.map (numberBehind count)) (renumberAll count children)

/-- Nodes with all numbers of scopes as they are behind `count` others. -/
def renumberAll (count : Nat) : List Node → List Node
  | [] => []
  | first :: rest => renumber count first :: renumberAll count rest

end

variable {count : Nat} {node : Node}

/-- Nodes are renumbered one by one. -/
theorem renumberAll_eq_map (nodes : List Node) :
    renumberAll count nodes = nodes.map (renumber count) := by
  induction nodes with
  | nil => rfl
  | cons first rest induction => rw [renumberAll, induction, List.map_cons]

/-- A block keeps its scope, under its new number. -/
@[simp] theorem ownScope?_renumber :
    (node.renumber count).ownScope? = node.ownScope?.map (numberBehind count) := by
  cases node <;> simp only [renumber, ownScope?, Option.map_some, Option.map_none]

/-- A block takes renumbered children as it takes children. -/
theorem renumber_withChildren (children : List Node) :
    (node.withChildren children).renumber count =
      (node.renumber count).withChildren (children.map (renumber count)) := by
  cases node <;> simp only [withChildren, renumber, renumberAll_eq_map]

end Node

open Node

/-! ### Open blocks -/

namespace OpenNode

/-- An open block with all numbers of scopes as they are behind `count` others. -/
def renumber (count : Nat) (block : OpenNode) : OpenNode where
  node := block.node.renumber count
  children := block.children.map (Node.renumber count)
  locals := block.locals

variable {count : Nat} {block : OpenNode}

/-- A renumbered block is closed as the block is. -/
theorem finish_renumber : (block.renumber count).finish = block.finish.renumber count := by
  have unbinds : (block.renumber count).unbinds = block.unbinds.map (Node.renumber count) := by
    unfold OpenNode.unbinds
    rw [show (block.renumber count).node = block.node.renumber count from rfl, ownScope?_renumber]
    cases block.node.ownScope? with
    | none => rfl
    | some scopeId =>
      simp only [Option.map_some, List.map_map]
      rfl
  rw [finish, unbinds, finish, renumber_withChildren, List.map_append]
  simp only [renumber, Array.toList_map]

/-- A renumbered block remembers a name as the block does. -/
theorem bindLocal_renumber (name : Text) :
    (block.renumber count).bindLocal name = (block.bindLocal name).renumber count := by
  have names : (block.renumber count).locals = block.locals := rfl
  unfold bindLocal
  rw [names]
  split <;> rfl

end OpenNode

namespace BuildStack

/-- A stack whose top level begins with finished nodes, and in which all numbers of scopes are as
they are behind `count` others. -/
def behind (front : Array Node) (count : Nat) (stack : BuildStack) : BuildStack where
  top := front ++ stack.top.map (Node.renumber count)
  blocks := stack.blocks.map (OpenNode.renumber count)

variable {front : Array Node} {count : Nat} {stack : BuildStack} {node : Node}

/-- A node is added as it is without the others. -/
theorem pushChild_behind :
    (stack.behind front count).pushChild (node.renumber count) =
      (stack.pushChild node).behind front count := by
  obtain ⟨top, blocks⟩ := stack
  cases blocks with
  | nil => simp only [behind, pushChild, List.map_nil, Array.map_push, Array.push_append]
  | cons block rest => simp [behind, pushChild, OpenNode.renumber, Array.map_push]

/-- A block is opened as it is without the others. -/
theorem openBlock_behind :
    (stack.behind front count).openBlock (node.renumber count) =
      (stack.openBlock node).behind front count := by
  simp [behind, openBlock, OpenNode.ofNode, OpenNode.renumber]

/-- A block is closed as it is without the others. -/
theorem close_behind :
    (stack.behind front count).close = stack.close.behind front count := by
  obtain ⟨top, blocks⟩ := stack
  cases blocks with
  | nil => rfl
  | cons block rest =>
    have pushed : ((⟨top, rest⟩ : BuildStack).behind front count).pushChild
        (block.finish.renumber count) =
          ((⟨top, rest⟩ : BuildStack).pushChild block.finish).behind front count :=
      pushChild_behind
    rw [← OpenNode.finish_renumber] at pushed
    exact pushed

/-- The innermost scope is the same under its new number. -/
theorem nearestScope_behind :
    (stack.behind front count).nearestScope = numberBehind count stack.nearestScope := by
  have found (blocks : List OpenNode) :
      (blocks.map (OpenNode.renumber count)).findSome? (fun block => block.node.ownScope?) =
        (blocks.findSome? fun block => block.node.ownScope?).map (numberBehind count) := by
    induction blocks with
    | nil => rfl
    | cons block rest induction =>
      have own : (block.renumber count).node.ownScope? =
          block.node.ownScope?.map (numberBehind count) := ownScope?_renumber
      rw [List.map_cons, List.findSome?_cons, List.findSome?_cons, own, induction]
      cases block.node.ownScope? <;> rfl
  rw [nearestScope, behind, found, nearestScope]
  cases stack.blocks.findSome? fun block => block.node.ownScope? <;> rfl

/-- A name is recorded as it is without the others. -/
theorem declareLocal_behind (name : Text) :
    (stack.behind front count).declareLocal name =
      (stack.declareLocal name).behind front count := by
  have recorded (blocks : List OpenNode) :
      bindInNearest name (blocks.map (OpenNode.renumber count)) =
        (bindInNearest name blocks).map (OpenNode.renumber count) := by
    induction blocks with
    | nil => rfl
    | cons block rest induction =>
      have own : (block.renumber count).node.ownScope?.isSome = block.node.ownScope?.isSome := by
        rw [show (block.renumber count).node = block.node.renumber count from rfl,
          ownScope?_renumber, Option.isSome_map]
      rw [List.map_cons, bindInNearest, bindInNearest, own, OpenNode.bindLocal_renumber, induction]
      split <;> rfl
  simp only [declareLocal, behind, recorded]

/-- A document that is finished is finished behind the other nodes. -/
theorem toDocument_behind {document : Document} (finished : stack.toDocument = .ok document) :
    (stack.behind front count).toDocument =
      .ok ⟨front.toList ++ renumberAll count document.children⟩ := by
  obtain ⟨top, blocks⟩ := stack
  cases blocks with
  | nil =>
    cases finished
    simp only [behind, toDocument, List.map_nil, Array.toList_append, Array.toList_map,
      renumberAll_eq_map]
  | cons block rest => cases finished

end BuildStack

/-! ### Building -/

/-- The number of scopes that a document opens. -/
def Document.scopeCount (document : Document) : Nat :=
  (document.allNodes.filterMap Node.ownScope?).length

namespace Construction

/-- A construction that goes on behind finished nodes, which have used up `count` numbers. -/
def behind (front : Array Node) (count : Nat) (construction : Construction) : Construction where
  stack := construction.stack.behind front count
  nextScope := construction.nextScope + count

variable {front : Array Node} {count : Nat} {construction : Construction}

/-- A node is added as it is without the others. -/
theorem pushChild_behind {node other : Node} (same : node.renumber count = other) :
    (construction.behind front count).pushChild other =
      (construction.pushChild node).behind front count := by
  subst same
  simp only [pushChild, behind, BuildStack.pushChild_behind]

/-- A block is opened with the next number. -/
theorem openScope_behind {make : Nat → Node} (positive : 0 < construction.nextScope)
    (renumbered : ∀ scopeId, (make scopeId).renumber count = make (numberBehind count scopeId)) :
    (construction.behind front count).openScope make =
      (construction.openScope make).behind front count := by
  have next : construction.nextScope + count = numberBehind count construction.nextScope := by
    obtain ⟨before, same⟩ := Nat.exists_eq_succ_of_ne_zero (Nat.ne_of_gt positive)
    rw [same, numberBehind]
  simp only [openScope, behind, next, ← renumbered, BuildStack.openBlock_behind]
  rw [← next, Nat.add_right_comm]

/-- A block is closed as it is without the others. -/
theorem close_behind :
    (construction.behind front count).close = construction.close.behind front count := by
  simp only [close, behind, BuildStack.close_behind]

/-- A name is bound as it is without the others. -/
theorem bindLocal_behind (name : Text) (make : Nat → Node)
    (renumbered : ∀ scopeId, (make scopeId).renumber count = make (numberBehind count scopeId)) :
    (construction.behind front count).bindLocal name make =
      (construction.bindLocal name make).behind front count := by
  simp only [bindLocal, behind, BuildStack.nearestScope_behind, ← renumbered,
    BuildStack.pushChild_behind, BuildStack.declareLocal_behind]

/-- A token is added as it is without the others. -/
theorem addToken_behind {options : Options} (standard : options.providers = []) (token : Token)
    (positive : 0 < construction.nextScope) :
    (construction.behind front count).addToken options token =
      (construction.addToken options token).behind front count := by
  unfold addToken
  cases token.kind with
  | content => exact pushChild_behind rfl
  | value escaped =>
    cases token.expression with
    | none => rfl
    | some printed => exact pushChild_behind rfl
  | opens kind => exact openScope_behind positive fun scopeId => rfl
  | closes closer => exact close_behind
  | declares => exact openScope_behind positive fun scopeId => rfl
  | renders => exact pushChild_behind rfl
  | bindsName =>
    exact bindLocal_behind token.value (fun scopeId => .boundName token.value scopeId)
      fun scopeId => rfl
  | assigns durable =>
    cases token.expression with
    | none => rfl
    | some assigned =>
      cases durable with
      | true => exact pushChild_behind rfl
      | false =>
        exact bindLocal_behind token.value
          (fun scopeId => .binding token.value assigned scopeId false) fun scopeId => rfl
  | edits operation => exact pushChild_behind rfl
  | comment => rfl
  | custom tag =>
    simp only [addCustom, Options.builder?, standard, List.find?_nil]
    exact pushChild_behind rfl

/-- Tokens are added as they are without the others. -/
theorem run_behind {options : Options} (standard : options.providers = []) (tokens : List Token)
    (sound : construction.WellScoped) :
    tokens.foldl (addToken options) (construction.behind front count) =
      (tokens.foldl (addToken options) construction).behind front count := by
  have ready : options.ReadyMade := by simp [Options.ReadyMade, standard]
  induction tokens generalizing construction with
  | nil => rfl
  | cons token rest induction =>
    obtain ⟨before, next, -⟩ := sound.numbered
    have positive : 0 < construction.nextScope := next ▸ Nat.succ_pos before
    rw [List.foldl_cons, addToken_behind standard token positive,
      induction (sound.addToken ready token), List.foldl_cons]

/-- Behind a finished document, the construction goes on with nothing but the nodes of the
document in front of it. -/
theorem eq_behind {options : Options} (standard : options.providers = []) {tokens : List Token}
    {document : Document} (built : Document.ofTokens options tokens = .ok document) :
    tokens.foldl (addToken options) start =
      start.behind document.children.toArray document.scopeCount := by
  have ready : options.ReadyMade := by simp [Options.ReadyMade, standard]
  have sound := start_wellScoped.run ready tokens
  rw [Document.ofTokens] at built
  obtain ⟨count, next, ids⟩ := sound.numbered
  generalize tokens.foldl (addToken options) start = construction at built next ids ⊢
  obtain ⟨⟨top, blocks⟩, nextScope⟩ := construction
  cases blocks with
  | nil =>
    cases built
    have counted : Document.scopeCount ⟨top.toList⟩ = count := by
      have all : Node.scopeIds top.toList = List.range' 1 count := by
        simpa [BuildStack.scopeIds, BuildStack.blockScopeIds] using ids
      rw [Document.scopeCount, Document.allNodes, ← Node.scopeIds, all, List.length_range']
    rw [counted]
    obtain rfl : nextScope = count + 1 := next
    simp [behind, BuildStack.behind, start, BuildStack.empty, Nat.add_comm]
  | cons block rest => cases built

end Construction

namespace Document

/-- Documents one behind the other are built by their tokens one behind the other. The numbers of
the scopes in the second document begin behind those of the first. -/
theorem ofTokens_append {options : Options} (standard : options.providers = [])
    {first second : List Token} {before after : Document}
    (built : ofTokens options first = .ok before) (follows : ofTokens options second = .ok after) :
    ofTokens options (first ++ second) =
      .ok ⟨before.children ++ renumberAll before.scopeCount after.children⟩ := by
  have front := Construction.eq_behind standard built
  rw [ofTokens] at follows
  rw [ofTokens, List.foldl_append, front,
    Construction.run_behind standard second Construction.start_wellScoped]
  exact BuildStack.toDocument_behind follows

end Document

end Bracework
