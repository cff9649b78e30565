import Bracework.Proofs.Lexer.Readings

/-!
# Scopes of a document

Blocks open scopes, and scopes are numbered from one in the order in which the blocks stand in the
text. A name belongs to the innermost block around it, or to scope zero outside all blocks, and a
durable binding belongs to scope zero wherever it stands. A block ends with one node for each name
that it has bound, in the order of the first bindings, and nothing else gives a name back.

This holds of every document that is built. Numbers are handed out when blocks open, while nodes
are placed when blocks close, so the proof follows the stack of open blocks: the numbers given so
far are those of the finished nodes and of the open blocks in the order of the text, and each open
block remembers the names that its finished children bind.
-/

namespace Bracework

namespace Node

/-- The name that a node binds in the block around it. Durable bindings belong to no block. -/
def bound? : Node → Option Text
  | .boundName name _ => some name
  | .binding name _ _ false => some name
  | _ => none

/-- The names bound by nodes that stand side by side, each once, in the order of first binding. -/
def boundNames (nodes : List Node) : List Text := (nodes.filterMap bound?).eraseDups

/-- Whether a node gives a name back. -/
def isUnbind : Node → Bool
  | .unbind _ _ => true
  | _ => false

/-- A node that stands in a scope is well scoped: its own name or binding belongs to that scope,
and if it is a block, its children are well scoped nodes of its own scope, none of which gives a
name back, and behind them one node for each name that they have bound. -/
inductive WellScoped : Nat → Node → Prop
  | content {scope : Nat} {text : Text} : WellScoped scope (.content text)
  | print {scope : Nat} {expression : Expression} {escape : Bool} :
      WellScoped scope (.print expression escape)
  | rendering {scope : Nat} {name : Text} {context : Option Expression} :
      WellScoped scope (.rendering name context)
  | edit {scope : Nat} {operation : TextOperation} : WellScoped scope (.edit operation)
  /-- A node of a provider that is no block. -/
  | leaf {scope : Nat} {tag value : Text} : WellScoped scope (.custom tag value none [])
  | boundName {scope : Nat} {name : Text} : WellScoped scope (.boundName name scope)
  | binding {scope : Nat} {name : Text} {expression : Expression} :
      WellScoped scope (.binding name expression scope false)
  | durable {scope : Nat} {name : Text} {expression : Expression} :
      WellScoped scope (.binding name expression 0 true)
  | block {scope scopeId : Nat} {node : Node} {body : List Node}
      (owns : node.ownScope? = some scopeId)
      (children : node.children = body ++ (boundNames body).map (Node.unbind · scopeId))
      (plain : ∀ child ∈ body, child.isUnbind = false)
      (inside : ∀ child ∈ body, WellScoped scopeId child) : WellScoped scope node

/-- The numbers of the scopes that nodes and all nodes below them open, in the order of the
text. -/
def scopeIds (nodes : List Node) : List Nat := (walkAll nodes).filterMap ownScope?

variable {scope scopeId : Nat} {node : Node}

/-- A well scoped node gives no name back. -/
theorem WellScoped.not_unbind (sound : WellScoped scope node) : node.isUnbind = false := by
  cases sound with
  | block owns children plain inside =>
    cases node with
    | unbind name id => simp [ownScope?] at owns
    | _ => rfl
  | _ => rfl

/-- Nodes side by side are walked one after the other. -/
theorem walkAll_append (first second : List Node) :
    walkAll (first ++ second) = walkAll first ++ walkAll second := by
  induction first with
  | nil => rfl
  | cons node rest induction =>
    rw [List.cons_append, walkAll, walkAll, induction, List.append_assoc]

/-- A node is walked before the nodes below it. -/
theorem walk_eq (node : Node) : node.walk = node :: walkAll node.children := by
  cases node <;> simp only [walk, children, walkAll]

/-- Nodes side by side open their scopes one after the other. -/
@[simp] theorem scopeIds_append (first second : List Node) :
    scopeIds (first ++ second) = scopeIds first ++ scopeIds second := by
  rw [scopeIds, walkAll_append, List.filterMap_append, scopeIds, scopeIds]

@[simp] theorem scopeIds_nil : scopeIds [] = [] := rfl

/-- A node that owns no scope and no children opens none. -/
theorem scopeIds_leaf (scopeless : node.ownScope? = none) (childless : node.children = []) :
    scopeIds [node] = [] := by
  cases node with
  | scope kind condition id children => simp [ownScope?] at scopeless
  | declaration name id children => simp [ownScope?] at scopeless
  | custom tag value id children =>
    obtain rfl : id = none := scopeless
    obtain rfl : children = [] := childless
    rfl
  | _ => rfl

/-- Nodes that give names back open no scopes. -/
theorem scopeIds_unbinds (names : List Text) (scopeId : Nat) :
    scopeIds (names.map (Node.unbind · scopeId)) = [] := by
  induction names with
  | nil => rfl
  | cons name rest induction =>
    have single : scopeIds [Node.unbind name scopeId] = [] := scopeIds_leaf rfl rfl
    rw [List.map_cons, ← List.singleton_append, scopeIds_append, single, induction,
      List.append_nil]

/-- A block opens its own scope before those of its children. -/
theorem scopeIds_withChildren (owns : node.ownScope? = some scopeId) (children : List Node) :
    scopeIds [node.withChildren children] = scopeId :: scopeIds children := by
  cases node with
  | scope kind condition id inner =>
    cases owns
    simp [withChildren, scopeIds, walkAll, walk, ownScope?]
  | declaration name id inner =>
    cases owns
    simp [withChildren, scopeIds, walkAll, walk, ownScope?]
  | custom tag value id inner =>
    cases owns
    simp [withChildren, scopeIds, walkAll, walk, ownScope?]
  | _ => simp [ownScope?] at owns

/-- A block that owns a scope takes the children it is given. -/
theorem children_withChildren (owns : node.ownScope? = some scopeId) (children : List Node) :
    (node.withChildren children).children = children ∧
      (node.withChildren children).ownScope? = some scopeId := by
  cases node with
  | scope kind condition id inner => exact ⟨rfl, owns⟩
  | declaration name id inner => exact ⟨rfl, owns⟩
  | custom tag value id inner => exact ⟨rfl, owns⟩
  | _ => simp [ownScope?] at owns

/-- A block binds no name in the block around it. -/
theorem bound?_of_owns (owns : node.ownScope? = some scopeId) : node.bound? = none := by
  cases node with
  | binding name expression id durable => simp [ownScope?] at owns
  | boundName name id => simp [ownScope?] at owns
  | _ => rfl

/-- A node that binds nothing adds no name. -/
theorem boundNames_snoc_none (nodes : List Node) (silent : node.bound? = none) :
    boundNames (nodes ++ [node]) = boundNames nodes := by
  rw [boundNames, List.filterMap_append, List.filterMap_cons_none silent, List.filterMap_nil,
    List.append_nil, boundNames]

/-- A node that binds a name adds it at the end, unless it has been bound before. -/
theorem boundNames_snoc_some {name : Text} (nodes : List Node) (binds : node.bound? = some name) :
    boundNames (nodes ++ [node]) =
      if name ∈ boundNames nodes then boundNames nodes else boundNames nodes ++ [name] := by
  have single : [node].filterMap bound? = [name] := by
    rw [List.filterMap_cons_some binds, List.filterMap_nil]
  rw [boundNames, List.filterMap_append, single, List.eraseDups_append]
  simp only [boundNames, List.mem_eraseDups]
  by_cases before : name ∈ nodes.filterMap bound?
  · have nothing : List.removeAll [name] (nodes.filterMap bound?) = [] := by
      rw [List.cons_removeAll, if_neg (by simpa using before), List.nil_removeAll]
    rw [if_pos before, nothing, List.eraseDups_nil, List.append_nil]
  · have kept : List.removeAll [name] (nodes.filterMap bound?) = [name] := by
      rw [List.cons_removeAll, if_pos (by simpa using before), List.nil_removeAll]
    rw [if_neg before, kept]
    rfl

end Node

/-! ### Open blocks -/

namespace OpenNode

/-- An open block of a scope: its finished children are well scoped in it, and the names that it
remembers are those they have bound. -/
structure InScope (block : OpenNode) (scopeId : Nat) : Prop where
  owns : block.node.ownScope? = some scopeId
  inside : ∀ child ∈ block.children, child.WellScoped scopeId
  locals : block.locals = Node.boundNames block.children.toList

variable {block : OpenNode} {scopeId : Nat}

/-- Recording a name changes neither the node of a block nor its children. -/
theorem bindLocal_keeps (block : OpenNode) (name : Text) :
    (block.bindLocal name).node = block.node ∧
      (block.bindLocal name).children = block.children := by
  unfold bindLocal
  split <;> exact ⟨rfl, rfl⟩

/-- A block that is closed is well scoped wherever it stands. -/
theorem InScope.finish (inScope : block.InScope scopeId) (scope : Nat) :
    block.finish.WellScoped scope := by
  have unbinds : block.unbinds =
      (Node.boundNames block.children.toList).map (Node.unbind · scopeId) := by
    rw [OpenNode.unbinds, inScope.owns, inScope.locals]
  obtain ⟨children, owns⟩ := Node.children_withChildren inScope.owns
    (block.children.toList ++ block.unbinds)
  rw [← OpenNode.finish, unbinds] at children
  rw [← OpenNode.finish] at owns
  have inside : ∀ child ∈ block.children.toList, child.WellScoped scopeId :=
    fun child member => inScope.inside child (Array.mem_toList_iff.1 member)
  exact .block owns children (fun child member => (inside child member).not_unbind) inside

/-- A closed block opens its own scope and those of its children. -/
theorem InScope.scopeIds_finish (inScope : block.InScope scopeId) :
    Node.scopeIds [block.finish] = scopeId :: Node.scopeIds block.children.toList := by
  have unbinds : Node.scopeIds block.unbinds = [] := by
    rw [OpenNode.unbinds, inScope.owns]
    exact Node.scopeIds_unbinds _ _
  rw [OpenNode.finish, Node.scopeIds_withChildren inScope.owns, Node.scopeIds_append, unbinds,
    List.append_nil]

/-- A node that is added without a name leaves the names of its block as they are. -/
theorem InScope.push_silent (inScope : block.InScope scopeId) {node : Node}
    (sound : node.WellScoped scopeId) (silent : node.bound? = none) :
    ({ block with children := block.children.push node } : OpenNode).InScope scopeId := by
  refine ⟨inScope.owns, ?_, ?_⟩
  · intro child member
    rcases Array.mem_push.1 member with older | rfl
    · exact inScope.inside child older
    · exact sound
  · rw [Array.toList_push, Node.boundNames_snoc_none _ silent]
    exact inScope.locals

/-- A node that is added with its name adds the name to those of its block. -/
theorem InScope.push_binding (inScope : block.InScope scopeId) {node : Node} {name : Text}
    (sound : node.WellScoped scopeId) (binds : node.bound? = some name) :
    (({ block with children := block.children.push node } : OpenNode).bindLocal name).InScope
      scopeId := by
  have inside : ∀ child ∈ block.children.push node, child.WellScoped scopeId := by
    intro child member
    rcases Array.mem_push.1 member with older | rfl
    · exact inScope.inside child older
    · exact sound
  have names := Node.boundNames_snoc_some block.children.toList binds
  rw [← inScope.locals, ← Array.toList_push] at names
  unfold bindLocal
  by_cases before : name ∈ block.locals
  · rw [if_pos before] at names ⊢
    exact ⟨inScope.owns, inside, names.symm⟩
  · rw [if_neg before] at names ⊢
    exact ⟨inScope.owns, inside, names.symm⟩

end OpenNode

namespace BuildStack

/-- The numbers of the scopes of open blocks, each before those of its finished children, from the
outermost block on. -/
def blockScopeIds : List OpenNode → List Nat
  | [] => []
  | block :: rest =>
    blockScopeIds rest ++ block.node.ownScope?.toList ++ Node.scopeIds block.children.toList

/-- The numbers of all scopes opened so far, in the order of the text. -/
def scopeIds (stack : BuildStack) : List Nat :=
  Node.scopeIds stack.top.toList ++ blockScopeIds stack.blocks

/-- Everything on a stack is well scoped: what is finished outside all blocks belongs to scope
zero, and every open block owns a scope to which its finished children belong. -/
structure WellScoped (stack : BuildStack) : Prop where
  top : ∀ node ∈ stack.top, node.WellScoped 0
  blocks : ∀ block ∈ stack.blocks, ∃ scopeId, block.InScope scopeId

variable {stack : BuildStack} {node : Node}

/-- Adding a node adds the scopes that it opens. -/
theorem scopeIds_pushChild :
    (stack.pushChild node).scopeIds = stack.scopeIds ++ Node.scopeIds [node] := by
  obtain ⟨top, blocks⟩ := stack
  cases blocks with
  | nil => simp [pushChild, scopeIds, blockScopeIds]
  | cons block rest => simp [pushChild, scopeIds, blockScopeIds]

/-- Opening a block adds its scope. -/
theorem scopeIds_openBlock :
    (stack.openBlock node).scopeIds = stack.scopeIds ++ node.ownScope?.toList := by
  simp [openBlock, scopeIds, blockScopeIds, OpenNode.ofNode]

/-- Recording a name opens no scope. -/
theorem scopeIds_declareLocal (name : Text) :
    (stack.declareLocal name).scopeIds = stack.scopeIds := by
  have kept (blocks : List OpenNode) :
      blockScopeIds (bindInNearest name blocks) = blockScopeIds blocks := by
    induction blocks with
    | nil => rfl
    | cons block rest induction =>
      rw [bindInNearest]
      split
      · obtain ⟨node, children⟩ := block.bindLocal_keeps name
        rw [blockScopeIds, blockScopeIds, node, children]
      · rw [blockScopeIds, blockScopeIds, induction]
  rw [scopeIds, scopeIds, declareLocal, kept]

/-- Closing a block opens no scope. -/
theorem WellScoped.scopeIds_close (sound : stack.WellScoped) :
    stack.close.scopeIds = stack.scopeIds := by
  obtain ⟨top, blocks⟩ := stack
  cases blocks with
  | nil => rfl
  | cons block rest =>
    obtain ⟨scopeId, inScope⟩ := sound.blocks block (List.mem_cons_self ..)
    have closed : (⟨top, block :: rest⟩ : BuildStack).close =
        (⟨top, rest⟩ : BuildStack).pushChild block.finish := rfl
    rw [closed, scopeIds_pushChild, inScope.scopeIds_finish]
    simp [scopeIds, blockScopeIds, inScope.owns]

/-- Inside a block of a scope, the innermost scope is that of the block. -/
theorem nearestScope_cons {block : OpenNode} {scopeId : Nat} (inScope : block.InScope scopeId)
    (top : Array Node) (rest : List OpenNode) :
    (⟨top, block :: rest⟩ : BuildStack).nearestScope = scopeId := by
  simp [nearestScope, inScope.owns]

/-- Adding a node of the innermost scope that binds no name. -/
theorem WellScoped.pushChild (sound : stack.WellScoped)
    (fits : node.WellScoped stack.nearestScope) (silent : node.bound? = none) :
    (stack.pushChild node).WellScoped := by
  obtain ⟨top, blocks⟩ := stack
  cases blocks with
  | nil =>
    refine ⟨?_, sound.blocks⟩
    intro other member
    rcases Array.mem_push.1 member with older | rfl
    · exact sound.top other older
    · exact fits
  | cons block rest =>
    obtain ⟨inner, outer⟩ := List.forall_mem_cons.1 sound.blocks
    obtain ⟨scopeId, inScope⟩ := inner
    rw [nearestScope_cons inScope] at fits
    exact ⟨sound.top, List.forall_mem_cons.2 ⟨⟨scopeId, inScope.push_silent fits silent⟩, outer⟩⟩

/-- Adding a node of the innermost scope together with the name that it binds. Outside all blocks
the name is not recorded. -/
theorem WellScoped.bindLocal (sound : stack.WellScoped) {name : Text}
    (fits : node.WellScoped stack.nearestScope) (binds : node.bound? = some name) :
    ((stack.pushChild node).declareLocal name).WellScoped := by
  obtain ⟨top, blocks⟩ := stack
  cases blocks with
  | nil =>
    refine ⟨?_, sound.blocks⟩
    intro other member
    rcases Array.mem_push.1 member with older | rfl
    · exact sound.top other older
    · exact fits
  | cons block rest =>
    obtain ⟨inner, outer⟩ := List.forall_mem_cons.1 sound.blocks
    obtain ⟨scopeId, inScope⟩ := inner
    rw [nearestScope_cons inScope] at fits
    have recorded : ((⟨top, block :: rest⟩ : BuildStack).pushChild node).declareLocal name =
        ⟨top, ({ block with children := block.children.push node } : OpenNode).bindLocal name ::
          rest⟩ := by
      simp [BuildStack.pushChild, declareLocal, bindInNearest, inScope.owns]
    rw [recorded]
    exact ⟨sound.top, List.forall_mem_cons.2 ⟨⟨scopeId, inScope.push_binding fits binds⟩, outer⟩⟩

/-- Opening a block that owns a scope. -/
theorem WellScoped.openBlock (sound : stack.WellScoped) {scopeId : Nat}
    (owns : node.ownScope? = some scopeId) : (stack.openBlock node).WellScoped := by
  have opened : (OpenNode.ofNode node).InScope scopeId := by
    refine ⟨owns, ?_, rfl⟩
    intro child member
    simp [OpenNode.ofNode] at member
  exact ⟨sound.top, List.forall_mem_cons.2 ⟨⟨scopeId, opened⟩, sound.blocks⟩⟩

/-- Closing the innermost block, which becomes a well scoped node of the block around it. -/
theorem WellScoped.close (sound : stack.WellScoped) : stack.close.WellScoped := by
  obtain ⟨top, blocks⟩ := stack
  cases blocks with
  | nil => exact sound
  | cons block rest =>
    obtain ⟨inner, outer⟩ := List.forall_mem_cons.1 sound.blocks
    obtain ⟨scopeId, inScope⟩ := inner
    have below : (⟨top, rest⟩ : BuildStack).WellScoped := ⟨sound.top, outer⟩
    have owns : block.finish.ownScope? = some scopeId :=
      (Node.children_withChildren inScope.owns _).2
    have silent : block.finish.bound? = none := Node.bound?_of_owns owns
    exact below.pushChild (inScope.finish _) silent

end BuildStack

/-! ### Building -/

namespace Construction

/-- Everything built so far is well scoped, and the numbers given so far are those of its scopes in
the order of the text. -/
structure WellScoped (construction : Construction) : Prop where
  stack : construction.stack.WellScoped
  numbered : ∃ count, construction.nextScope = count + 1 ∧
    construction.stack.scopeIds = List.range' 1 count

variable {construction : Construction} {node : Node}

/-- Adding a leaf of the innermost scope that binds no name. -/
theorem WellScoped.pushChild (sound : construction.WellScoped)
    (fits : node.WellScoped construction.stack.nearestScope) (silent : node.bound? = none)
    (scopeless : node.ownScope? = none) (childless : node.children = []) :
    (construction.pushChild node).WellScoped := by
  obtain ⟨count, next, ids⟩ := sound.numbered
  refine ⟨sound.stack.pushChild fits silent, count, next, ?_⟩
  rw [Construction.pushChild, BuildStack.scopeIds_pushChild, ids,
    Node.scopeIds_leaf scopeless childless, List.append_nil]

/-- Opening a block gives it the next number. -/
theorem WellScoped.openScope (sound : construction.WellScoped) {make : Nat → Node}
    (owns : ∀ scopeId, (make scopeId).ownScope? = some scopeId) :
    (construction.openScope make).WellScoped := by
  obtain ⟨count, next, ids⟩ := sound.numbered
  refine ⟨sound.stack.openBlock (owns _), count + 1, congrArg (· + 1) next, ?_⟩
  rw [Construction.openScope, BuildStack.scopeIds_openBlock, ids, owns, next,
    List.range'_concat, Nat.one_mul, Nat.add_comm 1 count]
  rfl

/-- Closing a block gives no number. -/
theorem WellScoped.close (sound : construction.WellScoped) : construction.close.WellScoped := by
  obtain ⟨count, next, ids⟩ := sound.numbered
  exact ⟨sound.stack.close, count, next, sound.stack.scopeIds_close.trans ids⟩

/-- Adding a node that binds a name in the innermost scope. -/
theorem WellScoped.bindLocal (sound : construction.WellScoped) {name : Text} {make : Nat → Node}
    (fits : ∀ scope, (make scope).WellScoped scope)
    (binds : ∀ scope, (make scope).bound? = some name)
    (scopeless : ∀ scope, (make scope).ownScope? = none)
    (childless : ∀ scope, (make scope).children = []) :
    (construction.bindLocal name make).WellScoped := by
  obtain ⟨count, next, ids⟩ := sound.numbered
  refine ⟨sound.stack.bindLocal (fits _) (binds _), count, next, ?_⟩
  rw [Construction.bindLocal, BuildStack.scopeIds_declareLocal, BuildStack.scopeIds_pushChild,
    ids, Node.scopeIds_leaf (scopeless _) (childless _), List.append_nil]

/-- A token of a ready-made provider keeps everything well scoped: it is a leaf, or it opens or
closes a block. Without a provider it is a leaf. -/
theorem WellScoped.addCustom {options : Options} (ready : options.ReadyMade)
    (sound : construction.WellScoped) (tag : Text) (token : Token) :
    (construction.addCustom options tag token).WellScoped := by
  unfold Construction.addCustom
  cases built : options.builder? token with
  | none => exact sound.pushChild .leaf rfl rfl rfl
  | some provider =>
    obtain ⟨keyword, rfl | rfl⟩ := ready provider (List.mem_of_find?_eq_some built)
    · exact sound.pushChild .leaf rfl rfl rfl
    · simp only [TagProvider.block]
      split
      · exact sound.openScope fun _ => rfl
      · exact sound.close

/-- Every token keeps everything well scoped. -/
theorem WellScoped.addToken {options : Options} (ready : options.ReadyMade)
    (sound : construction.WellScoped) (token : Token) :
    (construction.addToken options token).WellScoped := by
  cases kind : token.kind with
  | content => simpa [Construction.addToken, kind] using sound.pushChild .content rfl rfl rfl
  | value escaped =>
    cases expression : token.expression with
    | none => simpa [Construction.addToken, kind, expression, addValue] using sound
    | some printed =>
      simpa [Construction.addToken, kind, expression, addValue] using
        sound.pushChild .print rfl rfl rfl
  | opens scope =>
    simpa [Construction.addToken, kind] using sound.openScope fun _ => rfl
  | closes closer => simpa [Construction.addToken, kind] using sound.close
  | declares => simpa [Construction.addToken, kind] using sound.openScope fun _ => rfl
  | renders => simpa [Construction.addToken, kind] using sound.pushChild .rendering rfl rfl rfl
  | bindsName =>
    simpa [Construction.addToken, kind] using
      sound.bindLocal (fun _ => .boundName) (fun _ => rfl) (fun _ => rfl) fun _ => rfl
  | assigns durable =>
    cases expression : token.expression with
    | none => simpa [Construction.addToken, kind, expression, addBinding] using sound
    | some assigned =>
      cases durable with
      | true =>
        simpa [Construction.addToken, kind, expression, addBinding] using
          sound.pushChild .durable rfl rfl rfl
      | false =>
        simpa [Construction.addToken, kind, expression, addBinding] using
          sound.bindLocal (fun _ => .binding) (fun _ => rfl) (fun _ => rfl) fun _ => rfl
  | edits operation => simpa [Construction.addToken, kind] using sound.pushChild .edit rfl rfl rfl
  | comment => simpa [Construction.addToken, kind] using sound
  | custom tag => simpa [Construction.addToken, kind] using sound.addCustom ready tag token

/-- Tokens one after the other keep everything well scoped. -/
theorem WellScoped.run {options : Options} (ready : options.ReadyMade)
    (sound : construction.WellScoped) (tokens : List Token) :
    (tokens.foldl (Construction.addToken options) construction).WellScoped := by
  induction tokens generalizing construction with
  | nil => exact sound
  | cons token rest induction => exact induction (sound.addToken ready token)

/-- Before the first token there is nothing that could be wrong. -/
theorem start_wellScoped : start.WellScoped :=
  ⟨⟨fun node member => by simp [start, BuildStack.empty] at member,
    fun block member => by simp [start, BuildStack.empty] at member⟩, 0, rfl, rfl⟩

end Construction

namespace Document

/-- The scopes of a document are numbered from one in the order of the text, every name and every
block is well scoped, and no name is given back outside all blocks. -/
structure WellScoped (document : Document) : Prop where
  numbered : ∃ count, document.allNodes.filterMap Node.ownScope? = List.range' 1 count
  nodes : ∀ node ∈ document.children, node.WellScoped 0
  top : ∀ node ∈ document.children, node.isUnbind = false

/-- Every document that is built from tokens is well scoped, if all providers are ready-made. The
tokens need not come from a template.

Proof: by induction on the tokens, the stack of open blocks is well scoped and has the numbers
given so far. A document is a stack without open blocks. -/
theorem ofTokens_wellScoped (options : Options) (tokens : List Token) (document : Document)
    (ready : options.ReadyMade) (built : ofTokens options tokens = .ok document) :
    document.WellScoped := by
  obtain ⟨sound, count, -, ids⟩ := Construction.start_wellScoped.run ready tokens
  rw [ofTokens] at built
  generalize (tokens.foldl (Construction.addToken options) Construction.start).stack = stack
    at sound ids built
  obtain ⟨top, blocks⟩ := stack
  cases blocks with
  | cons block rest => simp [BuildStack.toDocument] at built
  | nil =>
    obtain rfl : ⟨top.toList⟩ = document := Except.ok.inj built
    have nodes : ∀ node ∈ top.toList, node.WellScoped 0 :=
      fun node member => sound.top node (Array.mem_toList_iff.1 member)
    refine ⟨⟨count, ?_⟩, nodes, fun node member => (nodes node member).not_unbind⟩
    rw [BuildStack.scopeIds, BuildStack.blockScopeIds, List.append_nil] at ids
    exact ids

/-- A block of a provider in which one name is bound twice and another once, with a binding
outside and a closing token that has no block. -/
theorem ofTokens_wellScoped_repeated_name :
    let token (kind : TokenKind) (value : Text) : Token := .plain kind [] value ⟨0, 0⟩ ⟨1, 1⟩
    let sum : Expression := .number ⟨"1", .integer 1⟩
    let options : Options := ⟨[], [TagProvider.block "part", TagProvider.leaf "now"]⟩
    let tokens := [token (.closes .each) [],
      (token (.assigns false) "outside").withExpression (some sum),
      token (.custom "part") "first", token .bindsName "row", token (.opens .doBlock) [],
      (token (.assigns true) "total").withExpression (some sum), token (.closes .doBlock) [],
      (token (.assigns false) "count").withExpression (some sum), token .bindsName "row",
      token (.custom "now") [], token (.custom "/part") []]
    let document : Document := ⟨[.binding "outside" sum 0 false,
      .custom "part" "first" (some 1) [.boundName "row" 1,
        .scope .doBlock none 2 [.binding "total" sum 0 true], .binding "count" sum 1 false,
        .boundName "row" 1, .custom "now" [] none [], .unbind "row" 1, .unbind "count" 1]]⟩
    options.ReadyMade ∧ ofTokens options tokens = .ok document ∧ document.WellScoped := by
  intro token sum options tokens document
  have ready : options.ReadyMade := by
    intro provider member
    simp only [options, List.mem_cons, List.not_mem_nil, or_false] at member
    rcases member with rfl | rfl
    · exact ⟨"part", Or.inr rfl⟩
    · exact ⟨"now", Or.inl rfl⟩
  have built : ofTokens options tokens = .ok document := rfl
  exact ⟨ready, built, ofTokens_wellScoped options tokens document ready built⟩

end Document

end Bracework
