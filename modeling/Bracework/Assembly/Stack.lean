import Bracework.Breach
import Bracework.Document

/-!
# The stack of open blocks

While a document is built, the children of each open block are collected until the block
closes; then the block takes them and becomes a child itself. Scopes are numbered in the order
in which they open, from one, and zero is the scope around all blocks.

A block that owns a scope remembers the names bound in it, each once and in the order of their
first binding. When it closes, one node per name is added after its children. Names bound
outside all such blocks are never given back.
-/

namespace Bracework

/-- A block that is still open. -/
structure OpenNode where
  /-- The block as it was opened, without its children. -/
  node : Node
  children : Array Node
  /-- The names bound in its scope. -/
  locals : List Text
deriving Repr

/-- The open blocks, the innermost first, around them the top level of the document. -/
structure BuildStack where
  top : Array Node
  blocks : List OpenNode
deriving Repr

namespace OpenNode

/-- An opened block without children. -/
def ofNode (node : Node) : OpenNode := { node, children := #[], locals := [] }

/-- The nodes that give the names of a scope back their former meanings. -/
def unbinds (block : OpenNode) : List Node :=
  match block.node.ownScope? with
  | some scopeId => block.locals.map (Node.unbind · scopeId)
  | none => []

/-- The block with its children, as it stands in the document. -/
def finish (block : OpenNode) : Node :=
  block.node.withChildren (block.children.toList ++ block.unbinds)

/-- Records a name, unless it is recorded already. -/
def bindLocal (block : OpenNode) (name : Text) : OpenNode :=
  if name ∈ block.locals then block else { block with locals := block.locals ++ [name] }

end OpenNode

namespace BuildStack

/-- The stack of an empty document. -/
def empty : BuildStack := ⟨#[], []⟩

/-- The number of open blocks, the top level of the document included. -/
def depth (stack : BuildStack) : Nat := stack.blocks.length + 1

/-- Adds a node to the innermost open block. -/
def pushChild (stack : BuildStack) (node : Node) : BuildStack :=
  match stack.blocks with
  | [] => { stack with top := stack.top.push node }
  | block :: rest =>
    { stack with blocks := { block with children := block.children.push node } :: rest }

/-- Opens a block; what follows becomes its children. -/
def openBlock (stack : BuildStack) (node : Node) : BuildStack :=
  { stack with blocks := OpenNode.ofNode node :: stack.blocks }

/-- Closes the innermost block and adds it to the block around it. There is none to close when
only the top level is open. -/
def close? (stack : BuildStack) : Option BuildStack :=
  match stack.blocks with
  | [] => none
  | block :: rest => some ({ stack with blocks := rest }.pushChild block.finish)

/-- Closes the innermost block, if a block is open. -/
def close (stack : BuildStack) : BuildStack := stack.close?.getD stack

/-- The number of the innermost scope. -/
def nearestScope (stack : BuildStack) : Nat :=
  (stack.blocks.findSome? fun block => block.node.ownScope?).getD 0

/-- The blocks with a name recorded in the innermost one that owns a scope. -/
def bindInNearest (name : Text) : List OpenNode → List OpenNode
  | [] => []
  | block :: rest =>
    if block.node.ownScope?.isSome then block.bindLocal name :: rest
    else block :: bindInNearest name rest

/-- Records a name as bound in the innermost scope. -/
def declareLocal (stack : BuildStack) (name : Text) : BuildStack :=
  { stack with blocks := bindInNearest name stack.blocks }

/-- The finished document, when no block is open any more. -/
def toDocument (stack : BuildStack) : Except Breach Document :=
  match stack.blocks with
  | [] => .ok ⟨stack.top.toList⟩
  | blocks => .error (.openAtEnd (blocks.reverse.map fun block => block.node.label))

end BuildStack

/-- A document under construction: the open blocks, and the number of the next scope. -/
structure Construction where
  stack : BuildStack
  nextScope : Nat
deriving Repr

namespace Construction

/-- A document of which nothing has been built. -/
def start : Construction := ⟨BuildStack.empty, 1⟩

/-- Opens the block that `make` gives for the number of its scope. -/
def openScope (construction : Construction) (make : Nat → Node) : Construction :=
  { stack := construction.stack.openBlock (make construction.nextScope)
    nextScope := construction.nextScope + 1 }

/-- Adds a node to the innermost open block. -/
def pushChild (construction : Construction) (node : Node) : Construction :=
  { construction with stack := construction.stack.pushChild node }

/-- Closes the innermost block, if a block is open. -/
def close (construction : Construction) : Construction :=
  { construction with stack := construction.stack.close }

/-- Adds the node that `make` gives for the number of the innermost scope, and records a name as
bound there. -/
def bindLocal (construction : Construction) (name : Text) (make : Nat → Node) : Construction :=
  let stack := construction.stack
  { construction with
    stack := (stack.pushChild (make stack.nearestScope)).declareLocal name }

end Construction

end Bracework
