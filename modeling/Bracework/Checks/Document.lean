import Bracework.Checks.Basic
import Bracework.Document

/-!
# Checks on documents

A document is checked through its top-level nodes, and a node through its label, its variant and
what nodes of that variant have. Checks on the variant are families: bindings of all sorts form
one, and so do the declaration and the rendering of partials. Within a family, a check on a part
that a node does not have passes, except where it asks for what only the binding of a value has.
-/

namespace Bracework

/-- The families of nodes. -/
inductive NodeFamily where
  | content
  | print
  | scope
  | binding
  | partials
  | edit
  | custom
deriving DecidableEq, Repr

namespace NodeFamily

/-- The family of a node. -/
def ofNode : Node → NodeFamily
  | .content _ => .content
  | .print _ _ => .print
  | .scope _ _ _ _ => .scope
  | .boundName _ _ => .binding
  | .binding _ _ _ _ => .binding
  | .unbind _ _ => .binding
  | .declaration _ _ _ => .partials
  | .rendering _ _ => .partials
  | .edit _ => .edit
  | .custom _ _ _ _ => .custom

/-- The variants of a family. -/
def title : NodeFamily → Text
  | .content => "Content"
  | .print => "PathPrint"
  | .scope => "Scope"
  | .binding => "Alias, VariableBinding or Unbind"
  | .partials => "PartialDeclaration or PartialRender"
  | .edit => "TextEdit"
  | .custom => "Custom"

end NodeFamily

namespace Check

/-- The variants of nodes, in order. -/
def variants (nodes : List Node) : List Text := nodes.map Node.variant

/-- The number of nodes found, with their variants. -/
def found (nodes : List Node) (noun : String) : Text :=
  Text.ofNat nodes.length ++ noun.toList ++ ": " ++ Text.bracketed (variants nodes)

/-- Checks the variants of nodes. -/
def variantsAre (expected : List Text) : Check (List Node) := fun place nodes =>
  require (variants nodes == expected) place
    (.differs "node types " (Text.bracketed expected) (Text.bracketed (variants nodes)))

/-- Checks one node of a list. The place of the list is `place`, and that of the node is given
by `inner`. -/
def nodeAt (index : Nat) (inner : Text) (check : Check Node) : Check (List Node) :=
  fun place nodes =>
    match nodes[index]? with
    | some node => check inner node
    | none =>
      let extent := Text.ofNat nodes.length ++ " nodes: " ++ Text.bracketed (variants nodes)
      fail place (.outOfBounds "" index extent)

/-! ### Documents -/

/-- Checks the number of top-level nodes. -/
def itemCount (expected : Nat) : Check Document := fun _ document =>
  let nodes := document.children
  if nodes.length = expected then .ok ()
  else .error ⟨none, .differs "" (Text.ofNat expected ++ " items") (found nodes " items")⟩

/-- Checks the variants of the top-level nodes. -/
def itemVariants (expected : List Text) : Check Document := fun place document =>
  variantsAre expected place document.children

/-- Checks one top-level node. -/
def item (index : Nat) (check : Check Node) : Check Document := fun place document =>
  nodeAt index (entry [] "items" index) check place document.children

/-! ### Nodes -/

/-- Checks the label of a node. -/
def label (pattern : TextPattern) : Check Node := fun place node =>
  text pattern (place ++ " label") node.label

/-- Checks the family of a node, and the node further if it belongs to the family. -/
def family (expected : NodeFamily) (check : Check Node) : Check Node := fun place node =>
  if NodeFamily.ofNode node = expected then check place node
  else fail place (.differs "" expected.title (node.variant ++ " (" ++ node.label ++ ")"))

/-- Checks the text of content. -/
def contentText (pattern : TextPattern) : Check Node := fun place node =>
  match node with
  | .content written => text pattern place written
  | _ => .ok ()

/-- Checks the expression of a value. -/
def printed (expected : Text) : Check Node := fun place node =>
  match node with
  | .print expression _ =>
    let found := expression.render
    require (found == expected) place
      (.differs "expression " (Text.apostrophed expected) (Text.apostrophed found))
  | _ => .ok ()

/-- Checks whether a value is escaped. -/
def escaped (expected : Bool) : Check Node := fun place node =>
  match node with
  | .print _ found =>
    require (found == expected) place (.differs "escape " (Text.ofBool expected) (Text.ofBool found))
  | _ => .ok ()

/-- Checks the kind of a block. -/
def scopeKind (expected : ScopeKind) : Check Node := fun place node =>
  match node with
  | .scope found _ _ _ =>
    require (found == expected) place (.differs "scope kind " expected.title found.title)
  | _ => .ok ()

/-- Checks the condition of a block. -/
def condition (expected : Text) : Check Node := fun place node =>
  match node with
  | .scope _ condition _ _ =>
    let found := condition.map Expression.render
    require (found == some expected) place
      (.differs "condition " (Text.apostrophed expected) (Text.quotedOption found))
  | _ => .ok ()

/-- Checks that a block has no condition. -/
def noCondition : Check Node := fun place node =>
  match node with
  | .scope _ condition _ _ =>
    require condition.isNone place
      (.differs "no condition" [] (Text.quotedOption (condition.map Expression.render)))
  | _ => .ok ()

/-- The name and the scope of a binding. -/
def bindingParts? : Node → Option (Text × Nat)
  | .boundName name scopeId => some (name, scopeId)
  | .binding name _ scopeId _ => some (name, scopeId)
  | .unbind name scopeId => some (name, scopeId)
  | _ => none

/-- Checks the name of a binding. -/
def bindingName (expected : Text) : Check Node := fun place node =>
  match bindingParts? node with
  | some (found, _) =>
    require (found == expected) place
      (.differs "binding name " (Text.apostrophed expected) (Text.apostrophed found))
  | none => .ok ()

/-- Checks the scope of a binding. -/
def bindingScope (expected : Nat) : Check Node := fun place node =>
  match bindingParts? node with
  | some (_, found) =>
    require (found == expected) place
      (.differs "binding scope id " (Text.ofNat expected) (Text.ofNat found))
  | none => .ok ()

/-- Checks whether the binding of a value is durable. -/
def durable (expected : Bool) : Check Node := fun place node =>
  match node with
  | .binding _ _ _ found =>
    require (found == expected) place (.differs "durable " (Text.ofBool expected) (Text.ofBool found))
  | other => fail place (.differs "" "VariableBinding" other.variant)

/-- Checks the expression of the binding of a value. -/
def bound (expected : Text) : Check Node := fun place node =>
  match node with
  | .binding _ expression _ _ =>
    let found := expression.render
    require (found == expected) place
      (.differs "binding expression " (Text.apostrophed expected) (Text.apostrophed found))
  | other => fail place (.differs "" "VariableBinding" other.variant)

/-- The name of a declared or rendered partial. -/
def partialName? : Node → Option Text
  | .declaration name _ _ => some name
  | .rendering name _ => some name
  | _ => none

/-- Checks the name of a partial. -/
def partialName (expected : Text) : Check Node := fun place node =>
  match partialName? node with
  | some found =>
    require (found == expected) place
      (.differs "partial " (Text.apostrophed expected) (Text.apostrophed found))
  | none => .ok ()

/-- Checks the context that a partial is rendered with. -/
def partialContext (expected : Option Text) : Check Node := fun place node =>
  match node with
  | .rendering _ context =>
    let found := context.map Expression.render
    require (found == expected) place
      (.differs "partial context " (Text.quotedOption expected) (Text.quotedOption found))
  | _ => .ok ()

/-- Checks what a tag does to the text around it. -/
def edits (expected : TextOperation) : Check Node := fun place node =>
  match node with
  | .edit found =>
    require (found == expected) place (.differs "text edit " expected.words.camel found.words.camel)
  | _ => .ok ()

/-- Checks the tag of a provider's node. -/
def customTag (expected : Text) : Check Node := fun place node =>
  match node with
  | .custom found _ _ _ =>
    require (found == expected) place
      (.differs "custom tag " (Text.apostrophed expected) (Text.apostrophed found))
  | _ => .ok ()

/-- Checks the value of a provider's node. -/
def customValue (pattern : TextPattern) : Check Node := fun place node =>
  match node with
  | .custom _ value _ _ => text pattern place value
  | _ => .ok ()

/-! ### Children -/

/-- Checks the number of the children of a node. -/
def childCount (expected : Nat) : Check Node := fun place node =>
  require (node.children.length == expected) place
    (.differs "" (Text.ofNat expected ++ " children") (found node.children ""))

/-- Checks the variants of the children of a node. -/
def childVariants (expected : List Text) : Check Node := fun place node =>
  variantsAre expected place node.children

/-- Checks the scope that a node opens. -/
def scopeId (expected : Nat) : Check Node := fun place node =>
  require (node.ownScope? == some expected) place (.lacks ("scope id " ++ Text.ofNat expected))

/-- Checks one child of a node. -/
def child (index : Nat) (check : Check Node) : Check Node := fun place node =>
  nodeAt index (entry place ".children" index) check place node.children

end Check

end Bracework
