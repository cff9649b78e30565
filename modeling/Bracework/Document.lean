import Bracework.Expression.Printer
import Bracework.Text.Quoted

/-!
# Documents

A parsed template is a list of nodes in which blocks own their children. Blocks that open a
scope for names carry its number; the outermost scope is number zero. Names bound by an alias
or a local binding record the scope they belong to, and a block ends with one node per name
that gives the name back its former meaning.
-/

namespace Bracework

/-- The kinds of blocks that own children and may have a condition. -/
inductive ScopeKind where
  | ifTrue
  | ifNot
  | otherwise
  | each
  | whileTrue
  | doBlock
  | repeated
  /-- `{{#path}}`: the children have the path as their context. -/
  | expression
  /-- `{{^path}}`: the children stand in for a path without a value. -/
  | inverted
deriving DecidableEq, Repr

namespace ScopeKind

/-- The words that name a kind. -/
def words : ScopeKind → Words
  | .ifTrue => ["if"]
  | .ifNot => ["if", "not"]
  | .otherwise => ["else"]
  | .each => ["each"]
  | .whileTrue => ["while"]
  | .doBlock => ["do"]
  | .repeated => ["repeat"]
  | .expression => ["expression", "scope"]
  | .inverted => ["inverted", "scope"]

/-- The name of a kind in labels. -/
def title : ScopeKind → Text
  | .expression => "scope"
  | kind => kind.words.dashed

/-- All kinds. -/
def all : List ScopeKind :=
  [.ifTrue, .ifNot, .otherwise, .each, .whileTrue, .doBlock, .repeated, .expression, .inverted]

/-- The kind with a given name. -/
def named? (name : Text) : Option ScopeKind :=
  all.find? fun kind => kind.words.underscored == name

end ScopeKind

/-- The changes that a tag may ask for in the text around it. -/
inductive TextOperation where
  | appendLineBreak
  | trimLineBreak
  | trimLineBreaks
  | trimEverything
deriving DecidableEq, Repr

namespace TextOperation

/-- The words that name an operation. -/
def words : TextOperation → Words
  | .appendLineBreak => ["append", "line", "break"]
  | .trimLineBreak => ["trim", "line", "break"]
  | .trimLineBreaks => ["trim", "line", "breaks"]
  | .trimEverything => ["trim", "everything"]

/-- All operations. -/
def all : List TextOperation :=
  [.appendLineBreak, .trimLineBreak, .trimLineBreaks, .trimEverything]

/-- The operation with a given name. -/
def named? (name : Text) : Option TextOperation :=
  all.find? fun operation => operation.words.underscored == name

end TextOperation

/-- A node of a document. -/
inductive Node where
  | content (text : Text)
  | print (expression : Expression) (escape : Bool)
  | scope (kind : ScopeKind) (condition : Option Expression) (scopeId : Nat)
      (children : List Node)
  /-- A name for the items of the block it belongs to. -/
  | boundName (name : Text) (scopeId : Nat)
  /-- A name for a value. A durable binding is global, any other lives until its block ends. -/
  | binding (name : Text) (expression : Expression) (scopeId : Nat) (durable : Bool)
  | unbind (name : Text) (scopeId : Nat)
  | declaration (name : Text) (scopeId : Nat) (children : List Node)
  | rendering (name : Text) (context : Option Expression)
  | edit (operation : TextOperation)
  /-- A node made by a tag provider. -/
  | custom (tag value : Text) (scopeId : Option Nat) (children : List Node)
deriving Repr, BEq, Inhabited

namespace Node

/-- The nodes that a node owns. -/
def children : Node → List Node
  | .scope _ _ _ children => children
  | .declaration _ _ children => children
  | .custom _ _ _ children => children
  | _ => []

/-- A node with other children; a node that owns none stays as it is. -/
def withChildren (children : List Node) : Node → Node
  | .scope kind condition scopeId _ => .scope kind condition scopeId children
  | .declaration name scopeId _ => .declaration name scopeId children
  | .custom tag value scopeId _ => .custom tag value scopeId children
  | leaf => leaf

/-- The number of the scope that a node opens. -/
def ownScope? : Node → Option Nat
  | .scope _ _ scopeId _ => some scopeId
  | .declaration _ scopeId _ => some scopeId
  | .custom _ _ scopeId _ => scopeId
  | _ => none

/-- The words that name the variant of a node. -/
def words : Node → Words
  | .content _ => ["content"]
  | .print _ _ => ["path", "print"]
  | .scope _ _ _ _ => ["scope"]
  | .boundName _ _ => ["alias"]
  | .binding _ _ _ _ => ["variable", "binding"]
  | .unbind _ _ => ["unbind"]
  | .declaration _ _ _ => ["partial", "declaration"]
  | .rendering _ _ => ["partial", "render"]
  | .edit _ => ["text", "edit"]
  | .custom _ _ _ _ => ["custom"]

/-- The name of the variant of a node in listings. -/
def variant (node : Node) : Text := node.words.camel

/-- The number of a scope at the end of a label. -/
def scopeMark (scopeId : Nat) : Text := " #" ++ Text.ofNat scopeId

/-- A node in one line, its children left out. -/
def label : Node → Text
  | .content text => text.quoted
  | .print expression true => expression.render
  | .print expression false => expression.render ++ " (unescaped)"
  | .scope kind (some condition) scopeId _ =>
    kind.title ++ " " ++ condition.render ++ scopeMark scopeId
  | .scope kind none scopeId _ => kind.title ++ scopeMark scopeId
  | .boundName name scopeId => name ++ scopeMark scopeId
  | .binding name expression scopeId durable =>
    (if durable then "var " else "let ") ++ name ++ " = " ++ expression.render
      ++ scopeMark scopeId
  | .unbind name scopeId => name ++ scopeMark scopeId
  | .declaration name scopeId _ => name ++ scopeMark scopeId
  | .rendering name (some context) => name ++ " with " ++ context.render
  | .rendering name none => name
  | .edit operation => operation.words.camel
  | .custom tag value _ _ => tag ++ " " ++ value

mutual

/-- A node and all nodes below it, each before its children. -/
def walk : Node → List Node
  | .content text => [.content text]
  | .print expression escape => [.print expression escape]
  | .scope kind condition scopeId children =>
    .scope kind condition scopeId children :: walkAll children
  | .boundName name scopeId => [.boundName name scopeId]
  | .binding name expression scopeId durable => [.binding name expression scopeId durable]
  | .unbind name scopeId => [.unbind name scopeId]
  | .declaration name scopeId children => .declaration name scopeId children :: walkAll children
  | .rendering name context => [.rendering name context]
  | .edit operation => [.edit operation]
  | .custom tag value scopeId children => .custom tag value scopeId children :: walkAll children

/-- The nodes of a list and all nodes below them, each before its children. -/
def walkAll : List Node → List Node
  | [] => []
  | first :: rest => walk first ++ walkAll rest

end

end Node

/-- A parsed template. -/
structure Document where
  children : List Node
deriving Repr, BEq

namespace Document

/-- All nodes of a document, each before its children. -/
def allNodes (document : Document) : List Node := Node.walkAll document.children

end Document

end Bracework
