import Bracework.Assembly.Stack
import Bracework.Extension.Provider

/-!
# From tokens to a document

A document is built token by token. An opening token opens a block with a number of its own, a
closing token closes the innermost block whatever kind it is of, and every other token becomes
at most one node. Comments leave nothing behind, and neither do values and bindings whose
expression could not be read.

A token of a provider is built by the first provider that takes it. If none does, it becomes a
node without a scope.
-/

namespace Bracework

namespace Construction

/-- Adds the node of a value, if there is an expression. -/
def addValue (construction : Construction) (escaped : Bool) :
    Option Expression → Construction
  | some expression => construction.pushChild (.print expression escaped)
  | none => construction

/-- Adds the node of a binding, if there is an expression. A durable binding belongs to the
outermost scope, any other to the innermost, which then gives the name back at its end. -/
def addBinding (construction : Construction) (name : Text) (durable : Bool) :
    Option Expression → Construction
  | some expression =>
    if durable then construction.pushChild (.binding name expression 0 true)
    else construction.bindLocal name fun scopeId => .binding name expression scopeId false
  | none => construction

/-- Adds a token of a provider. -/
def addCustom (options : Options) (construction : Construction) (tag : Text) (token : Token) :
    Construction :=
  match options.builder? token with
  | some provider => provider.assemble token construction
  | none => construction.pushChild (.custom tag token.value none [])

/-- Adds a token. -/
def addToken (options : Options) (construction : Construction) (token : Token) : Construction :=
  match token.kind with
  | .content => construction.pushChild (.content token.value)
  | .value escaped => construction.addValue escaped token.expression
  | .opens kind => construction.openScope fun scopeId => .scope kind token.expression scopeId []
  | .closes _ => construction.close
  | .declares => construction.openScope fun scopeId => .declaration token.value scopeId []
  | .renders => construction.pushChild (.rendering token.value token.expression)
  | .bindsName => construction.bindLocal token.value fun scopeId => .boundName token.value scopeId
  | .assigns durable => construction.addBinding token.value durable token.expression
  | .edits operation => construction.pushChild (.edit operation)
  | .comment => construction
  | .custom tag => construction.addCustom options tag token

end Construction

namespace Document

/-- The document that tokens stand for, unless a block is still open after the last one. -/
def ofTokens (options : Options) (tokens : List Token) : Except Breach Document :=
  (tokens.foldl (Construction.addToken options) Construction.start).stack.toDocument

end Document

end Bracework
