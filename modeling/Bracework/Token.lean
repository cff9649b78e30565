import Bracework.Document
import Bracework.Source.Position
import Bracework.Tag.Clause

/-!
# Tokens

A template is read as one token per run of content and, in most cases, one per tag. A few tags
give two: a block with a name for its items is followed by a token for the name, and
`{{#ifelse}}` closes an if block and opens its else block. Only the first token of a tag carries
the source text, so the source texts of all tokens in order are the template.
-/

namespace Bracework

/-- What a closing tag closes. One tag closes both kinds of if blocks, and one closes both kinds
of blocks that are opened by a path alone. -/
inductive Closer where
  | ifBlock
  | otherwise
  | each
  | whileTrue
  | doBlock
  | repeated
  | declaration
  | scope
deriving DecidableEq, Repr

/-- What a token stands for. -/
inductive TokenKind where
  | content
  | value (escaped : Bool)
  | opens (kind : ScopeKind)
  | closes (closer : Closer)
  | declares
  | renders
  /-- A name for the items of the block opened by the token before. -/
  | bindsName
  | assigns (durable : Bool)
  | edits (operation : TextOperation)
  | comment
  /-- Made by a tag provider, which names the kind. -/
  | custom (tag : Text)
deriving DecidableEq, Repr

namespace TokenKind

/-- The words that name a kind of opening token. -/
def opening : ScopeKind → Words
  | .ifTrue => ["if"]
  | .ifNot => ["if", "not"]
  | .otherwise => ["else"]
  | .each => ["collection", "open"]
  | .whileTrue => ["while", "open"]
  | .doBlock => ["do", "open"]
  | .repeated => ["repeat", "open"]
  | .expression => ["scope", "open"]
  | .inverted => ["inverted", "scope", "open"]

/-- The words that name a kind of closing token. -/
def closing : Closer → Words
  | .ifBlock => ["if", "close"]
  | .otherwise => ["else", "close"]
  | .each => ["collection", "close"]
  | .whileTrue => ["while", "close"]
  | .doBlock => ["do", "close"]
  | .repeated => ["repeat", "close"]
  | .declaration => ["partial", "declaration", "close"]
  | .scope => ["scope", "close"]

/-- The words that name a kind of token for a change of the text. -/
def editing : TextOperation → Words
  | .appendLineBreak => ["write", "line", "break"]
  | .trimLineBreak => ["trim", "line", "break"]
  | .trimLineBreaks => ["trim", "line", "breaks"]
  | .trimEverything => ["trim", "everything"]

/-- The words that name a kind, for every kind that is not a provider's. -/
def words? : TokenKind → Option Words
  | .content => some ["content"]
  | .value true => some ["escaped", "value"]
  | .value false => some ["unescaped", "value"]
  | .opens kind => some (opening kind)
  | .closes closer => some (closing closer)
  | .declares => some ["partial", "declaration", "open"]
  | .renders => some ["render", "partial"]
  | .bindsName => some ["alias"]
  | .assigns true => some ["variable", "var"]
  | .assigns false => some ["variable", "let"]
  | .edits operation => some (editing operation)
  | .comment => some ["comment"]
  | .custom _ => none

/-- The name of a kind in listings. -/
def render (kind : TokenKind) : Text :=
  match kind, kind.words? with
  | .custom tag, _ => "Custom(" ++ tag ++ ")"
  | _, some words => words.camel
  | _, none => []

/-- Every kind that is not a provider's. -/
def all : List TokenKind :=
  [.content, .value true, .value false, .declares, .renders, .bindsName, .assigns true,
   .assigns false, .comment] ++
  ScopeKind.all.map .opens ++
  [Closer.ifBlock, .otherwise, .each, .whileTrue, .doBlock, .repeated, .declaration,
   .scope].map .closes ++
  TextOperation.all.map .edits

/-- The kind with a given name. -/
def named? (name : Text) : Option TokenKind :=
  all.find? fun kind => kind.words?.any fun words => words.underscored == name

end TokenKind

/-- The bytes of a template from `start` up to `stop`. -/
structure Span where
  start : Nat
  stop : Nat
deriving DecidableEq, Repr

/-- A token. -/
structure Token where
  kind : TokenKind
  /-- The source text of the tag or the content; empty for the second token of a tag. -/
  raw : Text
  /-- The payload: the text of an expression, a name, or the content. -/
  value : Text
  expression : Option Expression
  span : Span
  position : Position
  behavior : Option ScopeBehavior
deriving Repr, BEq

namespace Token

/-- A token with neither an expression nor a word on its scope. -/
def plain (kind : TokenKind) (raw value : Text) (span : Span) (position : Position) : Token :=
  { kind, raw, value, expression := none, span, position, behavior := none }

/-- The token with an expression. -/
def withExpression (token : Token) (expression : Option Expression) : Token :=
  { token with expression }

/-- The token with a word on its scope. -/
def withBehavior (token : Token) (behavior : Option ScopeBehavior) : Token :=
  { token with behavior }

/-- Whether a token is content. -/
def isContent (token : Token) : Bool := token.kind == .content

/-- A token in one line: its kind, and its expression or else its value. -/
def render (token : Token) : Text :=
  match token.expression with
  | some expression => token.kind.render ++ "(" ++ expression.render ++ ")"
  | none =>
    if token.value = [] then token.kind.render
    else token.kind.render ++ "(" ++ token.value.quoted ++ ")"

/-- The source text that tokens were read from. -/
def detokenize (tokens : List Token) : Text := tokens.flatMap raw

end Token

end Bracework
