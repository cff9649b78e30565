import Bracework.Format.DiagnosticRecord
import Bracework.Format.ExpressionRecord
import Bracework.Token

/-!
# Tokens as data

A token is a record in which an expression and a word on the scope are left out when there is
none. Kinds are names, except that the kind of a provider's token is marked as such.
-/

namespace Bracework

namespace TokenKind

/-- A kind as its name. -/
def datum (kind : TokenKind) : Datum :=
  match kind, kind.words? with
  | .custom tag, _ => .tagged "custom" (.text tag)
  | _, some words => .text words.underscored
  | _, none => .null

end TokenKind

namespace Token

/-- A token as a record, with numbers laid out by `number`. -/
def datum (number : Number → Datum) (token : Token) : Datum :=
  .record <|
    [("kind", token.kind.datum), ("raw", .text token.raw), ("value", .text token.value)] ++
    Datum.optional "expression" (token.expression.map (Expression.datum number)) ++
    [("span", .record [("start", .natural token.span.start), ("end", .natural token.span.stop)]),
      ("position", token.position.datum)] ++
    Datum.optional "scope_behavior"
      (token.behavior.map fun behavior => .text behavior.words.underscored)

end Token

end Bracework
