import Bracework.Expression.Fault
import Bracework.Text.Words

/-!
# Problems

Everything that can be wrong with a template is one of these causes. The wording for people,
what would have been valid instead and the text found are functions of the cause. Tag
providers, which know tags that this library does not, report in their own words.
-/

namespace Bracework

/-- The categories that problems are sorted into. -/
inductive Category where
  /-- A closing tag without a matching opening tag. -/
  | unopenedScope
  /-- An opening tag that is never closed. -/
  | unclosedScope
  /-- A malformed tag or expression. -/
  | syntaxError
  /-- An expression that could mean more than one thing. -/
  | ambiguousExpression
deriving DecidableEq, Repr

namespace Category

/-- The words that name a category. -/
def words : Category → Words
  | .unopenedScope => ["unopened", "scope"]
  | .unclosedScope => ["unclosed", "scope"]
  | .syntaxError => ["syntax", "error"]
  | .ambiguousExpression => ["ambiguous", "expression"]

end Category

/-- Why the payload of a binding is not a name, an equals sign and an expression. -/
inductive AssignmentFault where
  | missingName
  | missingEquals
  | missingExpression
deriving DecidableEq, Repr

namespace AssignmentFault

/-- The wording of a fault. -/
def message : AssignmentFault → Text
  | .missingName => "expected a variable name"
  | .missingEquals => "expected '=' after the variable name"
  | .missingExpression => "expected an expression after '='"

end AssignmentFault

/-- What is wrong with a template. -/
inductive Problem where
  /-- A closing tag for `keyword`, where `expected` would have been the closing tag. -/
  | unopened (keyword expected : Text)
  /-- A block that is open at the end, and the tag that would have closed it. -/
  | unclosed (label closing : Text)
  /-- A text that is no path or expression, where `expected` was looked for. -/
  | invalidPath (written expected : Text)
  /-- A fault in the expression `whole`. -/
  | expression (fault : ExpressionFault) (whole : Text)
  /-- A name bound by an if block, which binds none. -/
  | aliasOnIf (name : Text)
  /-- A payload after a tag that takes none. -/
  | unexpectedArgument (tag argument : Text)
  /-- An else that does not follow an if block. -/
  | misplacedElse (tag : Text)
  /-- A tag of the form `expected` without the name of a partial. -/
  | missingPartialName (written expected : Text)
  /-- A partial that is neither registered nor declared so far. -/
  | unknownPartial (name : Text)
  /-- A text after the name of a partial that is no context clause. -/
  | afterPartialName (written : Text)
  | assignment (fault : AssignmentFault) (written : Text)
  /-- A problem reported by a tag provider in its own words. -/
  | reported (category : Category) (message expected actual : Text)
deriving DecidableEq, Repr

namespace Problem

/-- The category of a problem. -/
def category : Problem → Category
  | .unopened _ _ => .unopenedScope
  | .unclosed _ _ => .unclosedScope
  | .expression fault _ => if fault.isAmbiguous then .ambiguousExpression else .syntaxError
  | .reported category _ _ _ => category
  | _ => .syntaxError

/-- The wording of a problem. -/
def message : Problem → Text
  | .unopened keyword _ =>
    "found a closing '" ++ keyword ++ "' tag without a matching open tag"
  | .unclosed label _ => "'" ++ label ++ "' is opened here but never closed"
  | .invalidPath _ _ => "invalid path or expression"
  | .expression fault _ => fault.message
  | .aliasOnIf _ => "an if block cannot declare an alias"
  | .unexpectedArgument tag _ => "'" ++ tag ++ "' does not take an argument"
  | .misplacedElse _ => "could not find an /if block for this else"
  | .missingPartialName _ _ => "expected a partial name"
  | .unknownPartial name => "no partial named '" ++ name ++ "' has been declared"
  | .afterPartialName _ => "unexpected text after the partial name"
  | .assignment fault _ => fault.message
  | .reported _ message _ _ => message

/-- What would have been valid, or nothing where that cannot be said. -/
def expected : Problem → Text
  | .unopened _ expected => expected
  | .unclosed _ closing => closing
  | .invalidPath _ expected => expected
  | .expression fault _ => fault.expected
  | .aliasOnIf _ => "\x7b\x7b#if expression\x7d\x7d"
  | .unexpectedArgument tag _ => tag
  | .misplacedElse _ => "\x7b\x7b/if\x7d\x7d"
  | .missingPartialName _ expected => expected
  | .unknownPartial _ => "the name of a declared partial"
  | .afterPartialName _ => "With expression"
  | .assignment _ _ => "name = expression"
  | .reported _ _ expected _ => expected

/-- The text that a problem is about. -/
def actual : Problem → Text
  | .unopened keyword _ => keyword
  | .unclosed label _ => label
  | .invalidPath written _ => written
  | .expression fault whole => fault.subject whole
  | .aliasOnIf name => name
  | .unexpectedArgument _ argument => argument
  | .misplacedElse tag => tag
  | .missingPartialName written _ => written
  | .unknownPartial name => name
  | .afterPartialName written => written
  | .assignment _ written => written
  | .reported _ _ _ actual => actual

end Problem

end Bracework
