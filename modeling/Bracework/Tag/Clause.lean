import Bracework.Diagnostic.Problem
import Bracework.Tag.Parts
import Bracework.Text.Located

/-!
# Clauses of a payload

What follows the keyword of a tag may hold clauses: a name bound by a trailing `AS`, a word
before it that says whether an item becomes the context, the context that a partial is included
`With`, and the name and the expression of a binding. The words of clauses may be written in
any case.

The cuts find no faults of their own. They say what is there and where it begins, and leave the
rest to the reader of the tag.
-/

namespace Bracework

/-- A text cut at a trailing `AS` and name. -/
structure AliasSplit where
  /-- The text before the clause, or all of it without one. -/
  head : Text
  /-- The name that the clause binds. -/
  name : Option Text
  /-- Where the name begins in the text. -/
  nameOffset : Nat
deriving DecidableEq, Repr

namespace AliasSplit

/-- Cuts off a trailing `AS name`. The name is a run of ASCII letters that ends the text, and
blanks have to stand before it and before the word `AS`. -/
def ofText (text : Text) : AliasSplit :=
  let reversed := text.reverse
  let beforeName := reversed.dropWhile isAsciiLetter
  let word := beforeName.dropWhile isBlank
  let uncut : AliasSplit := ⟨text, none, 0⟩
  if beforeName.length = reversed.length ∨ word.length = beforeName.length then uncut
  else match word with
    | second :: first :: beforeWord =>
      let head := beforeWord.dropWhile isBlank
      if Text.sameWord [first, second] "as" ∧ head.length < beforeWord.length then
        { head := head.reverse
          name := some (reversed.takeWhile isAsciiLetter).reverse
          nameOffset := Text.byteLength beforeName.reverse }
      else uncut
    | _ => uncut

end AliasSplit

/-- Whether the items of an aliased block become the context. -/
inductive ScopeBehavior where
  /-- Written `WithScope`: an item becomes the context although it has a name. -/
  | scopeAnyway
  /-- Written `NoScope`: an item only gets its name. -/
  | doNotScope
deriving DecidableEq, Repr

namespace ScopeBehavior

/-- The words that name a behaviour. -/
def words : ScopeBehavior → Words
  | .scopeAnyway => ["scope", "anyway"]
  | .doNotScope => ["do", "not", "scope"]

/-- The text before a trailing word, when blanks stand between the two. -/
def beforeWord? (word text : Text) : Option Text :=
  let split := text.length - word.length
  let head := text.take split
  let trimmed := Text.trimEnd isBlank head
  if Text.sameWord (text.drop split) word ∧ trimmed.length < head.length then some trimmed
  else none

/-- Cuts off a trailing `NoScope` or `WithScope`. -/
def splitOff (text : Text) : Text × Option ScopeBehavior :=
  match beforeWord? "noscope" text with
  | some head => (head, some .doNotScope)
  | none =>
    match beforeWord? "withscope" text with
    | some head => (head, some .scopeAnyway)
    | none => (text, none)

end ScopeBehavior

/-- The payload of an inclusion in its parts. -/
structure Inclusion where
  name : Text
  /-- The expression after `With`. -/
  context : Option Located
  /-- Anything after the name that is no such clause. -/
  trailing : Option Text
deriving DecidableEq, Repr

namespace Inclusion

/-- What follows the word `With` and its blank, together with the blanks before the word. -/
def contextClause? (after : Text) : Option (Text × Text) :=
  let gap := after.takeWhile isBlank
  let clause := after.dropWhile isBlank
  let rest := clause.drop 4
  if gap ≠ [] ∧ Text.sameWord (clause.take 4) "with" ∧ rest.head?.any isBlank then
    some (gap, rest)
  else none

/-- Cuts the payload of an inclusion. The name is the longest run of name characters. -/
def ofPayload (payload : Located) : Inclusion :=
  let payload := payload.trim
  let name : Text := payload.text.takeWhile isNameChar
  let after : Text := payload.text.dropWhile isNameChar
  if after = [] then ⟨name, none, none⟩
  else
    match contextClause? after with
    | some (gap, rest) =>
      let offset := payload.offset + name.byteLength + gap.byteLength + 4
      ⟨name, some (Located.trim ⟨rest, offset⟩), none⟩
    | none => ⟨name, none, some after.trimSpace⟩

end Inclusion

/-- The payload of a binding in its parts. -/
structure Assignment where
  name : Text
  expression : Located
deriving DecidableEq, Repr

namespace Assignment

/-- Cuts a payload into a name, an equals sign and an expression that is not empty. -/
def ofPayload (payload : Located) : Except AssignmentFault Assignment :=
  let payload := payload.trim
  let name : Text := payload.text.takeWhile isNameChar
  let after : Text := payload.text.dropWhile isNameChar
  if name = [] then .error .missingName
  else
    match after.dropWhile isBlank with
    | '=' :: rest =>
      let gap : Text := after.takeWhile isBlank
      let offset := payload.offset + name.byteLength + gap.byteLength + 1
      let expression := Located.trim ⟨rest, offset⟩
      if expression.text = [] then .error .missingExpression else .ok { name, expression }
    | _ => .error .missingEquals

end Assignment

end Bracework
