import Bracework.Proofs.Expression.Links
import Bracework.Proofs.Expression.WrittenPath
import Bracework.Proofs.Text.Trimmed

/-!
# Legible expressions

The written form of an expression leaves out what does not change the meaning: the dot before the
first name of a path, the dot behind `~`, and the blanks before a dot. Sometimes what is left out
was all that kept two readings apart:

    .1 + 2      a path, written `1 + 2`, which begins with a number
    ~... + 2    a path, written `~.. + 2`, whose second step is lost
    a .b        two paths, written `a.b`, which is one
    1 .5        two numbers, written `1.5`, which is one

An expression is legible when none of this happens in it. What stands behind a part of an
expression in its written form is described here as well, since it decides where the part ends.
-/

namespace Bracework

/-- Whether a path loses its second step is decided by its first two segments. -/
instance Segment.decidableLosesDot : DecidablePred Segment.LosesDot
  | [] => .isFalse id
  | [_] => .isFalse id
  | first :: second :: _ =>
    inferInstanceAs (Decidable (first = Segment.outermost ∧ second = Segment.enclosing))

namespace Expression

/-- Whether the first character of a text begins a path. -/
def opensPath (text : Text) : Bool := text.head?.any beginsPath

/-- Whether an expression is complete in front of a text. A path goes on behind a dot, and a whole
number does when a digit follows the dot. -/
def stays : Expression → Text → Bool
  | .path _, '.' :: _ => false
  | .number ⟨_, .integer _⟩, '.' :: digit :: _ => !isDigit digit
  | _, _ => true

mutual

/-- Whether the written form of an expression shows where its parts begin and end. -/
def isLegible : Expression → Bool
  | .path segments =>
    opensPath (Segment.renderAll segments) && !decide (Segment.LosesDot segments)
  | .call receiver formatter arguments =>
    opensPath (renderReceiver receiver ++ formatter) && !decide (Segment.LosesDot receiver) &&
      areArgumentsLegible arguments
  | .number _ => true
  | .string _ => true
  | .sequence items => areItemsLegible items
  | .binary _ left right => isLegible left && isLegible right
  | .invert operand => isLegible operand

/-- Whether all arguments of a call are legible. -/
def areArgumentsLegible : List (Argument Expression) → Bool
  | [] => true
  | first :: rest => isArgumentLegible first && areArgumentsLegible rest

/-- Whether the value of an argument is legible. -/
def isArgumentLegible : Argument Expression → Bool
  | ⟨_, value⟩ => isLegible value

/-- Whether the items of a sequence are legible, and each is complete before the next. -/
def areItemsLegible : List Expression → Bool
  | [] => true
  | [last] => isLegible last
  | first :: second :: rest =>
    isLegible first && stays first ('.' :: renderItems (second :: rest)) &&
      areItemsLegible (second :: rest)

end

/-- Whether the written form of an expression, standing alone, is read as the expression. A path
that stands alone may begin with any character of a name that is no digit. -/
def readsAlone : Expression → Bool
  | .path segments =>
    !(Segment.renderAll segments).head?.any isDigit && !decide (Segment.LosesDot segments)
  | expression => expression.isLegible

end Expression

/-! ### First and last characters -/

/-- Whether a character may be the first of a written operand. -/
def beginsOperand (character : Char) : Bool :=
  isQuote character || isPathChar character && character != '/'

/-- A character that begins an operand has no other part to play. -/
theorem beginsOperand_plain {character : Char} (begins : beginsOperand character = true) :
    isBlank character = false ∧ isOperatorChar character = false ∧ character ≠ '[' ∧
      character ≠ ')' ∧ ∀ draft, Grammar.continuesPath draft character = true := by
  have fixed (mark : Char) (same : character = mark)
      (plain : isBlank mark = false ∧ isOperatorChar mark = false ∧ mark ≠ '[' ∧ mark ≠ ')' ∧
        mark ≠ '/' ∧ (mark == '.' || !(mark == '(' || isOperatorChar mark || isBlank mark ||
          endsArgument mark)) = true) :
      isBlank character = false ∧ isOperatorChar character = false ∧ character ≠ '[' ∧
        character ≠ ')' ∧ ∀ draft, Grammar.continuesPath draft character = true := by
    obtain ⟨blank, operator, opening, closing, slash, continues⟩ := plain
    subst same
    exact ⟨blank, operator, opening, closing, fun draft => by
      rw [Grammar.continuesPath, if_neg slash, continues]⟩
  simp only [beginsOperand, isQuote, isPathChar, Bool.or_eq_true, Bool.and_eq_true, bne_iff_ne,
    beq_iff_eq] at begins
  rcases begins with (same | same) | ⟨((((name | same) | same) | same) | same) | same, notSlash⟩
  · exact fixed _ same (by decide)
  · exact fixed _ same (by decide)
  · obtain ⟨operator, blank, ends, -, -, call⟩ := nameChar_plain name
    refine ⟨blank, operator, nameChar_ne name (by decide), nameChar_ne name (by decide),
      fun draft => ?_⟩
    rw [Grammar.continuesPath, if_neg notSlash]
    simp [operator, blank, ends, call]
  · exact fixed _ same (by decide)
  · exact fixed _ same (by decide)
  · exact fixed _ same (by decide)
  · exact absurd same notSlash
  · exact fixed _ same (by decide)

/-- A text that begins an operand and ends with no blank. -/
structure Framed (text : Text) : Prop where
  begins : text.head?.any beginsOperand = true
  ends : ∀ last ∈ text.getLast?, isBlank last = false

variable {text before after : Text}

/-- A text of which the first character is of a class has a first character. -/
theorem exists_cons_of_head {inClass : Char → Bool} (opens : text.head?.any inClass = true) :
    ∃ first rest, text = first :: rest ∧ inClass first = true := by
  cases text with
  | nil => cases opens
  | cons first rest => exact ⟨first, rest, rfl, opens⟩

/-- What stands behind a text changes nothing about its first character. -/
theorem head_append {inClass : Char → Bool} (opens : text.head?.any inClass = true)
    (after : Text) : (text ++ after).head?.any inClass = true := by
  obtain ⟨first, rest, rfl, isIn⟩ := exists_cons_of_head opens
  exact isIn

/-- No blank is dropped where an operand begins. -/
theorem skip_operand (begins : text.head?.any beginsOperand = true) :
    Grammar.skip text = text := by
  obtain ⟨first, rest, rfl, isFirst⟩ := exists_cons_of_head begins
  exact Text.trimStart_eq_self fun character found => by
    cases found
    exact (beginsOperand_plain isFirst).1

namespace Framed

/-- A framed text is not empty. -/
theorem nonempty (framed : Framed text) : text ≠ [] := by
  obtain ⟨first, rest, shape, -⟩ := exists_cons_of_head framed.begins
  rw [shape]
  exact List.cons_ne_nil _ _

/-- A framed text is trimmed. -/
theorem trimBlanks_eq (framed : Framed text) : text.trimBlanks = text := by
  obtain ⟨first, rest, shape, begins⟩ := exists_cons_of_head framed.begins
  refine Text.trim_eq_self (fun character found => ?_) framed.ends
  rw [shape] at found
  cases found
  exact (beginsOperand_plain begins).1

/-- What stands between two framed texts leaves the frame as it is. -/
theorem append (first : Framed before) (last : Framed after) (between : Text) :
    Framed (before ++ between ++ after) := by
  constructor
  · rw [List.append_assoc]
    exact head_append first.begins _
  · intro character found
    have whole : (before ++ between ++ after).getLast? = after.getLast? := by
      rw [List.getLast?_append]
      cases tail : after.getLast? with
      | none => exact absurd (List.getLast?_eq_none_iff.1 tail) last.nonempty
      | some => rfl
    rw [whole] at found
    exact last.ends character found

/-- A mark may stand behind a text that begins an operand. -/
theorem snoc (begins : text.head?.any beginsOperand = true) {mark : Char}
    (notBlank : isBlank mark = false) (between : Text) : Framed (text ++ between ++ [mark]) := by
  constructor
  · rw [List.append_assoc]
    exact head_append begins _
  · intro last found
    rw [List.getLast?_append] at found
    cases found
    exact notBlank

end Framed

/-! ### What follows -/

/-- What may stand behind an expression as a whole: nothing, a comma, or a closing bracket. -/
inductive Closes : Text → Prop
  | nothing : Closes []
  | comma (rest : Text) : Closes (',' :: rest)
  | bracket (rest : Text) : Closes (')' :: rest)

/-- What may stand behind an operand that is no item, or the last one: an operator as well. -/
inductive Ends : Text → Prop
  | closes {after : Text} (closes : Closes after) : Ends after
  | mark (rest : Text) : Ends ('!' :: rest)
  | operator (operator : BinaryOperator) (rest : Text) :
      Ends (' ' :: (operator.symbol ++ ' ' :: rest))

/-- What may stand behind an operand: a dot and the next item as well. -/
inductive Continues : Text → Prop
  | ends {after : Text} (ends : Ends after) : Continues after
  | dot {first : Char} (begins : beginsOperand first = true) (rest : Text) :
      Continues ('.' :: first :: rest)

/-- Behind an expression as a whole, nothing continues it. -/
theorem Closes.plain (closes : Closes after) : Grammar.skip after = after ∧
    Text.after? ['.'] after = none ∧ Operator.read? after = none := by
  cases closes with
  | nothing => exact ⟨rfl, rfl, rfl⟩
  | comma => exact ⟨rfl, rfl, rfl⟩
  | bracket => exact ⟨rfl, rfl, rfl⟩

/-- Behind the last operand of an item, no dot is next. -/
theorem Ends.dotless (ends : Ends after) : Text.after? ['.'] (Grammar.skip after) = none := by
  cases ends with
  | closes closes =>
    obtain ⟨trimmed, dotless, -⟩ := closes.plain
    rw [trimmed, dotless]
  | mark => rfl
  | operator operator => cases operator <;> rfl

/-- No path and no number goes on at an operator, a comma, a bracket or the end. -/
theorem Ends.head (ends : Ends after) : ∀ first ∈ after.head?, first ≠ '.' ∧ first ≠ '(' ∧
    isNameChar first = false ∧ ∀ draft, Grammar.continuesPath draft first = false := by
  have plain (mark : Char) (isMark : mark = ',' ∨ mark = ')' ∨ mark = '!' ∨ mark = ' ') :
      mark ≠ '.' ∧ mark ≠ '(' ∧ isNameChar mark = false ∧
        ∀ draft, Grammar.continuesPath draft mark = false := by
    rcases isMark with rfl | rfl | rfl | rfl <;>
      exact ⟨by decide, by decide, by decide, fun draft => rfl⟩
  intro first found
  apply plain
  cases ends with
  | closes closes =>
    cases closes with
    | nothing => cases found
    | comma => exact Or.inl (Option.some.inj found).symm
    | bracket => exact Or.inr (Or.inl (Option.some.inj found).symm)
  | mark => exact Or.inr (Or.inr (Or.inl (Option.some.inj found).symm))
  | operator => exact Or.inr (Or.inr (Or.inr (Option.some.inj found).symm))

/-- What follows an operand begins with no character of a name. -/
theorem Continues.notName (continues : Continues after) :
    after.head?.any isNameChar = false := by
  cases continues with
  | ends ends =>
    cases after with
    | nil => rfl
    | cons first rest => exact (ends.head first rfl).2.2.1
  | dot => exact (by decide : isNameChar '.' = false)

/-- A mark behind an expression is read as one, since no `=` can follow it. -/
theorem Continues.read_mark (continues : Continues after) :
    Operator.read? ('!' :: after) = some (.invert, after) := by
  cases continues with
  | ends ends =>
    cases ends with
    | closes closes => cases closes <;> rfl
    | mark => rfl
    | operator => rfl
  | dot => rfl

/-- The symbol of an operator is read with a blank behind it. -/
theorem read_symbol (operator : BinaryOperator) (rest : Text) :
    Operator.read? (Grammar.skip (' ' :: (operator.symbol ++ ' ' :: rest))) =
      some (.binary operator, ' ' :: rest) := by
  cases operator <;> rfl

end Bracework
