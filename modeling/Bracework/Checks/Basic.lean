import Bracework.Text.Quoted

/-!
# Checks

A check states what is expected of a value and is run on the value and on the words for where
the value stands. It passes, or it fails with one mismatch: what was expected, what was found
instead, and where. Checks are combined in sequence, and the first mismatch counts.
-/

namespace Bracework

/-- How an expected text is compared with the text found. -/
inductive TextPattern where
  | exactly (expected : Text)
  | startsWith (expected : Text)
  | contains (expected : Text)
deriving DecidableEq, Repr

namespace TextPattern

/-- Whether a text is as expected. -/
def accepts : TextPattern → Text → Bool
  | .exactly expected, found => found == expected
  | .startsWith expected, found => (Text.after? expected found).isSome
  | .contains expected, found => Text.containsText expected found

/-- The expectation in words. -/
def render : TextPattern → Text
  | .exactly expected => "to be " ++ Text.apostrophed expected
  | .startsWith expected => "to start with " ++ Text.apostrophed expected
  | .contains expected => "to contain " ++ Text.apostrophed expected

end TextPattern

/-- What is not as expected. -/
inductive Discrepancy where
  /-- A part of the value is `found` and not `expected`. -/
  | differs (part : String) (expected found : Text)
  /-- Something expected is not there. -/
  | lacks (expected : Text)
  /-- A text is not as expected. -/
  | text (pattern : TextPattern) (found : Text)
  /-- There is no entry at an index; `extent` says which entries there are. -/
  | outOfBounds (entry : String) (index : Nat) (extent : Text)
deriving DecidableEq, Repr

namespace Discrepancy

/-- The wording of a discrepancy. -/
def message : Discrepancy → Text
  | .differs part expected found => "Expected " ++ part.toList ++ expected ++ ", found " ++ found
  | .lacks expected => "Expected " ++ expected
  | .text pattern found => "Expected text " ++ pattern.render ++ ", but got " ++ Text.apostrophed found
  | .outOfBounds entry index extent =>
    entry.toList ++ "index " ++ Text.ofNat index ++ " out of bounds (" ++ extent ++ ")"

end Discrepancy

/-- A discrepancy and where it is; the whole of a document needs no words for that. -/
structure Mismatch where
  place : Option Text
  discrepancy : Discrepancy
deriving DecidableEq, Repr

namespace Mismatch

/-- The wording of a mismatch. -/
def message (mismatch : Mismatch) : Text :=
  match mismatch.place with
  | some place => place ++ ": " ++ mismatch.discrepancy.message
  | none => mismatch.discrepancy.message

end Mismatch

/-- What is expected of a value at a place. -/
abbrev Check (α : Type) := Text → α → Except Mismatch Unit

namespace Check

variable {α : Type}

/-- Fails at a place. -/
def fail (place : Text) (discrepancy : Discrepancy) : Except Mismatch Unit :=
  .error ⟨some place, discrepancy⟩

/-- Passes if a condition holds and fails otherwise. -/
def require (holds : Bool) (place : Text) (discrepancy : Discrepancy) : Except Mismatch Unit :=
  if holds then .ok () else fail place discrepancy

/-- Runs checks one after the other. -/
def all (checks : List (Check α)) : Check α := fun place value =>
  checks.forM fun check => check place value

/-- The place of an entry of a list. -/
def entry (place : Text) (list : String) (index : Nat) : Text :=
  place ++ list.toList ++ "[" ++ Text.ofNat index ++ "]"

/-- Checks a text. -/
def text (pattern : TextPattern) : Check Text := fun place found =>
  require (pattern.accepts found) place (.text pattern found)

end Check

end Bracework
