import Mathlib
import Bracework.Tag.Parts

/-!
# Words in any case

Keywords and the words of clauses may be written in any case, which is the case of ASCII letters
alone. Two words that are the same have the same length, one consists of letters when the other
does, and a word of letters takes one byte for each.
-/

namespace Bracework

/-- A letter takes one byte. -/
theorem utf8Size_letter {character : Char} (letter : isAsciiLetter character = true) :
    character.utf8Size = 1 := by
  have bound : character.val ≤ 0x7f := by
    simp only [isAsciiLetter, Char.isAlpha, Char.isUpper, Char.isLower, Bool.or_eq_true,
      Bool.and_eq_true, decide_eq_true_eq] at letter
    rcases letter with upper | lower
    · exact UInt32.le_trans upper.2 (by decide)
    · exact UInt32.le_trans lower.2 (by decide)
  exact if_pos bound

namespace Text

variable {left right text : Text}

/-- Words that are the same have the same length. -/
theorem sameWord_length (same : sameWord left right = true) : left.length = right.length := by
  have mapped : left.map Char.toLower = right.map Char.toLower := beq_iff_eq.1 same
  simpa using congrArg List.length mapped

/-- Words that are the same both consist of letters, or neither does. -/
theorem sameWord_letters (same : sameWord left right = true) :
    left.all isAsciiLetter = right.all isAsciiLetter := by
  have mapped : left.map Char.toLower = right.map Char.toLower := beq_iff_eq.1 same
  have small (word : Text) : (word.map Char.toLower).all isAsciiLetter = word.all isAsciiLetter := by
    rw [List.all_map]
    exact congrArg (List.all word) (funext Char.isAlpha_toLower_eq_isAlpha)
  rw [← small left, mapped, small right]

/-- A word of letters has as many bytes as letters. -/
theorem byteLength_letters (letters : text.all isAsciiLetter = true) :
    text.byteLength = text.length := by
  induction text with
  | nil => rfl
  | cons first rest induction =>
    obtain ⟨here, later⟩ : isAsciiLetter first = true ∧ rest.all isAsciiLetter = true := by
      simpa using letters
    rw [byteLength_cons, utf8Size_letter here, induction later, List.length_cons, Nat.add_comm]

end Text

end Bracework
