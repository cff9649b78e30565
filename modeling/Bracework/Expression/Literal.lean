import Bracework.Characters
import Bracework.Expression.Basic
import Bracework.Expression.Fault

/-!
# Reading literals

A literal is read from the start of a text and returned with what follows it, which is always
shorter than the text was.
-/

namespace Bracework

namespace NumberLiteral

/-- The value of a run of decimal digits. -/
def valueOf (digits : Text) : Nat :=
  digits.foldl (fun value digit => 10 * value + (digit.toNat - '0'.toNat)) 0

/-- The number of values that an integer literal may have. -/
def integerLimit : Nat := 0x8000000000000000

/-- The digits before the point, the digits behind it if there is a point, and the rest. A
point counts when a digit follows it, and only the first one does. -/
def splitDigits (text : Text) : Text × Option Text × Text :=
  let whole := text.takeWhile isDigit
  match text.dropWhile isDigit with
  | '.' :: digit :: rest =>
    if isDigit digit then
      (whole, some ((digit :: rest).takeWhile isDigit), (digit :: rest).dropWhile isDigit)
    else (whole, none, '.' :: digit :: rest)
  | rest => (whole, none, rest)

/-- Reads a number: the longest run of digits, with the longest run behind a point if a digit
follows the point. A name character directly after it is an error, and so is a whole number
that is too large; with a point every number has a value. -/
def read (text : Text) : Except NumberFault (NumberLiteral × Text) :=
  let (whole, fraction, rest) := splitDigits text
  let raw := match fraction with
    | some digits => whole ++ "." ++ digits
    | none => whole
  if rest.head?.any isNameChar then .error (.malformed raw)
  else match fraction with
    | some digits =>
      let value := Binary64.ofRatio (valueOf (whole ++ digits)) (Nat.pow 10 digits.length)
      .ok (⟨raw, .decimal value⟩, rest)
    | none =>
      if whole = [] ∨ integerLimit ≤ valueOf whole then .error (.outOfRange raw)
      else .ok (⟨raw, .integer (valueOf whole)⟩, rest)

end NumberLiteral

namespace StringLiteral

/-- The characters up to the quote that ends a literal, its escapes resolved, and the rest. A
backslash before the quote stands for the quote alone; before any other character both are
kept. -/
def readBody (delimiter : Char) : Text → Option (Text × Text)
  | [] => none
  | '\\' :: [] => none
  | '\\' :: escaped :: rest =>
    let kept := if escaped = delimiter then [escaped] else ['\\', escaped]
    (readBody delimiter rest).map fun body => (kept ++ body.1, body.2)
  | first :: rest =>
    if first = delimiter then some ([], rest)
    else (readBody delimiter rest).map fun body => (first :: body.1, body.2)

/-- Reads a string literal whose quote is the first character. -/
def read : Text → Except StringFault (StringLiteral × Text)
  | [] => .error .missing
  | delimiter :: rest =>
    match readBody delimiter rest with
    | some (value, tail) => .ok (⟨value, delimiter⟩, tail)
    | none => .error (.unclosed delimiter)

end StringLiteral

/-- What follows the body of a string literal is shorter than the text from the body on. -/
theorem StringLiteral.readBody_length {delimiter : Char} {text value tail : Text}
    (found : readBody delimiter text = some (value, tail)) : tail.length < text.length := by
  fun_induction readBody delimiter text generalizing value tail with
  | case1 => simp at found
  | case2 => simp at found
  | case3 escaped rest kept =>
    rename_i induction
    obtain ⟨⟨body, after⟩, inner, same⟩ := Option.map_eq_some_iff.1 found
    have shorter := induction inner
    cases same
    simp only [List.length_cons]
    omega
  | case4 rest _ _ => simp_all
  | case5 first rest _ _ differs induction =>
    obtain ⟨⟨body, after⟩, inner, same⟩ := Option.map_eq_some_iff.1 found
    have shorter := induction inner
    cases same
    simp only [List.length_cons]
    omega

/-- What follows a string literal is shorter than the text was. -/
theorem StringLiteral.read_length {text tail : Text} {literal : StringLiteral}
    (found : read text = .ok (literal, tail)) : tail.length < text.length := by
  cases text with
  | nil => simp [read] at found
  | cons delimiter rest =>
    simp only [read] at found
    split at found
    · rename_i value after body
      have shorter := readBody_length body
      simp_all
      omega
    · simp at found

/-- The rest after the digits of a number is no longer than the text, and shorter when the text
begins with a digit. -/
theorem NumberLiteral.splitDigits_length {digit : Char} {rest : Text} (begins : isDigit digit) :
    (splitDigits (digit :: rest)).2.2.length < (digit :: rest).length := by
  have dropped : ∀ text : Text, (text.dropWhile isDigit).length ≤ text.length := fun text =>
    (List.dropWhile_suffix isDigit).length_le
  have first := dropped rest
  have start : (digit :: rest).dropWhile isDigit = rest.dropWhile isDigit := by
    rw [List.dropWhile_cons, if_pos begins]
  unfold splitDigits
  rw [start]
  split
  · rename_i next after shape
    have whole := congrArg List.length shape
    have fraction := dropped (next :: after)
    simp only [List.length_cons] at whole fraction
    split
    · simp only [List.length_cons]
      omega
    · simp only [List.length_cons]
      omega
  · simp only [List.length_cons]
    omega

/-- What follows a number is shorter than a text that begins with a digit. -/
theorem NumberLiteral.read_length {digit : Char} {rest tail : Text} {literal : NumberLiteral}
    (begins : isDigit digit) (found : read (digit :: rest) = .ok (literal, tail)) :
    tail.length < (digit :: rest).length := by
  have shorter : (splitDigits (digit :: rest)).2.2.length < (digit :: rest).length :=
    splitDigits_length begins
  simp only [read] at found
  split at found
  · simp at found
  · split at found
    · simp_all
    · split at found
      · simp at found
      · simp_all

end Bracework
