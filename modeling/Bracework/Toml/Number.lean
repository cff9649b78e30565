import Bracework.Settings.Value

/-!
# Numbers and truth values in TOML

Integers are written in four radixes and have to fit into sixty-four bits with a sign. Decimals
have a fraction, an exponent or both. Single underscores may stand between digits, a decimal
number has no leading zero, and only decimal numbers have a sign. Each function takes the whole
of a word.
-/

namespace Bracework

namespace Toml

/-- Digits without the underscores between them. There has to be a digit on both sides of an
underscore. -/
def digitGroups? (isDigit : Char → Bool) (text : Text) : Option Text :=
  let groups := Text.splitOn '_' text
  if groups.all fun group => group ≠ [] ∧ group.all isDigit then some groups.flatten else none

/-- The number that digits stand for in a radix. -/
def valueIn (radix : Nat) (digits : Text) : Nat :=
  digits.foldl (fun value digit =>
    let size := if digit.isDigit then digit.toNat - '0'.toNat
      else digit.toLower.toNat - 'a'.toNat + 10
    value * radix + size) 0

/-- Whether a character is a digit of a radix. -/
def isDigitIn (radix : Nat) (character : Char) : Bool :=
  if character.isDigit then character.toNat - '0'.toNat < radix
  else character.isAlpha && character.toLower.toNat - 'a'.toNat + 10 < radix

/-- The digits of a whole decimal number: no leading zero. -/
def wholeDigits? (text : Text) : Option Text := do
  let digits ← digitGroups? Char.isDigit text
  if digits.head? = some '0' ∧ text.length > 1 then none else some digits

/-- A sign and what follows it. -/
def signAndRest : Text → Bool × Text
  | '-' :: rest => (true, rest)
  | '+' :: rest => (false, rest)
  | text => (false, text)

/-- The largest integer of sixty-four bits with a sign. -/
def largest : Nat := 0x7FFFFFFFFFFFFFFF

/-- A number without a sign in a radix other than ten, behind the mark of the radix. -/
def markedInteger? (radix : Nat) (digits : Text) : Option Int := do
  let value := valueIn radix (← digitGroups? (isDigitIn radix) digits)
  if value ≤ largest then some value else none

/-- An integer. -/
def integer? (word : Text) : Option Int :=
  match word with
  | '0' :: 'x' :: digits => markedInteger? 16 digits
  | '0' :: 'o' :: digits => markedInteger? 8 digits
  | '0' :: 'b' :: digits => markedInteger? 2 digits
  | _ => do
    let (negative, rest) := signAndRest word
    let value := valueIn 10 (← wholeDigits? rest)
    if negative then if value ≤ largest + 1 then some (-value) else none
    else if value ≤ largest then some value else none

/-- The exponent behind the letter that begins it; zero if there is nothing. -/
def exponent? : Text → Option Int
  | [] => some 0
  | letter :: rest => do
    if letter ≠ 'e' ∧ letter ≠ 'E' then none
    else
      let (negative, digits) := signAndRest rest
      let size : Int := valueIn 10 (← digitGroups? Char.isDigit digits)
      if negative then some (-size) else some size

/-- Whether a character belongs to a group of digits. -/
def isInGroup (character : Char) : Bool := character.isDigit || character == '_'

/-- A decimal without a sign. A whole number is none. -/
def size? (text : Text) : Option Binary64 := do
  let whole ← wholeDigits? (text.takeWhile isInGroup)
  let rest := text.dropWhile isInGroup
  if rest = [] then none
  else
    match rest with
    | '.' :: rest =>
      let fraction ← digitGroups? Char.isDigit (rest.takeWhile isInGroup)
      let power ← exponent? (rest.dropWhile isInGroup)
      return Binary64.ofScaled (valueIn 10 (whole ++ fraction)) (power - fraction.length)
    | rest => return Binary64.ofScaled (valueIn 10 whole) (← exponent? rest)

/-- A decimal. One without a minus sign may not be too large for a double. -/
def decimal? (word : Text) : Option Setting :=
  let (negative, rest) := signAndRest word
  if rest = "inf".toList then some (.decimal negative Binary64.infinity)
  else if rest = "nan".toList then some .notANumber
  else
    match size? rest with
    | some size => if size.isFinite ∨ negative then some (.decimal negative size) else none
    | none => none

/-- A truth value. -/
def truth? (word : Text) : Option Bool :=
  if word = "true".toList then some true
  else if word = "false".toList then some false
  else none

end Toml

end Bracework
