import Bracework.Decimal.Binary64
import Bracework.Text.Basic

/-!
# Plain scalars that are no texts

A YAML scalar without quotes is read as null, as a truth value or as a number when it has one of
their forms. A text of such a form has to be quoted. Digits after a leading zero are read as a
text by some readers and as a number by others, so they are quoted as well.
-/

namespace Bracework

namespace Format.Yaml

/-- The plain forms of null and of the truth values. -/
def isConstant (text : Text) : Bool :=
  ["", "~", "null", "Null", "NULL", "true", "True", "TRUE", "false", "False", "FALSE"].any
    fun constant => constant.toList == text

/-- The plain forms of the numbers that have no digits. -/
def isNonFinite (text : Text) : Bool :=
  [".inf", ".Inf", ".INF", "+.inf", "+.Inf", "+.INF", "-.inf", "-.Inf", "-.INF",
    ".nan", ".NaN", ".NAN"].any fun constant => constant.toList == text

/-- The text behind at most one sign. -/
def unsigned : Text → Text
  | '+' :: rest => rest
  | '-' :: rest => rest
  | text => text

/-- A leading zero with digits behind it, a sign aside. -/
def isZeroPadded (text : Text) : Bool :=
  match unsigned text with
  | '0' :: second :: rest => (second :: rest).all Char.isDigit
  | _ => false

/-- The value of a digit, letters included. -/
def digitValue (character : Char) : Nat :=
  if character.isDigit then character.toNat - '0'.toNat
  else if character.isLower then character.toNat - 'a'.toNat + 10
  else if character.isUpper then character.toNat - 'A'.toNat + 10
  else 36

/-- Whether the text is a number below `limit` in a radix. -/
def isBelow (limit radix : Nat) (text : Text) : Bool :=
  !text.isEmpty && text.all (fun character => digitValue character < radix) &&
    text.foldl (fun value character => value * radix + digitValue character) 0 < limit

/-- The digits behind the mark of a radix. -/
def marked? (mark : Char) : Text → Option Text
  | '0' :: second :: rest => if second = mark then some rest else none
  | _ => none

/-- Whether the text is an integer of at most 128 bits written with the mark of a radix. -/
def isMarkedInteger (text : Text) : Bool :=
  [('x', 16), ('o', 8), ('b', 2)].any fun (mark, radix) =>
    match text with
    | '-' :: rest => (marked? mark rest).any (isBelow (Nat.pow 2 127 + 1) radix)
    | '+' :: rest => (marked? mark rest).any (isBelow (Nat.pow 2 128) radix)
    | rest => (marked? mark rest).any (isBelow (Nat.pow 2 128) radix)

/-- A decimal is its digits without the point and the power of ten that they are times. -/
structure Scaled where
  digits : Text
  power : Int

/-- The power behind the letter of an exponent. -/
def exponent? : Text → Option Int
  | [] => some 0
  | letter :: rest =>
    let digits := unsigned rest
    if letter.toLower = 'e' ∧ digits ≠ [] ∧ digits.all Char.isDigit then
      let size : Int := digits.foldl (fun value digit => value * 10 + digitValue digit) 0
      some (if rest.head? = some '-' then -size else size)
    else none

/-- Reads a decimal without a sign. Digits may be missing on one side of the point. -/
def scaled? (text : Text) : Option Scaled := do
  let whole := text.takeWhile Char.isDigit
  let rest := text.dropWhile Char.isDigit
  let (fraction, rest) := match rest with
    | '.' :: rest => (rest.takeWhile Char.isDigit, rest.dropWhile Char.isDigit)
    | rest => ([], rest)
  let power ← exponent? rest
  if whole = [] ∧ fraction = [] then none
  else return ⟨whole ++ fraction, power - fraction.length⟩

/-- Whether the double nearest to a decimal is finite. -/
def Scaled.isFinite (decimal : Scaled) : Bool :=
  let digits := decimal.digits.foldl (fun value digit => value * 10 + digitValue digit) 0
  (Binary64.ofScaled digits decimal.power).isFinite

/-- Whether the text is a decimal that a double can hold. -/
def isDecimal (text : Text) : Bool := (scaled? (unsigned text)).any Scaled.isFinite

/-- Whether the text has to be quoted to be read as a text. -/
def isAmbiguous (text : Text) : Bool :=
  isConstant text || isNonFinite text || isZeroPadded text || isMarkedInteger text
    || isDecimal text

end Format.Yaml

end Bracework
