import Bracework.Decimal.Binary64
import Bracework.Text.Basic

/-!
# The shortest decimal of a double

A double is written with the fewest digits that read back as the same double, and of several
numbers with that many digits with the nearest one. Of two that are equally near, some writers
take the one with an even last digit and others the greater one.

The numbers that read back form an interval around the double, its ends included when the
significand is even. For one digit, two digits and so on, the two numbers with that many
digits on either side of the double are tested against the interval in exact arithmetic. If a
number with that many digits lies in the interval at all, one of these two does.
-/

namespace Bracework

/-- Which of two equally near numbers is written. -/
inductive Tie where
  /-- The one whose last digit is even. -/
  | even
  /-- The greater one. -/
  | up
deriving DecidableEq, Repr

/-- Whether the smaller of two equally near numbers is written, which ends in some digits. -/
def Tie.takesBelow (below : Nat) : Tie → Bool
  | .even => below % 2 == 0
  | .up => false

/-- A decimal number: digits times a power of ten. -/
structure ShortDecimal where
  digits : Nat
  exponent : Int
deriving DecidableEq, Repr

namespace ShortDecimal

/-- The same number without zeros at the end of its digits. -/
def strip (digits : Nat) (exponent : Int) : ShortDecimal :=
  if digits ≠ 0 ∧ digits % 10 = 0 then strip (digits / 10) (exponent + 1)
  else ⟨digits, exponent⟩
termination_by digits
decreasing_by omega

/-- The number of digits before the point of a positive quotient; zero or negative when the
quotient is below one tenth and so on. -/
def magnitude (numerator denominator : Nat) : Int :=
  if denominator ≤ numerator then ((Nat.toDigits 10 (numerator / denominator)).length : Int)
  else
    let places := (Nat.toDigits 10 (denominator / numerator)).length
    if denominator ≤ numerator * Nat.pow 10 (places - 1) then 2 - (places : Int)
    else 1 - (places : Int)

/-- The bounds of the interval that reads back as a double, and the double itself, in quarters
of its spacing. -/
structure Neighbourhood where
  lower : Nat
  value : Nat
  upper : Nat
  exponent : Int
  closed : Bool

/-- The neighbourhood of a finite positive double. -/
def neighbourhood (double : Binary64) : Neighbourhood :=
  let (significand, exponent) := double.parts
  { lower := 4 * significand - (if double.isNarrowBelow then 1 else 2)
    value := 4 * significand
    upper := 4 * significand + 2
    exponent := exponent - 2
    closed := significand % 2 == 0 }

/-- The number with digits at `place` and above that is to be written for a double, if one
reads back. Both `scale` and `grid` are multiples of the same unit: a quarter of the spacing is
`scale` units and one step of the last digit is `grid` units. -/
def nearestOnGrid (tie : Tie) (near : Neighbourhood) (scale grid : Nat) : Option Nat :=
  let inside (candidate : Nat) : Bool :=
    let place := candidate * grid
    if near.closed then near.lower * scale ≤ place && place ≤ near.upper * scale
    else near.lower * scale < place && place < near.upper * scale
  let below := near.value * scale / grid
  let above := below + 1
  let toBelow := near.value * scale - below * grid
  let toAbove := above * grid - near.value * scale
  let belowNearer := toBelow < toAbove || (toBelow == toAbove && tie.takesBelow below)
  match inside below, inside above with
  | true, true => some (if belowNearer then below else above)
  | true, false => some below
  | false, true => some above
  | false, false => none

/-- Tries one digit more at a time, at most `more` of them. -/
def search (tie : Tie) (near : Neighbourhood) (magnitude : Int) : Nat → Nat → ShortDecimal
  | 0, _ => strip near.value 0
  | more + 1, count =>
    let place := magnitude - (count : Int)
    let scale := Nat.pow 2 near.exponent.toNat * Nat.pow 10 (-place).toNat
    let grid := Nat.pow 2 (-near.exponent).toNat * Nat.pow 10 place.toNat
    match nearestOnGrid tie near scale grid with
    | some digits => strip digits place
    | none => search tie near magnitude more (count + 1)

/-- The shortest decimal of a finite double. Seventeen digits always suffice. -/
def ofDouble (tie : Tie) (double : Binary64) : ShortDecimal :=
  let near := neighbourhood double
  if near.value = 0 then ⟨0, 0⟩
  else
    let numerator := near.value * Nat.pow 2 near.exponent.toNat
    search tie near (magnitude numerator (Nat.pow 2 (-near.exponent).toNat)) 17 1

/-- The written digits and the number of them that stand before the point. -/
def pointed (decimal : ShortDecimal) : Text × Int :=
  let digits := Text.ofNat decimal.digits
  (digits, (digits.length : Int) + decimal.exponent)

/-- The number without an exponent: zeros fill the places up to the point, and a whole number
has no point. -/
def positional (decimal : ShortDecimal) : Text :=
  let (digits, before) := decimal.pointed
  if decimal.digits = 0 then "0"
  else if before ≤ 0 then "0." ++ List.replicate (-before).toNat '0' ++ digits
  else if (digits.length : Int) ≤ before then
    digits ++ List.replicate (before.toNat - digits.length) '0'
  else digits.take before.toNat ++ "." ++ digits.drop before.toNat

/-- The number as data formats write it. Up to sixteen digits before the point and up to four
zeros behind it are written out, a whole number gets `.0`, and everything else has an exponent
behind one digit before the point. Formats differ in the sign that a positive exponent gets. -/
def notated (plus : Text) (decimal : ShortDecimal) : Text :=
  let (digits, before) := decimal.pointed
  if decimal.digits = 0 then "0.0"
  else if (digits.length : Int) ≤ before ∧ before ≤ 16 then decimal.positional ++ ".0"
  else if -5 < before ∧ before ≤ 16 then decimal.positional
  else
    let exponent := before - 1
    let fraction : Text := if digits.length = 1 then [] else "." ++ digits.drop 1
    let sign : Text := if exponent < 0 then "-" else plus
    digits.take 1 ++ fraction ++ "e" ++ sign ++ Text.ofNat exponent.natAbs

end ShortDecimal

end Bracework
