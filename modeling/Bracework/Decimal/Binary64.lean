/-!
# Double-precision numbers

A decimal number stands for the double nearest to it, and for infinity when it is too large. Only
values that are not negative occur; a sign is kept beside the number.

A double is kept as its bit pattern. The rounding is done on exact quotients of natural
numbers: the significand is the quotient rounded to nearest with ties to even, on a grid whose
spacing is the power of two that leaves fifty-three bits, or the smallest spacing there is.
-/

namespace Bracework

/-- A non-negative double given by its bit pattern. -/
structure Binary64 where
  bits : Nat
deriving DecidableEq, Repr

namespace Binary64

/-- The pattern of infinity; all patterns of finite values lie below it. -/
def infinity : Binary64 := ⟨0x7FF0000000000000⟩

/-- Whether a double is a number rather than infinity. -/
def isFinite (value : Binary64) : Bool := value.bits < infinity.bits

/-- The weight of the highest bit of a significand, which a pattern does not hold. It is also the
number of patterns with one exponent. -/
def hiddenBit : Nat := 0x10000000000000

/-- The exponent of the smallest spacing between doubles. -/
def leastExponent : Int := -1074

/-- A quotient rounded to the nearest natural number, ties to even. -/
def roundedQuotient (numerator denominator : Nat) : Nat :=
  let quotient := numerator / denominator
  let remainder := numerator % denominator
  if 2 * remainder < denominator then quotient
  else if 2 * remainder = denominator ∧ quotient % 2 = 0 then quotient
  else quotient + 1

/-- The exponent of the highest power of two that is at most a positive quotient. -/
def floorLog2 (numerator denominator : Nat) : Int :=
  let estimate : Int := (numerator.log2 : Int) - (denominator.log2 : Int)
  let low := denominator * Nat.pow 2 estimate.toNat
  if low ≤ numerator * Nat.pow 2 (-estimate).toNat then estimate else estimate - 1

/-- The double nearest to a quotient, ties to even. Quotients beyond the largest finite double
by half a spacing or more give infinity. -/
def ofRatio (numerator denominator : Nat) : Binary64 :=
  if numerator = 0 then ⟨0⟩
  else
    let exponent := max (floorLog2 numerator denominator - 52) leastExponent
    let significand := roundedQuotient (numerator * Nat.pow 2 (-exponent).toNat)
      (denominator * Nat.pow 2 exponent.toNat)
    let bits := (exponent - leastExponent).toNat * hiddenBit + significand
    if bits < infinity.bits then ⟨bits⟩ else infinity

/-- The double nearest to a number times a power of ten. Powers far outside the range of doubles
are not computed. -/
def ofScaled (digits : Nat) (power : Int) : Binary64 :=
  let before := ((Nat.toDigits 10 digits).length : Int) + power
  if digits = 0 ∨ before < -330 then ⟨0⟩
  else if before > 310 then infinity
  else ofRatio (digits * Nat.pow 10 power.toNat) (Nat.pow 10 (-power).toNat)

/-- The significand and the exponent of two whose product a finite double is. -/
def parts (value : Binary64) : Nat × Int :=
  let field : Nat := value.bits / hiddenBit
  let fraction := value.bits % hiddenBit
  if field = 0 then (fraction, leastExponent)
  else (fraction + hiddenBit, leastExponent + (field : Int) - 1)

/-- The double below a normal power of two is only half a spacing away. -/
def isNarrowBelow (value : Binary64) : Bool :=
  value.bits % hiddenBit == 0 && value.bits / hiddenBit > 1

end Binary64

end Bracework
