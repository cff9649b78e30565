/-!
# Character classes as boundary lists

A class of characters is written as the ascending list of code points at which membership
changes, the first of them entering the class. A code point belongs to the class when an odd
number of boundaries lie at or below it.
-/

namespace Bracework

/-- The code points at which membership in a class changes, ascending. -/
abbrev Boundaries := List Nat

namespace Boundaries

/-- Membership is the parity of the boundaries passed. -/
def contains (bounds : Boundaries) (character : Char) : Bool :=
  bounds.countP (· ≤ character.toNat) % 2 == 1

end Boundaries

end Bracework
