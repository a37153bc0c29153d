/-!
# Sets of characters

A set is given by the code points at which membership changes, in ascending order.
-/

namespace ShaderKit.Text

/-- The characters whose code point has an odd number of boundaries at or below it. -/
structure CharSet where
  boundaries : List Nat

/-- A character is in the set if an odd number of boundaries is not above it. -/
def CharSet.contains (s : CharSet) (c : Char) : Bool :=
  s.boundaries.countP (· ≤ c.toNat) % 2 == 1

end ShaderKit.Text
