/-!
# Sets of code points

A set of code points is written down as the ascending list of the places where membership changes,
starting outside. A code point is a member when an odd number of changes lies at or below it.
-/

namespace Typewright

/-- A set of code points. -/
structure CodeSet where
  /-- The code points at which membership changes, ascending. -/
  changes : List Nat

/-- Whether a character is in the set. -/
def CodeSet.contains (s : CodeSet) (c : Char) : Bool :=
  (s.changes.takeWhile (· ≤ c.toNat)).length % 2 == 1

end Typewright
