/-!
# Sets of code points

A set of characters is a list of inclusive ranges of code points.  A second
kind of range takes every other code point, which is how letter case
alternates over long stretches of the code space.
-/

namespace DiffDigest.Text

abbrev Ranges := List (Nat × Nat)

namespace Ranges

def contains (ranges : Ranges) (c : Char) : Bool :=
  ranges.any fun range => range.1 ≤ c.toNat && c.toNat ≤ range.2

/-- Membership in one of the ranges, counting every other code point from its first. -/
def containsAlternate (ranges : Ranges) (c : Char) : Bool :=
  ranges.any fun range =>
    range.1 ≤ c.toNat && c.toNat ≤ range.2 && (c.toNat - range.1) % 2 == 0

theorem contains_iff (ranges : Ranges) (c : Char) :
    ranges.contains c = true ↔
      ∃ range ∈ ranges, range.1 ≤ c.toNat ∧ c.toNat ≤ range.2 := by
  simp [contains]

end Ranges

end DiffDigest.Text
