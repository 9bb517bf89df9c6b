/-!
# Sets of code points

A class of characters given as closed intervals of code points.

## Main definitions

* `Text.CodePoints` — the intervals, in increasing order
* `Text.CodePoints.contains` — membership of a character
-/

namespace NodeProvisioning.Text

/-- Closed intervals of code points, in increasing order. -/
abbrev CodePoints := List (Nat × Nat)

/-- Whether a character lies in one of the intervals. -/
def CodePoints.contains (ranges : CodePoints) (c : Char) : Bool :=
  ranges.any fun (lo, hi) => lo ≤ c.toNat && c.toNat ≤ hi

end NodeProvisioning.Text
