/-
**Sets of code points given by ranges.**

The character classes of Unicode are published as tables of closed ranges.  This module holds the
membership test that all those tables share.

Main definitions:

* `Text.inRanges` — membership of a code point in a list of closed ranges.

Main results:

* `Text.inRanges_iff` — membership said through one range of the list.
-/

set_option relaxedAutoImplicit false
set_option autoImplicit false

namespace FilterQuery

namespace Text

/-- Whether the code point `n` lies in one of the closed ranges. -/
def inRanges (ranges : List (Nat × Nat)) (n : Nat) : Bool :=
  ranges.any fun r => r.1 ≤ n && n ≤ r.2

theorem inRanges_iff {ranges : List (Nat × Nat)} {n : Nat} :
    inRanges ranges n = true ↔ ∃ r ∈ ranges, r.1 ≤ n ∧ n ≤ r.2 := by
  simp [inRanges]

end Text

end FilterQuery
