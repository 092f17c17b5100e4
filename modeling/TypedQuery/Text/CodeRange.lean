/-!
# Ranges of code points

A character class of the Unicode standard is kept as the increasing list of its code-point
ranges. `contains` walks the list only as far as the number it looks for, so that a test of an
ASCII character ends at once.
-/

set_option autoImplicit false

namespace TypedQuery.Text

/-- Closed ranges of code points, in increasing order and without overlap. -/
abbrev CodeRanges := List (Nat × Nat)

/-- Whether a code point lies in one of the ranges. -/
def CodeRanges.contains : CodeRanges → Nat → Bool
  | [], _ => false
  | (low, high) :: rest, n => if n < low then false else n ≤ high || contains rest n

end TypedQuery.Text
