/-!
# Ranges of characters

A class of characters is given by the first and the last code point of each of its ranges.
-/

set_option autoImplicit false

namespace JavaFormat.Text

/-- Whether a character is in one of some ranges. -/
def inRanges (ranges : List (Nat × Nat)) (c : Char) : Bool :=
  ranges.any fun (first, last) => decide (first ≤ c.toNat) && decide (c.toNat ≤ last)

end JavaFormat.Text
