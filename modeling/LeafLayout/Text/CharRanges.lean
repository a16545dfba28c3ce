/-!
Sets of characters given by ascending ranges of code points, both ends included.
-/

set_option autoImplicit false

namespace LeafLayout.Text

abbrev CharRanges := List (Nat × Nat)

def CharRanges.has (ranges : CharRanges) (c : Char) : Bool :=
  ranges.any fun range ↦ range.1 ≤ c.toNat && c.toNat ≤ range.2

end LeafLayout.Text
