/-!
# Ranges of characters

Classes of characters are tables of ascending ranges of code points, with both ends included.
-/

namespace Reckoner.Text

def inRanges (ranges : List (Nat × Nat)) (c : Char) : Bool :=
  ranges.any fun (first, last) => first ≤ c.toNat && c.toNat ≤ last

end Reckoner.Text
