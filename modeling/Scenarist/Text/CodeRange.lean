import Scenarist.Text.Basic

/-! # Ranges of code points

A property of characters given by a table: the ranges of code points that have
it, both ends included, in increasing order. -/

namespace Scenarist.Text

abbrev CodeRanges := List (Nat × Nat)

def CodeRanges.contains (ranges : CodeRanges) (character : Char) : Bool :=
  let code := character.toNat
  ranges.any fun (first, last) => first ≤ code && code ≤ last

end Scenarist.Text
