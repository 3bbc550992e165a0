import Scenarist.Text.Space
import Scenarist.Text.WordCharacter

/-! # Sets of characters -/

namespace Scenarist.Pattern

inductive CharSet where
  | none
  | range (first last : Char)
  | word
  | digit
  | space
  | union (left right : CharSet)
  | complement (set : CharSet)
deriving DecidableEq, Repr

namespace CharSet

def contains (character : Char) : CharSet → Bool
  | .none => false
  | .range first last => first ≤ character && character ≤ last
  | .word => Text.isWordCharacter character
  | .digit => Text.isDecimalDigit character
  | .space => Text.isSpace character
  | .union left right => left.contains character || right.contains character
  | .complement set => !set.contains character

def single (character : Char) : CharSet :=
  .range character character

/-- Every character but the line feed. -/
def any : CharSet :=
  .complement (single '\n')

end CharSet

end Scenarist.Pattern
