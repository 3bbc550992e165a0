import Scenarist.Tag.Token

/-! # Faults of a tag expression

What can be wrong with the text of a filter. Positions count tokens from
one. -/

namespace Scenarist.Tag

inductive Fault where
  | notATag (word : Text)
  | unexpected (token : Token) (position : Nat)
  | unbalanced
  | unexpectedEnd
deriving DecidableEq, Repr

namespace Fault

def message : Fault → Text
  | .notATag word => ['`'] ++ word ++ ("` is not a tag" : Text)
  | .unexpected token position =>
    "unexpected " ++ token.describe ++ (" at token " : Text) ++ Text.ofNat position
  | .unbalanced => "unbalanced parentheses"
  | .unexpectedEnd => "unexpected end of expression"

end Fault

end Scenarist.Tag
