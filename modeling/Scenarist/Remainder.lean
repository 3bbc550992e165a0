/-! # Remainders

What reading leaves of a list, together with the bound that makes repeated
reading end. -/

namespace Scenarist

abbrev Fewer {α : Type} (values : List α) :=
  { rest : List α // rest.length < values.length }

abbrev NoMore {α : Type} (values : List α) :=
  { rest : List α // rest.length ≤ values.length }

end Scenarist
