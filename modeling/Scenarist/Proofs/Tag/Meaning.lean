import Mathlib.Data.Finset.Dedup
import Mathlib.Data.Finset.Lattice.Lemmas
import Scenarist.Tag.Filter

/-! # The meaning of tag filters

A filter says something about a set of names, where the name of a tag is the tag
without the at sign that may lead it. Evaluating a filter on a list of tags
answers whether it holds of the names in the list, so neither the order of the
tags nor their repetition nor their at signs play a part. -/

namespace Scenarist.Tag

/-- The names of the tags in a list. -/
def named (tags : List Text) : Finset Text :=
  (tags.map bare).toFinset

theorem mem_named {tags : List Text} {name : Text} :
    name ∈ named tags ↔ ∃ tag ∈ tags, bare tag = name := by
  simp [named]

theorem named_append (first second : List Text) :
    named (first ++ second) = named first ∪ named second := by
  simp [named, List.toFinset_append]

namespace Expr

/-- The truth of an expression about a set of names. -/
def Holds (present : Finset Text) : Expr → Prop
  | .tag name => bare name ∈ present
  | .negation inner => ¬inner.Holds present
  | .conjunction left right => left.Holds present ∧ right.Holds present
  | .disjunction left right => left.Holds present ∨ right.Holds present

def decidableHolds (present : Finset Text) : (expr : Expr) → Decidable (expr.Holds present)
  | .tag name => inferInstanceAs (Decidable (bare name ∈ present))
  | .negation inner =>
    have := decidableHolds present inner
    inferInstanceAs (Decidable (¬inner.Holds present))
  | .conjunction left right =>
    have := decidableHolds present left
    have := decidableHolds present right
    inferInstanceAs (Decidable (left.Holds present ∧ right.Holds present))
  | .disjunction left right =>
    have := decidableHolds present left
    have := decidableHolds present right
    inferInstanceAs (Decidable (left.Holds present ∨ right.Holds present))

instance (present : Finset Text) (expr : Expr) : Decidable (expr.Holds present) :=
  decidableHolds present expr

theorem eval_eq_true_iff (tags : List Text) (expr : Expr) :
    expr.eval tags = true ↔ expr.Holds (named tags) := by
  induction expr with
  | tag name => simp [eval, Holds, carries, mem_named]
  | negation inner induction => simp [eval, Holds, ← induction]
  | conjunction left right leftInduction rightInduction =>
      simp [eval, Holds, leftInduction, rightInduction]
  | disjunction left right leftInduction rightInduction =>
      simp [eval, Holds, leftInduction, rightInduction]

end Expr

namespace Filter

/-- A filter without an expression selects everything. -/
def Selects (filter : Filter) (present : Finset Text) : Prop :=
  ∀ expr ∈ filter.expr, expr.Holds present

instance (filter : Filter) (present : Finset Text) : Decidable (filter.Selects present) :=
  inferInstanceAs (Decidable (∀ expr ∈ filter.expr, expr.Holds present))

theorem selects_negation_iff (first second : Text) (expr : Expr) (present : Finset Text) :
    Selects ⟨second, some (.negation expr)⟩ present ↔ ¬Selects ⟨first, some expr⟩ present := by
  simp [Selects, Expr.Holds]

theorem keeps_eq_decide (filter : Filter) (tags : List Text) :
    filter.keeps tags = decide (filter.Selects (named tags)) := by
  rw [Bool.eq_iff_iff, decide_eq_true_iff, keeps, Selects]
  cases filter.expr with
  | none => simp
  | some expr => simp [Expr.eval_eq_true_iff]

end Filter

end Scenarist.Tag
