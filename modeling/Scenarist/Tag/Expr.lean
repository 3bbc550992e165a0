import Scenarist.Text.Basic

/-! # Tag expressions

An expression over tags, and whether a list of tags satisfies it. Tags compare
without the at sign that may lead them. -/

namespace Scenarist.Tag

/-- A tag without its at sign. -/
def bare (tag : Text) : Text :=
  (Text.strip ['@'] tag).getD tag

def carries (tags : List Text) (name : Text) : Bool :=
  tags.any fun tag => bare tag = bare name

/-- A condition on tags. -/
inductive Expr where
  | tag (name : Text)
  | negation (inner : Expr)
  | conjunction (left right : Expr)
  | disjunction (left right : Expr)
deriving DecidableEq, Repr

namespace Expr

/-- Whether a list of tags satisfies an expression. -/
def eval (tags : List Text) : Expr → Bool
  | .tag name => carries tags name
  | .negation inner => !inner.eval tags
  | .conjunction left right => left.eval tags && right.eval tags
  | .disjunction left right => left.eval tags || right.eval tags

/-- Combines several expressions, grouped to the left. -/
def joined (combine : Expr → Expr → Expr) : List Expr → Option Expr
  | [] => none
  | first :: rest => some (rest.foldl combine first)

theorem eval_foldl_disjunction (tags : List Text) (first : Expr) (rest : List Expr) :
    (rest.foldl .disjunction first).eval tags =
      (first.eval tags || rest.any fun expr => expr.eval tags) := by
  induction rest generalizing first with
  | nil => simp
  | cons next rest induction => simp [induction, eval, Bool.or_assoc]

theorem eval_foldl_conjunction (tags : List Text) (first : Expr) (rest : List Expr) :
    (rest.foldl .conjunction first).eval tags =
      (first.eval tags && rest.all fun expr => expr.eval tags) := by
  induction rest generalizing first with
  | nil => simp
  | cons next rest induction => simp [induction, eval, Bool.and_assoc]

end Expr

end Scenarist.Tag
