import Scenarist.Tag.Expr
import Scenarist.Tag.Fault

/-! # Groups of alternatives

The older notation of filters: groups parted by two ampersands, each a list of
alternatives parted by commas, each a tag that a tilde may negate. Every group
needs one alternative that holds. A blank text has no groups, so everything
satisfies it. -/

namespace Scenarist.Tag

open Text

/-- A tag that must be there, or must not. -/
structure Literal where
  negated : Bool
  name : Text
deriving DecidableEq, Repr

namespace Literal

def isName (name : Text) : Bool :=
  !name.isEmpty && !name.any isSpace

def ofTag (negated : Bool) (tag : Text) : Option Literal :=
  match strip ['@'] tag with
  | none => none
  | some name => if isName name then some ⟨negated, name⟩ else none

def ofTerm (term : Text) : Option Literal :=
  match strip ['~'] term with
  | some tag => ofTag true (trimStart tag)
  | none => ofTag false term

def ofText (text : Text) : Except Fault Literal :=
  let term := trim text
  match ofTerm term with
  | none => .error (.notATag term)
  | some literal => .ok literal

def expr (literal : Literal) : Expr :=
  if literal.negated then .negation (.tag literal.name) else .tag literal.name

end Literal

/-- Cuts a text at each pair of ampersands. -/
def splitAmpersands : Text → List Text
  | '&' :: '&' :: rest => [] :: splitAmpersands rest
  | head :: rest =>
    match splitAmpersands rest with
    | [] => [[head]]
    | piece :: pieces => (head :: piece) :: pieces
  | [] => [[]]

example : splitAmpersands "a&&&b" = (["a", "&b"] : List Text) := by decide

abbrev Alternatives := List (List Literal)

namespace Alternatives

def ofText (text : Text) : Except Fault Alternatives :=
  if isBlankText text then
    .ok []
  else
    (splitAmpersands text).mapM fun group =>
      (split ',' group).mapM Literal.ofText

def groupExpr (group : List Literal) : Option Expr :=
  Expr.joined .disjunction (group.map Literal.expr)

def expr (alternatives : Alternatives) : Option Expr :=
  Expr.joined .conjunction (alternatives.filterMap groupExpr)

end Alternatives

end Scenarist.Tag
