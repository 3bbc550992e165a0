import Scenarist.Tag.Alternatives
import Scenarist.Tag.Reading

/-! # Tag filters

A filter keeps the text it was read from. A text with a parenthesis, or with
one of the operators as a word, is read as a tag expression, any other as
groups of alternatives. -/

namespace Scenarist.Tag

open Text

def isOperator (word : Text) : Bool :=
  word = ("not" : Text) || word = ("and" : Text) || word = ("or" : Text)

def isExpression (text : Text) : Bool :=
  text.any (fun character => character = '(' || character = ')') ||
    (words text).any isOperator

structure Filter where
  text : Text
  expr : Option Expr
deriving DecidableEq, Repr

namespace Filter

/-- Leaves out work in progress. -/
def default : Text := "~@wip"

def exprOf (text : Text) : Except Fault (Option Expr) :=
  if isExpression text then
    (Expr.ofText text).map some
  else
    (Alternatives.ofText text).map Alternatives.expr

def ofText (text : Text) : Except Fault Filter :=
  (exprOf text).map fun expr => ⟨text, expr⟩

/-- Whether a filter lets a list of tags pass. -/
def keeps (filter : Filter) (tags : List Text) : Bool :=
  match filter.expr with
  | none => true
  | some expr => expr.eval tags

/-- The filter that keeps everything. -/
def all : Filter := ⟨[], none⟩

end Filter

end Scenarist.Tag
