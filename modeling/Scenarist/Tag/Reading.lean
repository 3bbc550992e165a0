import Scenarist.Remainder
import Scenarist.Tag.Expr
import Scenarist.Tag.Fault

/-! # Reading a tag expression

Negation binds tighter than conjunction, and conjunction tighter than
disjunction. Both of these group to the left. Reading a part answers the
tokens it leaves, which are fewer than it was given. -/

namespace Scenarist.Tag

/-! Where reading stops, `after` are the tokens behind the unexpected one. -/

inductive Stop where
  | unexpected (token : Token) (after : List Token)
  | unbalanced
  | unexpectedEnd
deriving DecidableEq, Repr

mutual

def readNegation (tokens : List Token) : Except Stop (Expr × Fewer tokens) :=
  match tokens with
  | [] => .error .unexpectedEnd
  | .tag name :: rest => .ok (.tag name, ⟨rest, by simp⟩)
  | .negation :: rest =>
    match readNegation rest with
    | .error stop => .error stop
    | .ok (inner, ⟨left, fewer⟩) =>
      .ok (.negation inner, ⟨left, by simp; omega⟩)
  | .opening :: rest =>
    match readDisjunction rest with
    | .error stop => .error stop
    | .ok (inner, ⟨.closing :: after, fewer⟩) =>
      .ok (inner, ⟨after, by simp at fewer ⊢; omega⟩)
    | .ok _ => .error .unbalanced
  | token :: rest => .error (.unexpected token rest)
termination_by 3 * tokens.length

def readConjunction (tokens : List Token) : Except Stop (Expr × Fewer tokens) :=
  match readNegation tokens with
  | .error stop => .error stop
  | .ok (first, ⟨left, fewer⟩) =>
    match readMoreConjuncts first left with
    | .error stop => .error stop
    | .ok (whole, ⟨rest, noMore⟩) => .ok (whole, ⟨rest, by omega⟩)
termination_by 3 * tokens.length + 1

def readMoreConjuncts (sofar : Expr) (tokens : List Token) :
    Except Stop (Expr × NoMore tokens) :=
  match tokens with
  | .conjunction :: rest =>
    match readNegation rest with
    | .error stop => .error stop
    | .ok (next, ⟨left, fewer⟩) =>
      match readMoreConjuncts (.conjunction sofar next) left with
      | .error stop => .error stop
      | .ok (whole, ⟨last, noMore⟩) => .ok (whole, ⟨last, by simp; omega⟩)
  | tokens => .ok (sofar, ⟨tokens, by simp⟩)
termination_by 3 * tokens.length

def readDisjunction (tokens : List Token) : Except Stop (Expr × Fewer tokens) :=
  match readConjunction tokens with
  | .error stop => .error stop
  | .ok (first, ⟨left, fewer⟩) =>
    match readMoreDisjuncts first left with
    | .error stop => .error stop
    | .ok (whole, ⟨rest, noMore⟩) => .ok (whole, ⟨rest, by omega⟩)
termination_by 3 * tokens.length + 2

def readMoreDisjuncts (sofar : Expr) (tokens : List Token) :
    Except Stop (Expr × NoMore tokens) :=
  match tokens with
  | .disjunction :: rest =>
    match readConjunction rest with
    | .error stop => .error stop
    | .ok (next, ⟨left, fewer⟩) =>
      match readMoreDisjuncts (.disjunction sofar next) left with
      | .error stop => .error stop
      | .ok (whole, ⟨last, noMore⟩) => .ok (whole, ⟨last, by simp; omega⟩)
  | tokens => .ok (sofar, ⟨tokens, by simp⟩)
termination_by 3 * tokens.length

end

def Stop.fault (count : Nat) : Stop → Fault
  | .unexpected token after => .unexpected token (count - after.length)
  | .unbalanced => .unbalanced
  | .unexpectedEnd => .unexpectedEnd

/-! The whole sequence must be one expression. -/

def Expr.ofTokens (tokens : List Token) : Except Fault Expr :=
  match readDisjunction tokens with
  | .error stop => .error (stop.fault tokens.length)
  | .ok (expr, ⟨[], _⟩) => .ok expr
  | .ok (_, ⟨token :: after, _⟩) =>
    .error ((Stop.unexpected token after).fault tokens.length)

/-- Reads the text of a tag expression. -/
def Expr.ofText (text : Text) : Except Fault Expr :=
  match Token.ofText text with
  | .error word => .error (.notATag word)
  | .ok tokens => Expr.ofTokens tokens

example : (Expr.ofText "not @a and @b or @c").toOption =
    some (.disjunction (.conjunction (.negation (.tag "a")) (.tag "b")) (.tag "c")) := by
  cbv

end Scenarist.Tag
