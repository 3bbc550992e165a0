import Scenarist.Text.Quoted
import Scenarist.Text.Space

/-! # Tokens of a tag expression

Parentheses stand for themselves. Everything else between whitespace and
parentheses is a word: one of the three operators, or a tag with its at
sign. -/

namespace Scenarist.Tag

open Text

inductive Lexeme where
  | opening
  | closing
  | word (text : Text)
deriving DecidableEq, Repr

namespace Lexeme

def endsWord (character : Char) : Bool :=
  isSpace character || character = '(' || character = ')'

def ofText : Text → List Lexeme
  | [] => []
  | head :: rest =>
    if head = '(' then
      .opening :: ofText rest
    else if head = ')' then
      .closing :: ofText rest
    else if isSpace head then
      ofText rest
    else
      match rest with
      | [] => [.word [head]]
      | next :: _ =>
        if endsWord next then
          .word [head] :: ofText rest
        else
          match ofText rest with
          | .word text :: others => .word (head :: text) :: others
          | others => .word [head] :: others

example : ofText "not(@a or@b)" =
    [.word "not", .opening, .word "@a", .word "or@b", .closing] := by decide

end Lexeme

inductive Token where
  | opening
  | closing
  | negation
  | conjunction
  | disjunction
  | tag (name : Text)
deriving DecidableEq, Repr

namespace Token

def ofWord (word : Text) : Option Token :=
  if word = ("not" : Text) then some .negation
  else if word = ("and" : Text) then some .conjunction
  else if word = ("or" : Text) then some .disjunction
  else
    match strip ['@'] word with
    | none => none
    | some [] => none
    | some name => some (.tag name)

/-! A word that is no token is handed back. -/

def ofLexeme : Lexeme → Except Text Token
  | .opening => .ok .opening
  | .closing => .ok .closing
  | .word word =>
    match ofWord word with
    | none => .error word
    | some token => .ok token

/-- The tokens of a text, or its first word that is none. -/
def ofText (text : Text) : Except Text (List Token) :=
  (Lexeme.ofText text).mapM ofLexeme

def describe : Token → Text
  | .opening => "Open"
  | .closing => "Close"
  | .negation => "Not"
  | .conjunction => "And"
  | .disjunction => "Or"
  | .tag name => "Tag(" ++ quoted name ++ [')']

end Token

end Scenarist.Tag
