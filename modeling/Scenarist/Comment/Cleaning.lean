import Scenarist.Text.Line
import Scenarist.Text.Space

/-! # Cleaning comments

A block lifted out of a comment still carries the comment's tokens, its
indentation and its blank lines. Four passes take them away, one after the
other. The cleaned text is empty, or each of its lines ends with a line feed
and says something. -/

namespace Scenarist.Comment

open Text

/-! A token is two slashes, possibly made a documentation token by a third
slash or an exclamation mark. -/

def documentationMark : Text → Text
  | [] => []
  | head :: rest => if head = '/' || head = '!' then rest else head :: rest

def afterToken (line : Text) : Option Text :=
  (strip ['/', '/'] (dropBlanks line)).map documentationMark

theorem length_afterToken {line rest : Text} (found : afterToken line = some rest) :
    rest.length < line.length := by
  obtain ⟨body, stripped, equal⟩ := Option.map_eq_some_iff.mp found
  rw [strip_eq_some_iff] at stripped
  have dropped : (dropBlanks line).length ≤ line.length :=
    List.Sublist.length_le (List.dropWhile_sublist _)
  have marked : (documentationMark body).length ≤ body.length := by
    cases body with
    | nil => simp [documentationMark]
    | cons head tail =>
        simp only [documentationMark]
        split <;> simp
  rw [stripped] at dropped
  simp only [List.length_append, List.length_cons, List.length_nil] at dropped
  subst equal
  omega

/-! Tokens are stripped as long as one begins the line, for a comment may sit
inside another. What follows the last of them stays as it is. -/

def withoutTokens (line : Text) : Text :=
  match _found : afterToken line with
  | none => line
  | some rest => withoutTokens rest
termination_by line.length
decreasing_by exact length_afterToken (by assumption)

def stripTokens (text : Text) : Text :=
  mapLines withoutTokens text

/-! A number sign opens a comment in other sources, and in the text itself
too, so at most one is taken from each line. -/

def withoutNumberSign (line : Text) : Text :=
  (strip ['#'] (dropBlanks line)).getD line

def stripNumberSigns (text : Text) : Text :=
  mapLines withoutNumberSign text

def tabWidth : Nat := 4

/-- Writes spaces for each tab. -/
def expandTabs (text : Text) : Text :=
  text.flatMap fun character =>
    if character = '\t' then List.replicate tabWidth ' ' else [character]

/-! The single space between a token and the text. A line indented deeper
keeps all of its indentation. -/

def withoutSpacer : Text → Text
  | ' ' :: next :: rest =>
    if isBlank next then ' ' :: next :: rest else next :: rest
  | line => line

def stripSpacers (text : Text) : Text :=
  mapLines withoutSpacer text

def withoutReturns (line : Text) : Text :=
  dropEndWhile (· = '\r') line

def dropBlankLines (text : Text) : Text :=
  (((split '\n' text).map withoutReturns).filter fun line =>
    !isBlankText line).flatMap fun line => line ++ ['\n']

/-! The passes in their order. -/

inductive Pass where
  | tokens
  | tabs
  | spacers
  | blankLines
deriving DecidableEq, Repr

namespace Pass

def apply : Pass → Text → Text
  | .tokens => stripTokens
  | .tabs => expandTabs
  | .spacers => stripSpacers
  | .blankLines => dropBlankLines

def all : List Pass :=
  [.tokens, .tabs, .spacers, .blankLines]

end Pass

/-- Applies all passes in their order. -/
def clean (text : Text) : Text :=
  Pass.all.foldl (fun cleaned pass => pass.apply cleaned) text

/-- The texts between the passes. -/
def cleaningSteps (text : Text) : List (Pass × Text) :=
  (Pass.all.foldl
    (fun (steps, current) pass =>
      let next := pass.apply current
      (steps ++ [(pass, next)], next))
    (([], text) : List (Pass × Text) × Text)).1

example : clean "\t// Scenario: a\n\n\t//   Given b" =
    ("Scenario: a\n   Given b\n" : Text) := by cbv

end Scenarist.Comment
