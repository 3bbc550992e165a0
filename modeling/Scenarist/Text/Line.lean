import Scenarist.Text.Basic

/-! # Lines

A line ends with a line feed. Reading lines drops one carriage return that
stands right before the line feed, and the empty piece after the last one. -/

namespace Scenarist.Text

def dropReturn (line : Text) : Text :=
  if line.getLast? = some '\r' then line.dropLast else line

def closedLines : List Text → List Text
  | [] => []
  | [last] => if last.isEmpty then [] else [last]
  | line :: rest => dropReturn line :: closedLines rest

/-- The lines of a text, without their ends. -/
def lines (text : Text) : List Text :=
  closedLines (split '\n' text)

example : lines "a\r\nb\n\nc\r" = (["a", "b", "", "c\r"] : List Text) := by decide
example : lines "\n" = ([""] : List Text) := by decide
example : lines "" = [] := by decide

/-! A line-by-line change that keeps the line feeds where they are. -/

def mapLines (change : Text → Text) (text : Text) : Text :=
  join ['\n'] ((split '\n' text).map change)

/-- The number of line feeds in a text. -/
def lineFeeds (text : Text) : Nat :=
  text.count '\n'

/-- What follows the first line feed. -/
def afterLineFeed : Text → Option Text
  | [] => none
  | head :: rest => if head = '\n' then some rest else afterLineFeed rest

theorem length_afterLineFeed {text rest : Text}
    (found : afterLineFeed text = some rest) : rest.length < text.length := by
  induction text with
  | nil => simp [afterLineFeed] at found
  | cons head tail induction =>
      simp only [afterLineFeed] at found
      split at found
      · cases found
        simp
      · exact Nat.lt_succ_of_lt (induction found)

/-- What follows the last line feed, or the whole text if there is none. -/
def lastLine (text : Text) : Text :=
  (text.reverse.takeWhile (· ≠ '\n')).reverse

end Scenarist.Text
