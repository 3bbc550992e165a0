import Scenarist.Text.Line
import Scenarist.Text.Space

/-! # Removing a common margin

The margin is the whitespace that the first line saying something begins with,
shortened to what it shares with each later line. A later line that ends before
it differs from the margin leaves the margin alone. -/

namespace Scenarist.Text

def narrow : (margin line : Text) → Text
  | [], _ => []
  | expected :: margin, [] => expected :: margin
  | expected :: margin, head :: line =>
    if head = expected then expected :: narrow margin line else []

def margin (content : List Text) : Text :=
  match content.dropWhile isBlankText with
  | [] => []
  | first :: rest => rest.foldl narrow (indentation first)

def withoutMargin (edge line : Text) : Text :=
  if isBlankText line then [] else line.drop edge.length

/-- Removes the margin. Blank lines become empty, and the last line feed stays if there
was one. -/
def dedent (text : Text) : Text :=
  let content := lines text
  let joined := join ['\n'] (content.map (withoutMargin (margin content)))
  if text.getLast? = some '\n' then joined ++ ['\n'] else joined

example : dedent "\n    one\n      two\n  \n    " = ("\none\n  two\n\n" : Text) := by
  decide

end Scenarist.Text
