import Scenarist.Text.Line
import Scenarist.Text.Space

/-! # Readers

A reader takes a part from the beginning of a text and may refuse. It keeps
count of the lines. A choice commits to the first reader that succeeds. -/

namespace Scenarist.Gherkin

open Text

structure Cursor where
  line : Nat
  rest : Text
deriving DecidableEq, Repr

abbrev Reader := StateT Cursor Option

namespace Reader

def here : Reader Nat := fun cursor =>
  some (cursor.line, cursor)

/-! Takes the part that a cut of the text puts first. -/

def taking (cut : Text → Text × Text) : Reader Text := fun cursor =>
  let (taken, rest) := cut cursor.rest
  some (taken, ⟨cursor.line + lineFeeds taken, rest⟩)

def expecting (beginning : Text) : Reader Unit := fun cursor =>
  (strip beginning cursor.rest).map fun rest =>
    ((), ⟨cursor.line + lineFeeds beginning, rest⟩)

def atEnd : Reader Unit := fun cursor =>
  if cursor.rest.isEmpty then some ((), cursor) else none

/-! Succeeds where the given reader refuses, and takes nothing. -/

def refusing (reader : Reader α) : Reader Unit := fun cursor =>
  match reader cursor with
  | none => some ((), cursor)
  | some _ => none

def nonempty (reader : Reader Text) : Reader Text := do
  let text ← reader
  if text.isEmpty then failure else return text

/-! Repetition goes on as long as the reader succeeds and takes something. -/

def repeated (reader : Reader α) (cursor : Cursor) : List α × Cursor :=
  match reader cursor with
  | none => ([], cursor)
  | some (value, next) =>
    if next.rest.length < cursor.rest.length then
      let (values, last) := repeated reader next
      (value :: values, last)
    else
      ([], cursor)
termination_by cursor.rest.length

def many (reader : Reader α) : Reader (List α) := fun cursor =>
  some (repeated reader cursor)

def manyOne (reader : Reader α) : Reader (List α) := do
  let first ← reader
  let others ← many reader
  return first :: others

/-! Parts with separators between them. A separator without a part behind it
is left in the text. -/

def separatedOne (separator : Reader β) (reader : Reader α) : Reader (List α) := do
  let first ← reader
  let others ← many (separator *> reader)
  return first :: others

def separated (separator : Reader β) (reader : Reader α) : Reader (List α) :=
  separatedOne separator reader <|> pure []

end Reader

end Scenarist.Gherkin
