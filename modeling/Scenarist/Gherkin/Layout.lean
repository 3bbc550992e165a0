import Scenarist.Gherkin.Reader

/-! # Layout

Blanks, line ends and comments, and the words that open a part. A comment runs
from a number sign to the end of its line. -/

namespace Scenarist.Gherkin

open Text Reader

def blanks : Reader Unit := do
  let _ ← taking (cutWhile isBlank)

def oneBlank : Reader Unit := do
  let _ ← nonempty (taking (cutWhile isBlank))

/-! A line ends at a line feed, together with one carriage return before it. -/

def cutAtLineEnd : Text → Text × Text
  | [] => ([], [])
  | '\n' :: rest => ([], '\n' :: rest)
  | '\r' :: '\n' :: rest => ([], '\r' :: '\n' :: rest)
  | head :: rest =>
    let (taken, left) := cutAtLineEnd rest
    (head :: taken, left)

def lineFeed : Reader Unit :=
  expecting ['\r', '\n'] <|> expecting ['\n']

def commentText : Reader Unit := do
  blanks
  expecting ['#']
  let _ ← taking cutAtLineEnd

/-- The end of a line, with the comment that may stand before it. -/
def lineEnd : Reader Unit := do
  let _ ← optional commentText
  lineFeed

/-! All line ends and blanks that follow, or the end of the text. -/

def lineEnds : Reader Unit :=
  (do let _ ← manyOne (lineEnd <|> oneBlank)) <|> atEnd

def emptyLines : Reader Unit := do
  let _ ← many lineEnd

def gap : Reader Unit := do
  let _ ← many (oneBlank <|> lineEnd)

def comments : Reader Unit := do
  let _ ← many (commentText *> lineEnds)

def restOfLine : Reader Text :=
  nonempty (taking cutAtLineEnd)

/-- The text that may follow a keyword's colon. -/
def nameOfPart : Reader Text := do
  let name ← optional restOfLine
  return trimEnd (name.getD [])

/-! Of the words that may open a part, the first that stands here counts. -/

def openingWord (words : List Text) : Reader Text := fun cursor =>
  words.findSome? fun word =>
    (expecting word cursor).map fun (_, next) => (word, next)

def keyword (words : List Text) : Reader Text := do
  comments
  openingWord words

end Scenarist.Gherkin
