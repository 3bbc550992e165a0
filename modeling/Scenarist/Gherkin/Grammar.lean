import Scenarist.Gherkin.Document
import Scenarist.Gherkin.Language
import Scenarist.Gherkin.Layout
import Scenarist.Gherkin.Parser
import Scenarist.Text.Dedent

/-! # Grammar of documents

Reads a document. A text either is a document or is refused as a whole. -/

namespace Scenarist.Gherkin

open Text Reader

/-! Tags stand before the part they belong to, on one line or several. -/

def isTagCharacter (character : Char) : Bool :=
  !isSpace character && character ≠ '@'

/-- A single tag, without its at sign. -/
def tag : Reader Text := do
  expecting ['@']
  nonempty (taking (cutWhile isTagCharacter))

def tags : Reader (List Text) := do
  let names ← separated gap tag
  blanks
  emptyLines
  return names

/-! A description is free text up to a tag or one of the given words. -/

def descriptionLine (words : List Text) : Reader Text := do
  blanks
  refusing (expecting ['@'])
  refusing (keyword words)
  blanks
  let line ← restOfLine
  lineEnds
  return line

def description (words : List Text) : Reader (Option Text) := do
  let lines ← separated blanks (descriptionLine words)
  gap
  let text := join ['\n'] lines
  return if isBlankText text then none else some text

/-! A docstring stands between two equal fences. Its text goes on to the next
fence, but a fence behind a number sign does not count on that line. -/

def cutAtFence (fence : Text) : (inComment : Bool) → Text → Option (Text × Text)
  | _, [] => none
  | inComment, head :: rest =>
    if !inComment && (strip fence (head :: rest)).isSome then
      some ([], head :: rest)
    else
      (cutAtFence fence (head ≠ '\n' && (inComment || head = '#')) rest).map
        fun (taken, left) => (head :: taken, left)

def fenced (fence : Text) : Reader Text := do
  expecting fence
  let cursor ← get
  match cutAtFence fence false cursor.rest with
  | none => failure
  | some cut =>
    let text ← taking fun _ => cut
    expecting fence
    lineEnds
    return dedent text

def docstring : Reader Text :=
  fenced "\"\"\"" <|> fenced "```"

/-! A table gives every row the width of its first row. A wider row loses its
last cells, a narrower one is refused. -/

def cutAtBar : Text → Text × Text
  | [] => ([], [])
  | '|' :: rest => ([], '|' :: rest)
  | '\n' :: rest => ([], '\n' :: rest)
  | '\r' :: '\n' :: rest => ([], '\r' :: '\n' :: rest)
  | head :: rest =>
    let (taken, left) := cutAtBar rest
    (head :: taken, left)

def cell : Reader Text := do
  expecting ['|']
  blanks
  refusing (lineFeed <|> atEnd)
  let text ← taking cutAtBar
  return trim text

def row : Reader (List Text) := do
  let cells ← separated blanks cell
  blanks
  expecting ['|']
  blanks
  lineEnds
  return cells

def rectangle : Table → Option Table
  | [] => some []
  | first :: rest =>
    if rest.all fun row => first.length ≤ row.length then
      some (first :: rest.map fun row => row.take first.length)
    else
      none

def table : Reader Table := do
  blanks
  let rows ← separatedOne blanks row
  match rectangle rows with
  | none => failure
  | some table => return table

/-! Steps. Words of conjunction and contrast continue a step that came before
them in the same list. -/

def stepAt (words : List Text) : Reader Step := do
  let line ← here
  let keyword ← keyword words
  blanks
  let text ← restOfLine
  blanks
  lineEnds
  blanks
  let docstring ← optional docstring
  let table ← optional table
  return { keyword, text := trimEnd text, line, docstring, table }

def leadingStep (language : Language) : Reader Step :=
  (comments *> stepAt language.context) <|> stepAt language.action <|>
    stepAt language.outcome

def followingStep (language : Language) : Reader Step :=
  leadingStep language <|> stepAt language.conjunction <|> stepAt language.contrast

def steps (language : Language) : Reader (List Step) :=
  (do
    let first ← leadingStep language
    let others ← many (blanks *> followingStep language)
    return first :: others) <|> pure []

/-! The header of a part: its keyword, a colon and a name. -/

def header (words : List Text) : Reader (Text × Text) := do
  let keyword ← keyword words
  expecting [':']
  blanks
  let name ← nameOfPart
  lineEnds
  return (keyword, name)

def background (language : Language) : Reader Background := do
  comments
  blanks
  let _ ← header language.background
  let _ ← description (language.scenarios ++ language.steps)
  return ⟨← steps language⟩

def examples (language : Language) : Reader Examples := do
  comments
  blanks
  let tags ← tags
  blanks
  let _ ← header language.examples
  let _ ← description (language.scenarios ++ language.steps ++ (["|"] : List Text))
  return ⟨tags, ← optional table⟩

def scenarioOpenedBy (words : List Text) (language : Language) : Reader Scenario := do
  comments
  blanks
  let tags ← tags
  blanks
  let line ← here
  let (keyword, name) ← header words
  let description ← description (language.scenarios ++ language.steps)
  let steps ← steps language
  let examples ← many (examples language)
  return { keyword, name, description, tags, line, steps, examples }

def scenario (language : Language) : Reader Scenario :=
  scenarioOpenedBy language.scenario language <|>
    scenarioOpenedBy language.outline language

def scenarios (language : Language) : Reader (List Scenario) := do
  blanks
  separated blanks (scenario language)

def rule (language : Language) : Reader Rule := do
  blanks
  let tags ← tags
  blanks
  let (_, name) ← header language.rule
  let _ ← description (language.background ++ language.scenarios)
  let background ← optional (background language)
  emptyLines
  let scenarios ← scenarios language
  emptyLines
  return { name, tags, background, scenarios }

def rules (language : Language) : Reader (List Rule) := do
  blanks
  separated blanks (rule language)

/-! The language is named by a comment at the very beginning. A name that is
not known refuses the text. -/

def languageName : Reader Text := do
  let _ ← many (oneBlank <|> lineFeed)
  expecting ['#']
  blanks
  expecting "language"
  blanks
  expecting [':']
  blanks
  let name ← restOfLine
  lineEnd
  return name

def language : Reader Language := do
  match ← optional languageName with
  | none => return Language.english
  | some name =>
    match Language.named name with
    | none => failure
    | some language => return language

def feature : Reader Feature := do
  blanks
  let language ← language
  emptyLines
  let tags ← tags
  let (keyword, name) ← header language.feature
  let description ← description (language.background ++ language.rule ++ language.scenarios)
  let background ← optional (background language)
  emptyLines
  let scenarios ← scenarios language
  emptyLines
  let rules ← rules language
  emptyLines
  atEnd
  return { path := none, keyword, name, description, tags, background, scenarios, rules }

def closedText (text : Text) : Text :=
  if text.getLast? = some '\n' then text else text ++ ['\n']

/-- Reads a document. A last line feed may be missing. -/
def Feature.ofText (text : Text) : Option Feature :=
  (feature ⟨1, closedText text⟩).map (·.1)

/-! The reader does not tell where a text is wrong. This stands in for it, also
where no more than the name of a refused text is known. -/

def unexplained : Text := "<gherkin error>"

instance (priority := low) reader : Parser where
  parse text := (Feature.ofText text).elim (.error unexplained) .ok

instance : Coe Text Refusal where
  coe name := ⟨name, unexplained⟩

end Scenarist.Gherkin
