import Scenarist.Gherkin.Document

/-! # Parsers of documents

The grammar of documents is not the program's own. It comes with a parser, which
the program asks for the document of a text and whose words it passes on when a
text is refused. -/

namespace Scenarist.Gherkin

/-- A parser answers with a document, or with its complaint about the text. -/
class Parser where
  parse : Text → Except Text Feature

/-- A text that was refused, by the name that it goes by, and what was said of it. -/
structure Refusal where
  name : Text
  complaint : Text
deriving DecidableEq, Repr

end Scenarist.Gherkin
