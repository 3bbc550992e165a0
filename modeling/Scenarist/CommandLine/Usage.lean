import Scenarist.Text.Space

/-! # Usage

The usage of a program: an introduction, and a section for each command. -/

namespace Scenarist.CommandLine

/-- What the usage says of one command. -/
structure Section where
  name : Text
  aliases : List Text
  about : Text
  usage : Text
deriving DecidableEq, Repr

namespace Section

def aliasText (aliases : List Text) : Text :=
  if aliases.isEmpty then [] else (" (" : Text) ++ Text.join ", " aliases ++ [')']

def aboutText (about : Text) : Text :=
  if about.isEmpty then [] else (": " : Text) ++ about

def text (part : Section) : Text :=
  ("  " : Text) ++ part.name ++ aliasText part.aliases ++ aboutText part.about ++
    ("\n    " : Text) ++ part.usage

end Section

/-- The usage of a program. -/
structure Usage where
  intro : Text
  sections : List Section := []
deriving DecidableEq, Repr

namespace Usage

def register (usage : Usage) (part : Section) : Usage :=
  { usage with sections := usage.sections ++ [part] }

def text (usage : Usage) : Text :=
  Text.trimEnd usage.intro ++
    (if usage.sections.isEmpty then [] else ("\n\nCommands:" : Text)) ++
    usage.sections.flatMap fun part => '\n' :: part.text

end Usage

def programUsage : Usage where
  intro := "Usage: gherkin-robot <COMMAND>"
  sections :=
    [{ name := "extract"
       aliases := ["feature"]
       about := "Extract Gherkin embedded into source file comments"
       usage := "Usage: gherkin-robot extract [OPTIONS] [FILE]..." },
      { name := "render"
        aliases := ["robot"]
        about := "Render Gherkin features as a Robot Framework test suite"
        usage := "Usage: gherkin-robot render [OPTIONS]" }]

end Scenarist.CommandLine
