import Scenarist.CommandLine.Options
import Scenarist.Text.Line

/-! # Answers to arguments

Arguments are read by a library of their own. What it answers is a command, a
text that was asked for, such as help, or a refusal with words for it. -/

namespace Scenarist.CommandLine

inductive Answer where
  | run (command : Command)
  | display (text : Text)
  | noCommand
  | refused (rendered : Text)
deriving DecidableEq, Repr

/-- A reader of arguments. -/
class Interpreter where
  answer : List Text → Answer

/-! Of a refusal, the first line is passed on, without the labels that it begins
with. -/

def firstLine (text : Text) : Text :=
  (Text.lines text).headD []

def dropLabels : Text → Text
  | 'e' :: 'r' :: 'r' :: 'o' :: 'r' :: ':' :: ' ' :: rest => dropLabels rest
  | text => text

def refusalMessage (rendered : Text) : Text :=
  dropLabels (firstLine rendered)

end Scenarist.CommandLine
