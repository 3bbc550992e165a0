import Scenarist.Gherkin.Parser
import Scenarist.Robot.Render

/-! # Errors

Whatever can end a run, with the words for it. An error is reported by its
message and then by the messages of its causes. -/

namespace Scenarist

/-- Why a run fails. -/
inductive Error where
  | noInput
  | missing (path : Text)
  | unreadable (path reason : Text)
  | featureUnreadable (path reason : Text)
  | featureMalformed (refusal : Gherkin.Refusal)
  | excerptMalformed (refusal : Gherkin.Refusal)
  | tagExpression (text reason : Text)
  | template (fault : Robot.Fault)
  | shortName (mismatch : Robot.Mismatch)
  | pattern
  | usage (message : Text)
  | output (reason : Text)
deriving DecidableEq, Repr

namespace Error

def readingMessage (path : Text) : Text :=
  "Could not read path: " ++ path

def parsingMessage (path : Text) : Text :=
  "Could not parse feature file: " ++ path

def renderingMessage : Text :=
  "Failed to render 'main.robot'"

def namingName : Robot.Naming → Text
  | .shortName => "short_name"
  | .scenarioTitle => "scenario_title"

def namingMessage (naming : Robot.Naming) : Text :=
  "Filter call '" ++ namingName naming ++ ("' failed" : Text)

section

variable [Pattern.Compiler]

def message : Error → Text
  | .noInput => "no input files given"
  | .missing path => "unknown feature dir or file: `" ++ path ++ ['`']
  | .unreadable path reason => "cannot read `" ++ path ++ ("`: " : Text) ++ reason
  | .featureUnreadable path _ => "failed to parse feature file: " ++ readingMessage path
  | .featureMalformed refusal => "failed to parse feature file: " ++ parsingMessage refusal.name
  | .excerptMalformed refusal =>
    "failed to parse embedded feature `" ++ refusal.name ++ ("`: " : Text) ++ refusal.complaint
  | .tagExpression text reason =>
    "invalid tag expression `" ++ text ++ ("`: " : Text) ++ reason
  | .template _ => "template error: " ++ renderingMessage
  | .shortName mismatch => mismatch.message
  | .pattern => "invalid short name pattern: " ++ Pattern.Compiler.complaint
  | .usage message => message
  | .output reason => "failed to write output: " ++ reason

def causes : Error → List Text
  | .unreadable _ reason => [reason]
  | .featureUnreadable path reason => [readingMessage path, reason]
  | .featureMalformed refusal => [parsingMessage refusal.name, refusal.complaint]
  | .excerptMalformed refusal => [refusal.complaint]
  | .template fault =>
    [renderingMessage, namingMessage fault.naming, fault.mismatch.message]
  | .pattern => [Pattern.Compiler.complaint]
  | .output reason => [reason]
  | _ => []

/-- The message of an error and those of its causes. -/
def chain (error : Error) : List Text :=
  error.message :: error.causes

end

end Error

end Scenarist
