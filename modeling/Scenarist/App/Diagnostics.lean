import Scenarist.App.Script
import Scenarist.App.Style
import Scenarist.CommandLine.Usage

/-! # Diagnostics

An error is reported on a line for its message and one for each cause. The
usage follows the last report. -/

namespace Scenarist.App

open CommandLine

structure Setup where
  usage : Usage := programUsage
  styles : Styles := {}
deriving DecidableEq, Repr

namespace Setup

def messageLine (setup : Setup) (message : Text) : Write :=
  .errLine (setup.styles.error (("Error: " : Text) ++ message))

def causeLine (cause : Text) : Write :=
  .errLine (("  caused by: " : Text) ++ cause)

def usageLines (setup : Setup) : List Write :=
  [.errLine [], .errLine (setup.styles.bold setup.usage.text)]

section

variable [Pattern.Compiler]

def diagnosis (setup : Setup) (error : Error) : List Write :=
  setup.messageLine error.message :: error.causes.map causeLine

/-- Reports an error and the usage. A failure that cannot be reported stays unreported.
-/
def fail (setup : Setup) (error : Error) (console : Console) : Console :=
  (runWrites (setup.diagnosis error ++ setup.usageLines) console).2

end

end Setup

end Scenarist.App
