import Scenarist.App.Extract
import Scenarist.App.Render
import Scenarist.CommandLine.Read
import Scenarist.Gherkin.Grammar

/-! # Running the program

A run has its arguments read, plays the script of the command and flushes its
output. It ends with an exit code. Documents, patterns and arguments are read by
whatever parser, compiler and interpreter the program is given. -/

namespace Scenarist.App

open CommandLine

section

variable [Gherkin.Parser] [Pattern.Compiler]

def commandScript (setup : Setup) (files : Files) : Command → Script
  | .extract options => extractScript setup files options
  | .render options => renderScript setup files options

def noCommandError : Error :=
  .usage "no command given"

/-! A text that was asked for is all there is to write. -/

def display (setup : Setup) (text : Text) (console : Console) : ExitCode × Console :=
  match runWrites [⟨.out, text⟩] console with
  | (none, last) => (.success, last)
  | (some reason, last) => (.failure, setup.fail (.output reason) last)

def conclude (setup : Setup) (result : Except Error ExitCode × Console) : ExitCode × Console :=
  match result with
  | (.ok code, console) => (code, console)
  | (.error error, console) => (.failure, setup.fail error console)

/-! A flush that fails is a failure of its own, whatever came before. -/

def flush (setup : Setup) (result : ExitCode × Console) : ExitCode × Console :=
  if result.2.out.flushFails then
    (.failure, setup.fail (.output result.2.out.faults.flush) result.2)
  else
    result

/-- A whole run of the program. -/
def run [Interpreter] (setup : Setup) (files : Files) (arguments : List Text)
    (console : Console) : ExitCode × Console :=
  match Interpreter.answer arguments with
  | .display text => display setup text console
  | .noCommand => (.failure, setup.fail noCommandError console)
  | .refused rendered => (.failure, setup.fail (.usage (refusalMessage rendered)) console)
  | .run command =>
    flush setup (conclude setup ((commandScript setup files command).play console))

end

end Scenarist.App
