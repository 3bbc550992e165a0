import Scenarist.App.Sink
import Scenarist.Error

/-! # Scripts

What a command does is a script: the texts it writes, in order, and how it ends
if all of them are taken. Playing a script stops at the first write that
fails. -/

namespace Scenarist.App

inductive Channel where
  | out
  | err
deriving DecidableEq, Repr

structure Write where
  channel : Channel
  text : Text
deriving DecidableEq, Repr

namespace Write

def outLine (text : Text) : Write :=
  ⟨.out, text ++ ['\n']⟩

def errLine (text : Text) : Write :=
  ⟨.err, text ++ ['\n']⟩

end Write

structure Console where
  out : Sink := {}
  err : Sink := {}
deriving DecidableEq, Repr

namespace Console

def sink (console : Console) : Channel → Sink
  | .out => console.out
  | .err => console.err

def setSink (console : Console) (channel : Channel) (sink : Sink) : Console :=
  match channel with
  | .out => { console with out := sink }
  | .err => { console with err := sink }

end Console

/-! What was said of a write that was refused, and the console after the write. -/

def Write.run (write : Write) (console : Console) : Option Text × Console :=
  let sink := console.sink write.channel
  let bytes := encode write.text
  (sink.refusal bytes, console.setSink write.channel (sink.append bytes))

def runWrites : List Write → Console → Option Text × Console
  | [], console => (none, console)
  | write :: rest, console =>
    match write.run console with
    | (none, next) => runWrites rest next
    | (some reason, next) => (some reason, next)

inductive ExitCode where
  | success
  | failure
deriving DecidableEq, Repr

def ExitCode.number : ExitCode → Nat
  | .success => 0
  | .failure => 1

/-- What a command writes, and how it ends. -/
structure Script where
  writes : List Write
  ending : Except Error ExitCode

def Script.failing (error : Error) : Script where
  writes := []
  ending := .error error

/-- Plays a script on a console. -/
def Script.play (script : Script) (console : Console) : Except Error ExitCode × Console :=
  match runWrites script.writes console with
  | (none, last) => (script.ending, last)
  | (some reason, last) => (.error (.output reason), last)

end Scenarist.App
