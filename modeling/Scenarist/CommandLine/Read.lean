import Scenarist.CommandLine.Answer
import Scenarist.CommandLine.Arguments
import Scenarist.CommandLine.Help

/-! # Reading a command line

The first argument names the command, the others belong to it. Reading ends
with the command, with a text that was asked for, or with a refusal. -/

namespace Scenarist.CommandLine

inductive CommandName where
  | extract
  | render
deriving DecidableEq, Repr

namespace CommandName

def ofText (text : Text) : Option CommandName :=
  if text = ("extract" : Text) || text = ("feature" : Text) then some .extract
  else if text = ("render" : Text) || text = ("robot" : Text) then some .render
  else none

def help (full : Bool) : CommandName → Text
  | .extract => extractHelp
  | .render => if full then renderHelpInFull else renderHelp

end CommandName

inductive Refusal where
  | noCommand
  | fault (fault : Fault)
deriving DecidableEq, Repr

/-- What the arguments ask for. -/
inductive Request where
  | run (command : Command)
  | help (text : Text)
  | version
  | refused (refusal : Refusal)
deriving DecidableEq, Repr

def markersOf (progress : Progress) : Comment.Markers :=
  let default : Comment.Markers := {}
  { start := progress.value .startMarker default.start
    finish := progress.value .endMarker default.finish }

def extractOptions (progress : Progress) : ExtractOptions where
  asFeatures := progress.flag .asFeatures
  files := progress.values .files
  markers := markersOf progress

def renderOptions (progress : Progress) : RenderOptions :=
  let default : RenderOptions := {}
  { features := progress.values .features
    embedded := progress.values .embedded
    tags := progress.value .tags default.tags
    list := progress.flag .list
    json := progress.flag .json
    perScenario := progress.flag .perScenario
    resources := progress.values .resources
    shortNamePattern := progress.value .shortNamePattern default.shortNamePattern
    markers := markersOf progress }

/-! What ends the reading is answered with the help of the command it
concerns. -/

def Stop.request (help : Bool → Text) : Stop → Request
  | .fault reason => .refused (.fault reason)
  | .help full => .help (help full)
  | .version => .version
  | .noCommand => .refused .noCommand

def requestOf (help : Bool → Text) (result : Except Stop Command) : Request :=
  match result with
  | .error stop => stop.request help
  | .ok command => .run command

def readCommand (name : CommandName) (arguments : List Text) : Request :=
  requestOf (fun full => name.help full)
    (match name with
      | .extract =>
        (readArguments extractShape {} arguments).map fun progress =>
          .extract (extractOptions progress)
      | .render =>
        (readArguments renderShape {} arguments).map fun progress =>
          .render (renderOptions progress))

/-! Before the command only help and the version can be asked for. -/

def noCommandAfter (result : Except Stop Progress) : Except Stop Command :=
  result.bind fun _ => .error .noCommand

/-- Reads the arguments of the program. -/
def readProgram : List Text → Request
  | [] => .refused .noCommand
  | argument :: rest =>
    match Argument.ofText argument with
    | .terminator =>
      match rest with
      | [] => .refused .noCommand
      | next :: _ =>
        if (CommandName.ofText next).isSome then
          .refused (.fault (.unknownArgument next))
        else
          .refused (.fault (.unknownCommand next))
    | .long name value =>
      requestOf (fun _ => programHelp)
        (noCommandAfter (Progress.readLong programShape {} name value))
    | .short letters =>
      requestOf (fun _ => programHelp)
        (noCommandAfter (Progress.readShort programShape {} letters))
    | .plain =>
      match CommandName.ofText argument with
      | none => .refused (.fault (.unknownCommand argument))
      | some name => readCommand name rest

/-! The wording of a refusal is its first line, since an argument may hold line
feeds. -/

def Fault.wording : Fault → Text
  | .unknownArgument argument => "unexpected argument '" ++ argument ++ ("' found" : Text)
  | .unknownCommand argument => "unrecognized subcommand '" ++ argument ++ ("'" : Text)
  | .missingValue parameter =>
    "a value is required for '" ++ parameter ++ ("' but none was supplied" : Text)
  | .repeated parameter =>
    "the argument '" ++ parameter ++ ("' cannot be used multiple times" : Text)
  | .unneededValue value parameter =>
    "unexpected value '" ++ value ++ ("' for '" : Text) ++ parameter ++
      ("' found; no more were expected" : Text)

def Fault.message (fault : Fault) : Text :=
  firstLine fault.wording

def Request.answer : Request → Answer
  | .run command => .run command
  | .help text => .display text
  | .version => .display versionText
  | .refused .noCommand => .noCommand
  | .refused (.fault fault) => .refused (("error: " : Text) ++ fault.message)

instance (priority := low) reader : Interpreter where
  answer arguments := (readProgram arguments).answer

end Scenarist.CommandLine
