import Scenarist.CommandLine.Parameter
import Scenarist.Text.Line

/-! # Reading arguments

Arguments are read from left to right. A value that stands in an argument of
its own is settled only when the next known parameter comes, so a fault in an
argument that is not known at all is found before it. -/

namespace Scenarist.CommandLine

open Text

inductive Fault where
  | unknownArgument (argument : Text)
  | unknownCommand (argument : Text)
  | missingValue (parameter : Text)
  | repeated (parameter : Text)
  | unneededValue (value parameter : Text)
deriving DecidableEq, Repr

/-- Why reading ends without a command to run. Help is asked for in short by a letter
and in full by a word. -/
inductive Stop where
  | fault (fault : Fault)
  | help (full : Bool)
  | version
  | noCommand
deriving DecidableEq, Repr

/-! What has been settled, in order, and what still waits to be: an option that
awaits its value or has it, or a run of positional arguments. -/

inductive Pending where
  | nothing
  | awaiting (parameter : Parameter) (form : ValueForm)
  | valued (parameter : Parameter) (form : ValueForm) (value : Text)
  | positional (positional : Positional) (values : List Text)
deriving DecidableEq, Repr

structure Progress where
  given : List (Option Setting × List Text) := []
  pending : Pending := .nothing
deriving DecidableEq, Repr

namespace Progress

def has (progress : Progress) (setting : Option Setting) : Bool :=
  progress.given.any fun other => other.1 = setting

def record (progress : Progress) (setting : Option Setting) (values : List Text) : Progress where
  given := progress.given ++ [(setting, values)]
  pending := .nothing

/-! Settling a value: an option that is not repeatable must not have been given
before, and none of the values of a path may be empty. -/

def settleValue (progress : Progress) (parameter : Parameter) (form : ValueForm)
    (value : Text) : Except Stop Progress :=
  let values := if form.commas then split ',' value else [value]
  if !form.repeatable && progress.has parameter.setting then
    .error (.fault (.repeated parameter.display))
  else if form.isPath && values.any List.isEmpty then
    .error (.fault (.missingValue parameter.display))
  else
    .ok (progress.record parameter.setting values)

def settle (progress : Progress) : Except Stop Progress :=
  match progress.pending with
  | .nothing => .ok progress
  | .awaiting parameter _ => .error (.fault (.missingValue parameter.display))
  | .valued parameter form value => progress.settleValue parameter form value
  | .positional positional values =>
    if values.any List.isEmpty then
      .error (.fault (.missingValue positional.display))
    else
      .ok (progress.record (some positional.setting) values)

/-! A known parameter settles what is pending before it takes effect. -/

def meet (progress : Progress) (parameter : Parameter) (full : Bool) :
    Except Stop Progress := do
  let settled ← progress.settle
  match parameter.meaning with
  | .help => .error (.help full)
  | .version => .error .version
  | .flag =>
    if settled.has parameter.setting then
      .error (.fault (.repeated parameter.display))
    else
      .ok (settled.record parameter.setting [])
  | .value form => .ok { settled with pending := .awaiting parameter form }

def meetAttached (progress : Progress) (parameter : Parameter) (form : ValueForm)
    (value : Text) : Except Stop Progress := do
  let settled ← progress.settle
  settled.settleValue parameter form value

/-- An argument of two minus signs and a name, perhaps with a value behind an equals
sign. -/
def readLong (shape : Shape) (progress : Progress) (name : Text) (value : Option Text) :
    Except Stop Progress :=
  match shape.parameters.find? (Parameter.answersLong name) with
  | none => .error (.fault (.unknownArgument (['-', '-'] ++ name)))
  | some parameter =>
    match value, parameter.meaning with
    | none, _ => progress.meet parameter true
    | some value, .value form => progress.meetAttached parameter form value
    | some value, _ => .error (.fault (.unneededValue value parameter.display))

/-! Letters behind one minus sign. What follows the letter of an option is its
value, with or without an equals sign. -/

def attachedValue : Text → Text
  | '=' :: value => value
  | value => value

def readShort (shape : Shape) : Progress → Text → Except Stop Progress
  | progress, [] => .ok progress
  | progress, letter :: rest =>
    match shape.parameters.find? (Parameter.answersShort letter) with
    | none => .error (.fault (.unknownArgument ['-', letter]))
    | some parameter =>
      match parameter.meaning, rest with
      | .value form, _ :: _ => progress.meetAttached parameter form (attachedValue rest)
      | _, _ => do
        let next ← progress.meet parameter false
        readShort shape next rest

def readPositional (shape : Shape) (progress : Progress) (argument : Text) :
    Except Stop Progress :=
  match shape.positional with
  | none => .error (.fault (.unknownArgument argument))
  | some positional =>
    match progress.pending with
    | .positional _ values =>
      .ok { progress with pending := .positional positional (values ++ [argument]) }
    | _ => do
      let settled ← progress.settle
      return { settled with pending := .positional positional [argument] }

def readValue (shape : Shape) (progress : Progress) (argument : Text) :
    Except Stop Progress :=
  match progress.pending with
  | .awaiting parameter form =>
    .ok { progress with pending := .valued parameter form argument }
  | _ => readPositional shape progress argument

def awaitsAnything (progress : Progress) : Bool :=
  match progress.pending with
  | .awaiting _ form => form.minusAllowed
  | _ => false

end Progress

/-! The name and the attached value of a long argument. -/

def cutAtEquals (argument : Text) : Text × Option Text :=
  match argument.dropWhile (· ≠ '=') with
  | [] => (argument, none)
  | _ :: value => (argument.takeWhile (· ≠ '='), some value)

inductive Argument where
  | terminator
  | long (name : Text) (value : Option Text)
  | short (letters : Text)
  | plain
deriving DecidableEq, Repr

def Argument.ofText : Text → Argument
  | ['-'] => .plain
  | ['-', '-'] => .terminator
  | '-' :: '-' :: rest => .long (cutAtEquals rest).1 (cutAtEquals rest).2
  | '-' :: letters => .short letters
  | _ => .plain

/-- Reads all arguments. Everything behind the terminator is positional. -/
def readArguments (shape : Shape) : Progress → List Text → Except Stop Progress
  | progress, [] => progress.settle
  | progress, argument :: rest => do
    if progress.awaitsAnything then
      readArguments shape (← progress.readValue shape argument) rest
    else
      match Argument.ofText argument with
      | .terminator =>
        let last ← rest.foldlM (Progress.readPositional shape) progress
        last.settle
      | .long name value =>
        readArguments shape (← progress.readLong shape name value) rest
      | .short letters => readArguments shape (← Progress.readShort shape progress letters) rest
      | .plain => readArguments shape (← progress.readValue shape argument) rest

/-! The values given for a parameter, over all its occurrences. -/

def Progress.values (progress : Progress) (setting : Setting) : List Text :=
  progress.given.flatMap fun (other, values) =>
    if other = some setting then values else []

def Progress.value (progress : Progress) (setting : Setting) (default : Text) : Text :=
  (progress.values setting).headD default

def Progress.flag (progress : Progress) (setting : Setting) : Bool :=
  progress.has (some setting)

end Scenarist.CommandLine
