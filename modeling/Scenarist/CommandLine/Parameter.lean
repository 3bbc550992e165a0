import Scenarist.Text.Basic

/-! # Parameters

The parameters that a command takes. A parameter without a value is a flag. -/

namespace Scenarist.CommandLine

inductive Setting where
  | asFeatures
  | files
  | features
  | embedded
  | tags
  | list
  | json
  | perScenario
  | resources
  | shortNamePattern
  | startMarker
  | endMarker
deriving DecidableEq, Repr

/-! How values are taken. A repeatable parameter collects the values of all its
occurrences, and commas part several values in one argument. A path must not be
empty. Some values may begin with a minus sign. -/

structure ValueForm where
  name : Text
  repeatable : Bool := false
  commas : Bool := false
  isPath : Bool := false
  minusAllowed : Bool := false
deriving DecidableEq, Repr

inductive Meaning where
  | flag
  | value (form : ValueForm)
  | help
  | version
deriving DecidableEq, Repr

structure Parameter where
  setting : Option Setting
  long : Text
  aliases : List Text := []
  short : Option Char := none
  meaning : Meaning
deriving DecidableEq, Repr

namespace Parameter

/-! The name of a parameter in a diagnostic. -/

def display (parameter : Parameter) : Text :=
  match parameter.meaning with
  | .value form => ("--" : Text) ++ parameter.long ++ (" <" : Text) ++ form.name ++ ['>']
  | _ => ("--" : Text) ++ parameter.long

def answersLong (name : Text) (parameter : Parameter) : Bool :=
  parameter.long = name || parameter.aliases.contains name

def answersShort (letter : Char) (parameter : Parameter) : Bool :=
  parameter.short = some letter

def flag (setting : Setting) (long : Text) (short : Option Char) (aliases : List Text) :
    Parameter where
  setting := some setting
  long := long
  aliases := aliases
  short := short
  meaning := .flag

def option (setting : Setting) (long : Text) (short : Option Char) (form : ValueForm) :
    Parameter where
  setting := some setting
  long := long
  short := short
  meaning := .value form

def help : Parameter where
  setting := none
  long := "help"
  short := some 'h'
  meaning := .help

def version : Parameter where
  setting := none
  long := "version"
  short := some 'V'
  meaning := .version

end Parameter

/-- The arguments that belong to no option, where a command takes any. -/
structure Positional where
  setting : Setting
  display : Text
deriving DecidableEq, Repr

/-! The shapes of the commands. -/

structure Shape where
  parameters : List Parameter
  positional : Option Positional := none

def markerParameters : List Parameter :=
  [.option .startMarker "start-marker" none { name := "marker" },
    .option .endMarker "end-marker" none { name := "marker" }]

def programShape : Shape where
  parameters := [.help, .version]

def extractShape : Shape where
  parameters :=
    .flag .asFeatures "as-features" none [] :: markerParameters ++ [.help]
  positional := some { setting := .files, display := "[FILE]..." }

def renderShape : Shape where
  parameters :=
    [.option .features "features" (some 'f')
        { name := "path", repeatable := true, commas := true, isPath := true },
      .option .embedded "embedded" (some 'e')
        { name := "file", repeatable := true, commas := true, isPath := true },
      .option .tags "tags" (some 't') { name := "tagexpr", minusAllowed := true },
      .flag .list "list" (some 'l') [],
      .flag .json "json" (some 'j') ["dump"],
      .flag .perScenario "per-scenario" (some 'F') ["tpl.feature"],
      .option .resources "resources" (some 'r')
        { name := "ref", repeatable := true, commas := true },
      .option .shortNamePattern "short-name-pattern" none { name := "regex" }] ++
    markerParameters ++ [.help]

end Scenarist.CommandLine
