import Scenarist.App.Diagnostics
import Scenarist.CommandLine.Options
import Scenarist.Load
import Scenarist.Suite.Dump

/-! # The render command

Checks the settings and the paths, loads the features and writes them in the
form that was asked for: the titles of the scenarios, one record for each
feature, or the suite. -/

namespace Scenarist.App

open CommandLine

/-! All missing paths are reported, the last of them as the failure. -/

def missingPaths (files : Files) (options : RenderOptions) : List Text :=
  (options.featurePaths ++ options.embedded).filter fun path => !files.isPresent path

def missingScript [Pattern.Compiler] (setup : Setup) (missing : List Text) (last : Text) :
    Script where
  writes := missing.dropLast.flatMap fun path => setup.diagnosis (.missing path)
  ending := .error (.missing last)

/-! Titles are written up to the first that cannot be made. -/

def titleScript : List (Except Robot.Mismatch Text) → Script
  | [] => { writes := [], ending := .ok .success }
  | .error mismatch :: _ => .failing (.shortName mismatch)
  | .ok title :: rest =>
    let others := titleScript rest
    { others with writes := .outLine title :: others.writes }

def dumpScript (features : List Suite.Feature) : Script where
  writes := features.map fun feature => .outLine feature.record
  ending := .ok .success

def suiteScript (pattern : Pattern) (options : RenderOptions)
    (features : List Suite.Feature) : Script :=
  match Robot.render pattern options.variant options.resources features with
  | .error fault => .failing (.template fault)
  | .ok text => { writes := [⟨.out, text⟩], ending := .ok .success }

def outputScript (pattern : Pattern) (options : RenderOptions)
    (features : List Suite.Feature) : Script :=
  if options.list then
    titleScript (Robot.titles pattern features)
  else if options.json then
    dumpScript features
  else
    suiteScript pattern options features

def loadedScript [Gherkin.Parser] (files : Files) (options : RenderOptions)
    (filter : Tag.Filter) (pattern : Pattern) : Script :=
  match loadFeatures files options.markers filter options.featurePaths options.embedded with
  | .error error => .failing error
  | .ok features => outputScript pattern options features

/-- The script of the render command. -/
def renderScript [Gherkin.Parser] [Pattern.Compiler] (setup : Setup) (files : Files)
    (options : RenderOptions) : Script :=
  match filterOf options.tags, patternOf options.shortNamePattern with
  | .error error, _ => .failing error
  | _, .error error => .failing error
  | .ok filter, .ok pattern =>
    match (missingPaths files options).getLast? with
    | some last => missingScript setup (missingPaths files options) last
    | none => loadedScript files options filter pattern

end Scenarist.App
