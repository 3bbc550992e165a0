import Scenarist.Comment.Block
import Scenarist.Robot.Render
import Scenarist.Tag.Filter

/-! # Options

What a command line asks for. -/

namespace Scenarist.CommandLine

structure ExtractOptions where
  asFeatures : Bool := false
  files : List Text := []
  markers : Comment.Markers := {}
deriving DecidableEq, Repr

structure RenderOptions where
  features : List Text := []
  embedded : List Text := []
  tags : Text := Tag.Filter.default
  list : Bool := false
  json : Bool := false
  perScenario : Bool := false
  resources : List Text := []
  shortNamePattern : Text := Robot.defaultPatternText
  markers : Comment.Markers := {}
deriving DecidableEq, Repr

inductive Command where
  | extract (options : ExtractOptions)
  | render (options : RenderOptions)
deriving DecidableEq, Repr

namespace RenderOptions

def defaultFeatures : Text := "./features"

/-! The default directory counts only where nothing else is named. -/

def featurePaths (options : RenderOptions) : List Text :=
  if options.features.isEmpty && options.embedded.isEmpty then
    [defaultFeatures]
  else
    options.features

def variant (options : RenderOptions) : Robot.Variant :=
  if options.perScenario then .perScenario else .perFeature

end RenderOptions

end Scenarist.CommandLine
