import Scenarist.Robot.ShortName
import Scenarist.Suite.Basic
import Scenarist.Tag.Expr
import Scenarist.Text.Space

/-! # Rendering

Writes a suite as Robot Framework text, with one test case for each feature or
one for each scenario. -/

namespace Scenarist.Robot

open Suite

inductive Variant where
  | perFeature
  | perScenario
deriving DecidableEq, Repr

/-- The two names that a test case is given from the URI of its feature. -/
inductive Naming where
  | shortName
  | scenarioTitle
deriving DecidableEq, Repr

/-- The name that could not be made, and why. -/
structure Fault where
  naming : Naming
  mismatch : Mismatch
deriving DecidableEq, Repr

def Naming.run (naming : Naming) (result : Except Mismatch Text) : Except Fault Text :=
  result.mapError fun mismatch => ⟨naming, mismatch⟩

/-- Writes backticks for apostrophes, which would end a quotation in a title. -/
def sanitizeTitle (text : Text) : Text :=
  text.map fun character => if character = '\x27' then '`' else character

/-! Entries of a test case are indented and their fields kept apart by four
spaces. -/

def space : Text := "    "

def entry (fields : List Text) : Text :=
  fields.flatMap (fun field => space ++ field) ++ ['\n']

def documentation (description : Text) : Text :=
  if description.isEmpty then
    []
  else
    entry ["[Documentation]", Text.flatten description]

def tagLine (tags : List Text) (uri : Text) : Text :=
  entry (("[Tags]" : Text) :: tags.map Tag.bare ++ [uri])

def stepLine (step : Step) : Text :=
  space ++ step.keyword ++ [' '] ++ step.text ++ ['\n']

def stepLines (scenario : Scenario) : Text :=
  (scenario.background ++ scenario.steps).flatMap stepLine

/-! One test case for a feature, which goes through its scenarios. -/

def scenarioPart (pattern : Pattern) (uri : Text) (scenario : Scenario) : Except Fault Text := do
  let short ← Naming.shortName.run (shortName pattern uri)
  return entry ["Scenario", short, scenario.name] ++ stepLines scenario

def featureCase (pattern : Pattern) (feature : Feature) : Except Fault Text := do
  let parts ← feature.scenarios.mapM (scenarioPart pattern feature.uri)
  return sanitizeTitle feature.name ++ ['\n'] ++ documentation feature.description ++
    tagLine feature.tags feature.uri ++ parts.flatten

/-- One test case for a scenario, which names its feature. -/
def scenarioCase (pattern : Pattern) (feature : Feature) (scenario : Scenario) :
    Except Fault Text := do
  let title ← Naming.scenarioTitle.run (scenarioTitle pattern feature.uri scenario.name)
  let short ← Naming.shortName.run (shortName pattern feature.uri)
  return sanitizeTitle title ++ ['\n'] ++ documentation feature.description ++
    tagLine scenario.tags feature.uri ++ entry ["Feature", short, feature.name] ++
    stepLines scenario

/-! Test cases are parted by an empty line. -/

def joinCases (cases : List Text) : Text :=
  Text.join ['\n'] cases

def scenarioCases (pattern : Pattern) (feature : Feature) : Except Fault Text :=
  (feature.scenarios.mapM (scenarioCase pattern feature)).map joinCases

def testCases (pattern : Pattern) (features : List Feature) : Variant → Except Fault Text
  | .perFeature => (features.mapM (featureCase pattern)).map joinCases
  | .perScenario => (features.mapM (scenarioCases pattern)).map joinCases

def settings (resources : List Text) : Text :=
  if resources.isEmpty then
    []
  else
    ("*** Settings ***\n" : Text) ++
      resources.flatMap (fun resource =>
        ("Resource    " : Text) ++ resource ++ ['\n']) ++ ['\n']

/-- The whole suite: its settings, if there are any, and its test cases. -/
def render (pattern : Pattern) (variant : Variant) (resources : List Text)
    (features : List Feature) : Except Fault Text := do
  let cases ← testCases pattern features variant
  return settings resources ++ ("*** Test Cases ***\n" : Text) ++ cases

/-- The titles of all scenarios, up to the first that cannot be made. -/
def titles (pattern : Pattern) (features : List Feature) : List (Except Mismatch Text) :=
  features.flatMap fun feature =>
    feature.scenarios.map fun scenario => scenarioTitle pattern feature.uri scenario.name

end Scenarist.Robot
