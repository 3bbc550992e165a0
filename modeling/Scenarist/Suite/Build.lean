import Scenarist.Gherkin.Order
import Scenarist.Suite.Basic
import Scenarist.Tag.Filter
import Scenarist.Text.Space

/-! # Building a suite

Documents become features of the suite. A filter decides over the tags of a
scenario, of the rule that encloses it and of the feature, taken together. A
feature without any scenario left is dropped. -/

namespace Scenarist.Suite

def markedTag (tag : Text) : Text :=
  if tag.head? = some '@' then tag else '@' :: tag

def markedTags (tags : List Text) : List Text :=
  tags.map markedTag

def trimmedDescription (description : Option Text) : Text :=
  Text.trim (description.getD [])

def Step.ofDocument (step : Gherkin.Step) : Step where
  keyword := Text.trim step.keyword
  text := step.text
  line := step.line
  docstring := step.docstring
  table := step.table

def Examples.ofDocument (examples : Gherkin.Examples) : Examples where
  tags := markedTags examples.tags
  rows := examples.table.getD []

/-! The steps of a background that may be absent. -/

def backgroundSteps : Option Gherkin.Background → List Step
  | none => []
  | some background => background.steps.map Step.ofDocument

def ruleSteps : Option Gherkin.Rule → List Step
  | none => []
  | some rule => backgroundSteps rule.background

def Scenario.ofDocument (background : List Step) (placed : Gherkin.Placed) : Scenario :=
  let (rule, scenario) := placed
  { keyword := scenario.keyword
    name := scenario.name
    description := trimmedDescription scenario.description
    tags := markedTags scenario.tags
    line := scenario.line
    background := background ++ ruleSteps rule
    steps := scenario.steps.map Step.ofDocument
    examples := scenario.examples.map Examples.ofDocument }

def Feature.ofPlaced (feature : Gherkin.Feature) (placed : List Gherkin.Placed) : Feature where
  uri := feature.uri
  keyword := feature.keyword
  name := feature.name
  description := trimmedDescription feature.description
  tags := markedTags feature.tags
  scenarios := placed.map (Scenario.ofDocument (backgroundSteps feature.background))

/-- A feature with all scenarios of its document. -/
def Feature.ofDocument (feature : Gherkin.Feature) : Feature :=
  Feature.ofPlaced feature feature.ordered

/-! The tags that count for a scenario. -/

def ruleTags : Option Gherkin.Rule → List Text
  | none => []
  | some rule => rule.tags

def mergedTags (feature : Gherkin.Feature) (placed : Gherkin.Placed) : List Text :=
  placed.2.tags ++ ruleTags placed.1 ++ feature.tags

/-- A feature with the scenarios that a filter keeps, if there are any. -/
def Feature.filtered (filter : Tag.Filter) (feature : Gherkin.Feature) : Option Feature :=
  let kept := feature.ordered.filter fun placed => filter.keeps (mergedTags feature placed)
  if kept.isEmpty then none else some (Feature.ofPlaced feature kept)

/-- Builds the features that have scenarios left. -/
def build (filter : Tag.Filter) (features : List Gherkin.Feature) : List Feature :=
  features.filterMap (Feature.filtered filter)

end Scenarist.Suite
