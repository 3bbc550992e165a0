import Scenarist.Gherkin.Document

/-! # The scenarios of a document

All scenarios of a document with the rule that encloses each of them, in the
order of their lines. Scenarios of one line keep the order of the document: its
own scenarios before those of its rules. -/

namespace Scenarist.Gherkin

abbrev Placed := Option Rule × Scenario

def Rule.placed (rule : Rule) : List Placed :=
  rule.scenarios.map fun scenario => (some rule, scenario)

def Feature.placed (feature : Feature) : List Placed :=
  feature.scenarios.map (fun scenario => (none, scenario)) ++
    feature.rules.flatMap Rule.placed

def Placed.noLaterThan (left right : Placed) : Bool :=
  left.2.line ≤ right.2.line

/-- The scenarios of a document in the order of their lines. -/
def Feature.ordered (feature : Feature) : List Placed :=
  feature.placed.mergeSort Placed.noLaterThan

/-- The path of a document, or its name if it has none. -/
def Feature.uri (feature : Feature) : Text :=
  feature.path.getD feature.name

end Scenarist.Gherkin
