import Scenarist.Json
import Scenarist.Suite.Basic

/-! # Dumping a suite

A feature as a single record. A step without a docstring or a table has no
field for it. -/

namespace Scenarist.Suite

def rowsJson (rows : List (List Text)) : Json :=
  .array (rows.map Json.strings)

/-! A field that is left out when there is nothing to say. -/

def optionalField (name : Text) (value : Option Json) : List (Text × Json) :=
  match value with
  | none => []
  | some value => [(name, value)]

def Step.alwaysFields (step : Step) : List (Text × Json) :=
  [("keyword", .string step.keyword), ("text", .string step.text),
    ("line", .number step.line)]

def Step.json (step : Step) : Json :=
  .object
    (step.alwaysFields ++
      optionalField "docstring" (step.docstring.map .string) ++
      optionalField "table" (step.table.map rowsJson))

def Examples.json (examples : Examples) : Json :=
  .object [("tags", Json.strings examples.tags), ("rows", rowsJson examples.rows)]

def Scenario.json (scenario : Scenario) : Json :=
  .object
    [("keyword", .string scenario.keyword), ("name", .string scenario.name),
      ("description", .string scenario.description), ("tags", Json.strings scenario.tags),
      ("line", .number scenario.line),
      ("background", .array (scenario.background.map Step.json)),
      ("steps", .array (scenario.steps.map Step.json)),
      ("examples", .array (scenario.examples.map Examples.json))]

def Feature.json (feature : Feature) : Json :=
  .object
    [("uri", .string feature.uri), ("keyword", .string feature.keyword),
      ("name", .string feature.name), ("description", .string feature.description),
      ("tags", Json.strings feature.tags),
      ("scenarios", .array (feature.scenarios.map Scenario.json))]

/-- The text of the record, on one line. -/
def Feature.record (feature : Feature) : Text :=
  feature.json.render

end Scenarist.Suite
