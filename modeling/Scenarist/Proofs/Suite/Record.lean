import Scenarist.Proofs.Json.Reading
import Scenarist.Suite.Dump

/-! # Records

A record is read back by the names of its fields. A step that has no docstring
has no such field, and one with an empty docstring has it, and so with its
table, so each record stands for one feature only. -/

namespace Scenarist

/-! ## Fields -/

namespace Json.Value

variable {α : Type}

def text? : Value → Option Text
  | .string text => some text
  | _ => none

def natural? : Value → Option Nat
  | .number value => if value.den = 1 ∧ 0 ≤ value.num then some value.num.toNat else none
  | _ => none

def list? (read : Value → Option α) : Value → Option (List α)
  | .array items => items.mapM read
  | _ => none

def texts? : Value → Option (List Text) :=
  list? text?

def find? (name : Text) : Value → Option Value
  | .object fields => fields.lookup name
  | _ => none

/-- A field that must be there. -/
def field? (name : Text) (read : Value → Option α) (value : Value) : Option α :=
  value.find? name >>= read

/-- A field that may be absent, which is not the same as empty. -/
def optional? (name : Text) (read : Value → Option α) (value : Value) : Option (Option α) :=
  match value.find? name with
  | none => some none
  | some value => (read value).map some

end Json.Value

/-! ## Reading a record -/

namespace Suite

open Json (Value)

def Step.ofValue (value : Value) : Option Step := do
  return {
    keyword := ← value.field? "keyword" Value.text?
    text := ← value.field? "text" Value.text?
    line := ← value.field? "line" Value.natural?
    docstring := ← value.optional? "docstring" Value.text?
    table := ← value.optional? "table" (Value.list? Value.texts?) }

def Examples.ofValue (value : Value) : Option Examples := do
  return {
    tags := ← value.field? "tags" Value.texts?
    rows := ← value.field? "rows" (Value.list? Value.texts?) }

def Scenario.ofValue (value : Value) : Option Scenario := do
  return {
    keyword := ← value.field? "keyword" Value.text?
    name := ← value.field? "name" Value.text?
    description := ← value.field? "description" Value.text?
    tags := ← value.field? "tags" Value.texts?
    line := ← value.field? "line" Value.natural?
    background := ← value.field? "background" (Value.list? Step.ofValue)
    steps := ← value.field? "steps" (Value.list? Step.ofValue)
    examples := ← value.field? "examples" (Value.list? Examples.ofValue) }

def Feature.ofValue (value : Value) : Option Feature := do
  return {
    uri := ← value.field? "uri" Value.text?
    keyword := ← value.field? "keyword" Value.text?
    name := ← value.field? "name" Value.text?
    description := ← value.field? "description" Value.text?
    tags := ← value.field? "tags" Value.texts?
    scenarios := ← value.field? "scenarios" (Value.list? Scenario.ofValue) }

/-- The feature whose record a text is. -/
def Feature.ofRecord (record : Text) : Option Feature :=
  Json.decode record >>= Feature.ofValue

end Suite

/-! ## What is written is read -/

namespace Json

variable {α : Type}

theorem natural?_number (number : Nat) :
    Value.natural? (.number (number : Rat)) = some number := by
  simp [Value.natural?]

theorem itemValues_eq_map (items : List Json) : itemValues items = items.map value := by
  induction items with
  | nil => rfl
  | cons item items induction => rw [itemValues, induction, List.map_cons]

/-- A list is read back if each of its items is. -/
theorem list?_map {read : Value → Option α} {json : α → Json} (items : List α)
    (each : ∀ item, read (json item).value = some item) :
    Value.list? read (Json.array (items.map json)).value = some items := by
  rw [value, itemValues_eq_map, List.map_map, Value.list?]
  induction items with
  | nil => rfl
  | cons item items induction =>
      rw [List.map_cons, List.mapM_cons, Function.comp_apply, each, induction]
      rfl

theorem texts?_strings (texts : List Text) : Value.texts? (strings texts).value = some texts :=
  list?_map texts fun _ => rfl

theorem rows?_rowsJson (rows : List (List Text)) :
    Value.list? Value.texts? (Suite.rowsJson rows).value = some rows :=
  list?_map rows texts?_strings

end Json

namespace Suite

open Json (Value)

theorem Step.docstring_json (step : Step) :
    step.json.value.optional? "docstring" Value.text? = some step.docstring := by
  rcases step with ⟨keyword, text, line, docstring, table⟩
  cases docstring with
  | none => cases table <;> rfl
  | some docstring => rfl

theorem Step.table_json (step : Step) :
    step.json.value.optional? "table" (Value.list? Value.texts?) = some step.table := by
  have present : ∀ rows,
      (Value.list? Value.texts? (rowsJson rows).value).map some = some (some rows) := by
    intro rows
    rw [Json.rows?_rowsJson]
    rfl
  rcases step with ⟨keyword, text, line, docstring, table⟩
  cases table with
  | none => cases docstring <;> rfl
  | some rows => cases docstring <;> exact present rows

theorem Step.ofValue_json (step : Step) : Step.ofValue step.json.value = some step := by
  have keyword : step.json.value.field? "keyword" Value.text? = some step.keyword := rfl
  have text : step.json.value.field? "text" Value.text? = some step.text := rfl
  have line : step.json.value.field? "line" Value.natural? = some step.line :=
    Json.natural?_number step.line
  rw [Step.ofValue, keyword, text, line, step.docstring_json, step.table_json]
  rfl

theorem Examples.ofValue_json (examples : Examples) :
    Examples.ofValue examples.json.value = some examples := by
  have tags : examples.json.value.field? "tags" Value.texts? = some examples.tags :=
    Json.texts?_strings examples.tags
  have rows : examples.json.value.field? "rows" (Value.list? Value.texts?) = some examples.rows :=
    Json.rows?_rowsJson examples.rows
  rw [Examples.ofValue, tags, rows]
  rfl

theorem Scenario.ofValue_json (scenario : Scenario) :
    Scenario.ofValue scenario.json.value = some scenario := by
  have keyword : scenario.json.value.field? "keyword" Value.text? = some scenario.keyword := rfl
  have name : scenario.json.value.field? "name" Value.text? = some scenario.name := rfl
  have description : scenario.json.value.field? "description" Value.text? =
      some scenario.description := rfl
  have tags : scenario.json.value.field? "tags" Value.texts? = some scenario.tags :=
    Json.texts?_strings scenario.tags
  have line : scenario.json.value.field? "line" Value.natural? = some scenario.line :=
    Json.natural?_number scenario.line
  have background : scenario.json.value.field? "background" (Value.list? Step.ofValue) =
      some scenario.background := Json.list?_map scenario.background Step.ofValue_json
  have steps : scenario.json.value.field? "steps" (Value.list? Step.ofValue) =
      some scenario.steps := Json.list?_map scenario.steps Step.ofValue_json
  have examples : scenario.json.value.field? "examples" (Value.list? Examples.ofValue) =
      some scenario.examples := Json.list?_map scenario.examples Examples.ofValue_json
  rw [Scenario.ofValue, keyword, name, description, tags, line, background, steps, examples]
  rfl

theorem Feature.ofValue_json (feature : Feature) :
    Feature.ofValue feature.json.value = some feature := by
  have uri : feature.json.value.field? "uri" Value.text? = some feature.uri := rfl
  have keyword : feature.json.value.field? "keyword" Value.text? = some feature.keyword := rfl
  have name : feature.json.value.field? "name" Value.text? = some feature.name := rfl
  have description : feature.json.value.field? "description" Value.text? =
      some feature.description := rfl
  have tags : feature.json.value.field? "tags" Value.texts? = some feature.tags :=
    Json.texts?_strings feature.tags
  have scenarios : feature.json.value.field? "scenarios" (Value.list? Scenario.ofValue) =
      some feature.scenarios := Json.list?_map feature.scenarios Scenario.ofValue_json
  rw [Feature.ofValue, uri, keyword, name, description, tags, scenarios]
  rfl

theorem Feature.ofRecord_record (feature : Feature) :
    Feature.ofRecord feature.record = some feature := by
  rw [Feature.ofRecord, Feature.record, Json.decode_render]
  exact feature.ofValue_json

theorem Feature.record_injective : Function.Injective Feature.record := by
  intro first second same
  have decoded := congrArg Feature.ofRecord same
  rw [first.ofRecord_record, second.ofRecord_record] at decoded
  exact Option.some.inj decoded

end Suite
end Scenarist
