import Scenarist.Proofs.Tag.Meaning
import Scenarist.Suite.Build

/-! # Building a suite is a selection

A filter only chooses among the scenarios that a document has without it. Each
scenario is judged by the names of its own tags, of those of the rule around it
and of those of the feature, and is kept as it is or left out. -/

namespace Scenarist.Suite

/-! ## What counts for a scenario -/

/-- The names that count for a scenario in its place. -/
def countingNames (feature : Gherkin.Feature) (placed : Gherkin.Placed) : Finset Text :=
  Tag.named placed.2.tags ∪ Tag.named (ruleTags placed.1) ∪ Tag.named feature.tags

theorem named_mergedTags (feature : Gherkin.Feature) (placed : Gherkin.Placed) :
    Tag.named (mergedTags feature placed) = countingNames feature placed := by
  rw [mergedTags, Tag.named_append, Tag.named_append, countingNames]

theorem bare_markedTag (tag : Text) : Tag.bare (markedTag tag) = Tag.bare tag := by
  cases tag with
  | nil => rfl
  | cons head rest =>
      by_cases marked : head = '@'
      · simp [markedTag, marked]
      · simp [markedTag, Tag.bare, Text.strip, marked]

/-- Giving tags their at signs does not change their names. -/
theorem named_markedTags (tags : List Text) : Tag.named (markedTags tags) = Tag.named tags := by
  have same : (markedTags tags).map Tag.bare = tags.map Tag.bare := by
    rw [markedTags, List.map_map]
    apply List.map_congr_left
    intro tag _
    exact bare_markedTag tag
  rw [Tag.named, same, Tag.named]

/-! ## The scenarios with their places -/

/-- The scenarios of a feature, each beside its place in the document. -/
def placedScenarios (feature : Gherkin.Feature) : List (Gherkin.Placed × Scenario) :=
  feature.ordered.zip (Feature.ofDocument feature).scenarios

/-- The scenarios of a feature that a filter selects, in their order. -/
def selectedScenarios (filter : Tag.Filter) (feature : Gherkin.Feature) : List Scenario :=
  ((placedScenarios feature).filter fun scenario =>
    filter.Selects (countingNames feature scenario.1)).map Prod.snd

/-- The feature with the selected scenarios only, if there are any. -/
def selected (filter : Tag.Filter) (feature : Gherkin.Feature) : Option Feature :=
  if selectedScenarios filter feature = [] then
    none
  else
    some { Feature.ofDocument feature with scenarios := selectedScenarios filter feature }

theorem placedScenarios_eq_map (feature : Gherkin.Feature) :
    placedScenarios feature = feature.ordered.map fun placed =>
      (placed, Scenario.ofDocument (backgroundSteps feature.background) placed) := by
  rw [placedScenarios, Feature.ofDocument, Feature.ofPlaced, List.zip_map_right,
    List.zip_eq_zipWith, List.zipWith_self, List.map_map]
  rfl

theorem map_snd_placedScenarios (feature : Gherkin.Feature) :
    (placedScenarios feature).map Prod.snd = (Feature.ofDocument feature).scenarios := by
  rw [placedScenarios_eq_map, List.map_map]
  rfl

/-- A scenario stands beside the rule that encloses it, or beside none. -/
theorem map_fst_placedScenarios (feature : Gherkin.Feature) :
    ((placedScenarios feature).map Prod.fst).Perm feature.placed := by
  have ordered : (placedScenarios feature).map Prod.fst = feature.ordered := by
    rw [placedScenarios_eq_map, List.map_map]
    exact List.map_id _
  rw [ordered]
  exact List.mergeSort_perm _ _

theorem selectedScenarios_sublist (filter : Tag.Filter) (feature : Gherkin.Feature) :
    (selectedScenarios filter feature).Sublist (Feature.ofDocument feature).scenarios := by
  rw [← map_snd_placedScenarios]
  exact List.filter_sublist.map Prod.snd

theorem selectedScenarios_eq_map (filter : Tag.Filter) (feature : Gherkin.Feature) :
    selectedScenarios filter feature =
      (feature.ordered.filter fun placed => filter.keeps (mergedTags feature placed)).map
        (Scenario.ofDocument (backgroundSteps feature.background)) := by
  rw [selectedScenarios, placedScenarios_eq_map, List.filter_map, List.map_map]
  simp only [Function.comp_def, Tag.Filter.keeps_eq_decide, named_mergedTags]

theorem filtered_eq_selected (filter : Tag.Filter) (feature : Gherkin.Feature) :
    Feature.filtered filter feature = selected filter feature := by
  simp only [Feature.filtered, selected, selectedScenarios_eq_map, List.map_eq_nil_iff,
    List.isEmpty_iff]
  rfl

/-! ## Two filters that say the opposite, and one that says nothing -/

theorem selectedScenarios_append_negation (first second : Text) (expr : Tag.Expr)
    (feature : Gherkin.Feature) :
    (selectedScenarios ⟨first, some expr⟩ feature ++
      selectedScenarios ⟨second, some (.negation expr)⟩ feature).Perm
        (Feature.ofDocument feature).scenarios := by
  have parted := List.filter_append_perm
    (fun scenario : Gherkin.Placed × Scenario =>
      decide (Tag.Filter.Selects ⟨first, some expr⟩ (countingNames feature scenario.1)))
    (placedScenarios feature)
  simp only [← decide_not, ← Tag.Filter.selects_negation_iff first second] at parted
  have scenarios := parted.map Prod.snd
  rwa [List.map_append, map_snd_placedScenarios] at scenarios

theorem selectedScenarios_of_empty (text : Text) (feature : Gherkin.Feature) :
    selectedScenarios ⟨text, none⟩ feature = (Feature.ofDocument feature).scenarios := by
  simp [selectedScenarios, Tag.Filter.Selects, map_snd_placedScenarios]

theorem filterMap_selected_of_empty (text : Text) (features : List Gherkin.Feature) :
    features.filterMap (selected ⟨text, none⟩) =
      (features.map Feature.ofDocument).filter fun feature => feature.scenarios ≠ [] := by
  induction features with
  | nil => rfl
  | cons feature features induction =>
      by_cases empty : (Feature.ofDocument feature).scenarios = []
      · simp [selected, selectedScenarios_of_empty, empty, induction]
      · simp [selected, selectedScenarios_of_empty, empty, induction]

/-- Building keeps the features in their order, each with all it has without the filter but
for the scenarios, of which the selected ones stay as they are. The filter judges by the names
that count for a scenario, whether or not the tags are given their at signs. An expression and
its negation divide the scenarios between them, and the filter read from an empty text drops
only the features without scenarios. -/
theorem build_eq_selection (filter : Tag.Filter) (features : List Gherkin.Feature) :
    build filter features = features.filterMap (selected filter) ∧
    (∀ feature,
      (placedScenarios feature).map Prod.snd = (Feature.ofDocument feature).scenarios ∧
      ((placedScenarios feature).map Prod.fst).Perm feature.placed ∧
      placedScenarios feature = feature.ordered.map fun placed =>
        (placed, Scenario.ofDocument (backgroundSteps feature.background) placed)) ∧
    (∀ tags, filter.keeps tags = decide (filter.Selects (Tag.named tags)) ∧
      Tag.named (markedTags tags) = Tag.named tags) ∧
    (∀ first second expr feature,
      (selectedScenarios ⟨first, some expr⟩ feature).Sublist
        (Feature.ofDocument feature).scenarios ∧
      (selectedScenarios ⟨second, some (.negation expr)⟩ feature).Sublist
        (Feature.ofDocument feature).scenarios ∧
      (selectedScenarios ⟨first, some expr⟩ feature ++
        selectedScenarios ⟨second, some (.negation expr)⟩ feature).Perm
          (Feature.ofDocument feature).scenarios) ∧
    Tag.Filter.ofText [] = .ok Tag.Filter.all ∧
    build Tag.Filter.all features =
      (features.map Feature.ofDocument).filter fun feature => feature.scenarios ≠ [] := by
  have builds : ∀ filter, build filter features = features.filterMap (selected filter) := by
    intro filter
    rw [build, funext (filtered_eq_selected filter)]
  refine ⟨builds filter, ?_, ?_, ?_, rfl, ?_⟩
  · intro feature
    exact ⟨map_snd_placedScenarios feature, map_fst_placedScenarios feature,
      placedScenarios_eq_map feature⟩
  · intro tags
    exact ⟨filter.keeps_eq_decide tags, named_markedTags tags⟩
  · intro first second expr feature
    exact ⟨selectedScenarios_sublist _ feature, selectedScenarios_sublist _ feature,
      selectedScenarios_append_negation first second expr feature⟩
  · rw [builds, Tag.Filter.all, filterMap_selected_of_empty]

end Scenarist.Suite
