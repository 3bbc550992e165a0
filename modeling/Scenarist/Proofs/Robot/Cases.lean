import Scenarist.Proofs.Robot.Naming

/-! # Test cases

A test case is a list of lines. Writing test cases fails for want of a short
name and for no other reason, whether the cases are made of scenarios or of
features. -/

namespace Scenarist.Robot

open Attempts Suite Text

/-! ## The lines of a test case -/

def fieldsLine (fields : List Text) : Text :=
  fields.flatMap fun field => space ++ field

def documentationLines (description : Text) : List Text :=
  if description.isEmpty then [] else [fieldsLine ["[Documentation]", flatten description]]

def tagsLine (tags : List Text) (uri : Text) : Text :=
  fieldsLine (("[Tags]" : Text) :: tags.map Tag.bare ++ [uri])

def stepTexts (scenario : Scenario) : List Text :=
  (scenario.background ++ scenario.steps).map fun step =>
    space ++ step.keyword ++ [' '] ++ step.text

/-- The test case for a scenario, under a title. -/
def scenarioLines (title short : Text) (feature : Feature) (scenario : Scenario) : List Text :=
  sanitizeTitle title :: documentationLines feature.description ++
    tagsLine scenario.tags feature.uri :: fieldsLine ["Feature", short, feature.name] ::
      stepTexts scenario

/-- The test case for a feature. -/
def featureLines (short : Text) (feature : Feature) : List Text :=
  sanitizeTitle feature.name :: documentationLines feature.description ++
    tagsLine feature.tags feature.uri :: feature.scenarios.flatMap fun scenario =>
      fieldsLine ["Scenario", short, scenario.name] :: stepTexts scenario

theorem entry_eq (fields : List Text) : entry fields = unlines [fieldsLine fields] := by
  rw [unlines_cons, entry]
  rfl

theorem documentation_eq (description : Text) :
    documentation description = unlines (documentationLines description) := by
  rw [documentation, documentationLines]
  split
  · rfl
  · exact entry_eq _

theorem stepLines_eq (scenario : Scenario) : stepLines scenario = unlines (stepTexts scenario) := by
  rw [stepLines, stepTexts, unlines, List.flatMap_map]
  rfl

section

variable (pattern : Pattern)

theorem scenarioPart_eq (uri : Text) (scenario : Scenario) :
    scenarioPart pattern uri scenario =
      unlessFailed (unlines (fieldsLine ["Scenario", shortOf pattern uri, scenario.name] ::
          stepTexts scenario))
        ((nameless pattern uri).map (Fault.mk .shortName)) := by
  rw [scenarioPart, shortName_eq, Naming.run, mapError_unlessFailed]
  refine (map_unlessFailed fun short =>
    entry ["Scenario", short, scenario.name] ++ stepLines scenario).trans ?_
  rw [entry_eq, stepLines_eq, ← unlines_append]
  rfl

theorem featureCase_eq (feature : Feature) :
    featureCase pattern feature =
      unlessFailed (unlines (featureLines (shortOf pattern feature.uri) feature))
        ((feature.scenarios.flatMap fun _ => nameless pattern feature.uri).map
          (Fault.mk .shortName)) := by
  rw [featureCase, mapM_of_unlessFailed (scenarioPart_eq pattern feature.uri), List.map_flatMap]
  refine (map_unlessFailed fun parts : List Text => sanitizeTitle feature.name ++ ['\n'] ++
    documentation feature.description ++ tagLine feature.tags feature.uri ++
      parts.flatten).trans ?_
  have parts : (feature.scenarios.map fun scenario =>
      unlines (fieldsLine ["Scenario", shortOf pattern feature.uri, scenario.name] ::
        stepTexts scenario)).flatten =
      unlines (feature.scenarios.flatMap fun scenario =>
        fieldsLine ["Scenario", shortOf pattern feature.uri, scenario.name] ::
          stepTexts scenario) := by
    rw [unlines, List.flatMap_assoc, ← List.flatMap_def]
    rfl
  rw [parts, documentation_eq, tagLine, entry_eq, featureLines]
  simp [tagsLine]

theorem scenarioCase_eq (feature : Feature) (scenario : Scenario) :
    scenarioCase pattern feature scenario =
      unlessFailed (unlines (scenarioLines (titleText pattern feature.uri scenario.name)
          (shortOf pattern feature.uri) feature scenario))
        ((nameless pattern feature.uri).map (Fault.mk .scenarioTitle)) := by
  rw [scenarioCase, scenarioTitle_eq, shortName_eq]
  cases nameless pattern feature.uri with
  | cons mismatch others => rfl
  | nil =>
      refine congrArg Except.ok ?_
      rw [documentation_eq, tagLine, entry_eq, entry_eq, stepLines_eq, scenarioLines]
      simp [tagsLine]

theorem scenarioCases_eq (feature : Feature) :
    scenarioCases pattern feature =
      unlessFailed (joinCases (feature.scenarios.map fun scenario =>
          unlines (scenarioLines (titleText pattern feature.uri scenario.name)
            (shortOf pattern feature.uri) feature scenario)))
        ((feature.scenarios.flatMap fun _ => nameless pattern feature.uri).map
          (Fault.mk .scenarioTitle)) := by
  rw [scenarioCases, mapM_of_unlessFailed (scenarioCase_eq pattern feature), List.map_flatMap]
  exact map_unlessFailed joinCases

/-! ## The suite -/

/-- The name that a variant asks for first. -/
def Variant.naming : Variant → Naming
  | .perFeature => .shortName
  | .perScenario => .scenarioTitle

/-- What a feature adds to the suite. -/
def caseText (feature : Feature) : Variant → Text
  | .perFeature => unlines (featureLines (shortOf pattern feature.uri) feature)
  | .perScenario => joinCases (feature.scenarios.map fun scenario =>
      unlines (scenarioLines (titleText pattern feature.uri scenario.name)
        (shortOf pattern feature.uri) feature scenario))

theorem testCases_eq (features : List Feature) (variant : Variant) :
    testCases pattern features variant =
      unlessFailed (joinCases (features.map (caseText pattern · variant)))
        ((mismatches pattern features).map (Fault.mk variant.naming)) := by
  rw [mismatches_eq, List.map_flatMap]
  cases variant with
  | perFeature =>
      rw [testCases, mapM_of_unlessFailed (featureCase_eq pattern)]
      exact map_unlessFailed joinCases
  | perScenario =>
      rw [testCases, mapM_of_unlessFailed (scenarioCases_eq pattern)]
      exact map_unlessFailed joinCases

def headerLines (resources : List Text) : List Text :=
  if resources.isEmpty then
    []
  else
    ("*** Settings ***" : Text) :: resources.map (("Resource    " : Text) ++ ·) ++ [[]]

def casesHeading : Text := "*** Test Cases ***"

theorem settings_eq (resources : List Text) :
    settings resources = unlines (headerLines resources) := by
  rw [settings, headerLines]
  split
  · rfl
  · rw [List.cons_append, unlines_cons, unlines_append, unlines, List.flatMap_map]
    rfl

theorem render_eq (variant : Variant) (resources : List Text) (features : List Feature) :
    render pattern variant resources features =
      unlessFailed (unlines (headerLines resources ++ [casesHeading]) ++
          joinCases (features.map (caseText pattern · variant)))
        ((mismatches pattern features).map (Fault.mk variant.naming)) := by
  rw [render, testCases_eq, settings_eq, unlines_append]
  exact map_unlessFailed fun cases => unlines (headerLines resources) ++
    ("*** Test Cases ***\n" : Text) ++ cases

/-- The test cases of a suite. -/
def caseBlocks (features : List Feature) : Variant → List (List Text)
  | .perFeature => features.map fun feature => featureLines (shortOf pattern feature.uri) feature
  | .perScenario => (scenariosOf features).map fun entry =>
      scenarioLines (titleText pattern entry.1.uri entry.2.name) (shortOf pattern entry.1.uri)
        entry.1 entry.2

/-- The empty lines between features and those between scenarios come in one sequence. -/
theorem joinCases_eq {features : List Feature}
    (inhabited : ∀ feature ∈ features, feature.scenarios ≠ []) (variant : Variant) :
    joinCases (features.map (caseText pattern · variant)) =
      unlines (parted (caseBlocks pattern features variant)) := by
  rw [← join_map_unlines, joinCases]
  cases variant with
  | perFeature =>
      rw [caseBlocks, List.map_map]
      rfl
  | perScenario =>
      have groups := @join_map_join ['\n'] (features.map fun feature =>
        feature.scenarios.map fun scenario =>
          unlines (scenarioLines (titleText pattern feature.uri scenario.name)
            (shortOf pattern feature.uri) feature scenario))
      rw [List.forall_mem_map, List.map_map] at groups
      refine (groups fun feature member => by simpa using inhabited feature member).trans ?_
      rw [caseBlocks, scenariosOf, List.map_map, List.map_flatMap, ← List.flatMap_def]
      simp only [List.map_map, Function.comp_def]

theorem render_of_named {features : List Feature}
    (inhabited : ∀ feature ∈ features, feature.scenarios ≠ [])
    (named : mismatches pattern features = []) (variant : Variant) (resources : List Text) :
    render pattern variant resources features =
      .ok (unlines (headerLines resources ++
        casesHeading :: parted (caseBlocks pattern features variant))) := by
  rw [render_eq, named, List.map_nil, unlessFailed_nil, joinCases_eq pattern inhabited,
    ← unlines_append, List.append_assoc, List.singleton_append]

end

end Scenarist.Robot
