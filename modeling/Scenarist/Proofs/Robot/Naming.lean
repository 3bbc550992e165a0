import Scenarist.Proofs.Attempts
import Scenarist.Proofs.Robot.Titles

/-! # Naming

A short name is wanted for each scenario, and what is missing is the short name
of its feature. So naming fails at the first feature that has a scenario and no
short name. -/

namespace Scenarist.Robot

open Attempts Suite

/-! ## Short names that are missing -/

/-- What the first group captures, or nothing. -/
def shortOf (pattern : Pattern) (uri : Text) : Text :=
  (pattern.firstGroup uri).getD []

/-- The mismatch of a URI that has no short name. -/
def nameless (pattern : Pattern) (uri : Text) : List Mismatch :=
  if (pattern.firstGroup uri).isSome then [] else [⟨uri, pattern.text⟩]

/-- What is missing for each of the scenarios, in order. -/
def mismatches (pattern : Pattern) (features : List Feature) : List Mismatch :=
  (scenariosOf features).flatMap fun entry => nameless pattern entry.1.uri

theorem mismatches_eq (pattern : Pattern) (features : List Feature) :
    mismatches pattern features = features.flatMap fun feature =>
      feature.scenarios.flatMap fun _ => nameless pattern feature.uri := by
  simp only [mismatches, scenariosOf, List.flatMap_assoc, List.flatMap_map]

/-- A title, under whatever short name there is. -/
def titleText (pattern : Pattern) (uri name : Text) : Text :=
  shortOf pattern uri ++ ['.'] ++ underscoreSpaces name

theorem shortName_eq (pattern : Pattern) (uri : Text) :
    shortName pattern uri = unlessFailed (shortOf pattern uri) (nameless pattern uri) := by
  rw [shortName, shortOf, nameless]
  cases pattern.firstGroup uri <;> rfl

theorem scenarioTitle_eq (pattern : Pattern) (uri name : Text) :
    scenarioTitle pattern uri name =
      unlessFailed (titleText pattern uri name) (nameless pattern uri) := by
  rw [scenarioTitle, shortName_eq]
  exact map_unlessFailed fun short => short ++ ['.'] ++ underscoreSpaces name

section

variable (pattern : Pattern)

/-! ## The titles -/

/-- The titles of all scenarios. -/
def titleTexts (features : List Feature) : List Text :=
  (scenariosOf features).map fun entry => titleText pattern entry.1.uri entry.2.name

theorem titles_eq (features : List Feature) :
    titles pattern features = (scenariosOf features).map fun entry =>
      unlessFailed (titleText pattern entry.1.uri entry.2.name)
        (nameless pattern entry.1.uri) := by
  simp only [titles, scenarioTitle_eq, scenariosOf, List.map_flatMap, List.map_map,
    Function.comp_def]

theorem failures_titles (features : List Feature) :
    failures (titles pattern features) = mismatches pattern features := by
  rw [titles_eq, mismatches]
  induction scenariosOf features with
  | nil => rfl
  | cons entry entries induction =>
      have ofEntry (title : Text) : failures [unlessFailed title (nameless pattern entry.1.uri)] =
          nameless pattern entry.1.uri := by
        rw [nameless]
        split <;> rfl
      rw [List.map_cons, List.flatMap_cons, ← List.singleton_append, failures_append, ofEntry,
        induction]

theorem titles_eq_map_ok {features : List Feature} (named : mismatches pattern features = []) :
    titles pattern features = (titleTexts pattern features).map .ok := by
  rw [titles_eq, titleTexts, List.map_map]
  refine List.map_congr_left fun entry member => ?_
  rw [List.flatMap_eq_nil_iff.mp named entry member]
  rfl

/-! ## Features with short names -/

/-- The pattern matches the URI, and its first group takes part in the match. -/
def HasShortName (pattern : Pattern) (uri : Text) : Prop :=
  ∃ short, pattern.firstGroup uri = some short

theorem nameless_eq_nil_iff (uri : Text) :
    nameless pattern uri = [] ↔ HasShortName pattern uri := by
  have captured : (pattern.firstGroup uri).isSome = true ↔ HasShortName pattern uri :=
    Option.isSome_iff_exists
  rw [nameless, ← captured]
  split <;> simp_all

theorem nameless_of_not_hasShortName {pattern : Pattern} {uri : Text}
    (unnamed : ¬HasShortName pattern uri) : nameless pattern uri = [⟨uri, pattern.text⟩] := by
  rw [← nameless_eq_nil_iff, nameless] at unnamed
  rw [nameless]
  split
  · next named => exact absurd (if_pos named) unnamed
  · rfl

/-- A short name is wanted only where there are scenarios. -/
def IsNamed (pattern : Pattern) (feature : Feature) : Prop :=
  feature.scenarios ≠ [] → HasShortName pattern feature.uri

/-- The features before the first one that is not named. -/
structure NamedUpTo (pattern : Pattern) (features before : List Feature) (bad : Feature) :
    Prop where
  whole : ∃ after, features = before ++ bad :: after
  named : ∀ feature ∈ before, IsNamed pattern feature
  unnamed : ¬IsNamed pattern bad

theorem flatMap_nameless_eq_nil_iff (feature : Feature) :
    (feature.scenarios.flatMap fun _ => nameless pattern feature.uri) = [] ↔
      IsNamed pattern feature := by
  rw [IsNamed, ← nameless_eq_nil_iff, List.flatMap_eq_nil_iff]
  cases feature.scenarios with
  | nil => simp
  | cons scenario others => simp +contextual

theorem mismatches_eq_nil_iff (features : List Feature) :
    mismatches pattern features = [] ↔ ∀ feature ∈ features, IsNamed pattern feature := by
  rw [mismatches_eq, List.flatMap_eq_nil_iff]
  exact forall₂_congr fun feature _ => flatMap_nameless_eq_nil_iff pattern feature

theorem exists_namedUpTo {features : List Feature}
    (unnamed : ¬∀ feature ∈ features, IsNamed pattern feature) :
    ∃ before bad, NamedUpTo pattern features before bad := by
  induction features with
  | nil => simp at unnamed
  | cons feature features induction =>
      by_cases isNamed : IsNamed pattern feature
      · have others : ¬∀ other ∈ features, IsNamed pattern other :=
          fun named => unnamed (List.forall_mem_cons.mpr ⟨isNamed, named⟩)
        rcases induction others with ⟨before, bad, ⟨after, rfl⟩, named, badUnnamed⟩
        exact ⟨feature :: before, bad, ⟨after, rfl⟩, List.forall_mem_cons.mpr ⟨isNamed, named⟩,
          badUnnamed⟩
      · exact ⟨[], feature, ⟨features, rfl⟩, by simp, isNamed⟩

variable {pattern}

/-- The first title that cannot be made is wanted of the first feature that is not named. -/
theorem NamedUpTo.titles_eq {features before : List Feature} {bad : Feature}
    (upTo : NamedUpTo pattern features before bad) :
    ∃ rest, titles pattern features =
      (titleTexts pattern before).map .ok ++ .error ⟨bad.uri, pattern.text⟩ :: rest := by
  rcases upTo.whole with ⟨after, rfl⟩
  have made := titles_eq_map_ok pattern ((mismatches_eq_nil_iff pattern before).mpr upTo.named)
  have badTitles : ∃ rest, titles pattern (bad :: after) =
      .error ⟨bad.uri, pattern.text⟩ :: rest := by
    rcases Classical.not_imp.mp upTo.unnamed with ⟨inhabited, unnamed⟩
    rcases List.exists_cons_of_ne_nil inhabited with ⟨scenario, others, scenarios⟩
    rw [titles, List.flatMap_cons, scenarios, List.map_cons, scenarioTitle_eq,
      nameless_of_not_hasShortName unnamed]
    exact ⟨_, rfl⟩
  rcases badTitles with ⟨rest, badTitles⟩
  refine ⟨rest, ?_⟩
  rw [titles, List.flatMap_append, ← titles, ← titles, made, badTitles]

theorem head?_mismatches_eq_some_iff (features : List Feature) (mismatch : Mismatch) :
    (mismatches pattern features).head? = some mismatch ↔
      ∃ before bad, NamedUpTo pattern features before bad ∧ mismatch = ⟨bad.uri, pattern.text⟩ := by
  have isFirst {before : List Feature} {bad : Feature}
      (upTo : NamedUpTo pattern features before bad) :
      (mismatches pattern features).head? = some ⟨bad.uri, pattern.text⟩ := by
    rcases upTo.titles_eq with ⟨rest, titled⟩
    rw [← failures_titles, titled, failures_append,
      ((eq_map_ok_iff _ _).mp rfl).1, failures_cons_error]
    rfl
  constructor
  · intro found
    have unnamed : ¬∀ feature ∈ features, IsNamed pattern feature := by
      intro named
      rw [(mismatches_eq_nil_iff pattern features).mpr named] at found
      cases found
    rcases exists_namedUpTo pattern unnamed with ⟨before, bad, upTo⟩
    exact ⟨before, bad, upTo, Option.some.inj (found.symm.trans (isFirst upTo))⟩
  · rintro ⟨before, bad, upTo, rfl⟩
    exact isFirst upTo

end

end Scenarist.Robot
