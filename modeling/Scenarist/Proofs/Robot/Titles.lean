import Scenarist.Proofs.Robot.ShortName
import Scenarist.Proofs.Text.Lines
import Scenarist.Robot.Render

/-! # Titles of scenarios

The title of a scenario says neither in which directory its feature stands nor
where the short name ends, and underscores in it may be spaces. Two scenarios
have one title if they differ in nothing else. -/

namespace Scenarist.Robot

open Text Suite

/-- All scenarios, each with its feature. -/
def scenariosOf (features : List Feature) : List (Feature × Scenario) :=
  features.flatMap fun feature => feature.scenarios.map fun scenario => (feature, scenario)

def titleOf (entry : Feature × Scenario) : Except Mismatch Text :=
  scenarioTitle defaultPattern entry.1.uri entry.2.name

theorem titles_eq_map (features : List Feature) :
    titles defaultPattern features = (scenariosOf features).map titleOf := by
  simp only [titles, scenariosOf, List.map_flatMap, List.map_map, Function.comp_def, titleOf]

/-- The short name of the other feature goes on with a dot, and the scenario's name goes on in the
same way. -/
def Extends (short name other otherName : Text) : Prop :=
  ∃ piece, other = short ++ '.' :: piece ∧
    underscoreSpaces name = piece ++ '.' :: underscoreSpaces otherName

/-- How two scenarios come to have one title. -/
inductive Clash (first second : Feature × Scenario) : Prop where
  | respelled (oneFeature : first.1.uri = second.1.uri) (different : first.2.name ≠ second.2.name)
      (same : underscoreSpaces first.2.name = underscoreSpaces second.2.name)
  | moved {short : Text} (different : first.1.uri ≠ second.1.uri)
      (firstShort : shortName defaultPattern first.1.uri = .ok short)
      (secondShort : shortName defaultPattern second.1.uri = .ok short)
      (same : underscoreSpaces first.2.name = underscoreSpaces second.2.name)
  | shifted {short other : Text} (firstShort : shortName defaultPattern first.1.uri = .ok short)
      (secondShort : shortName defaultPattern second.1.uri = .ok other)
      (joined : Extends short first.2.name other second.2.name ∨
        Extends other second.2.name short first.2.name)

theorem scenarioTitle_eq_ok {uri short : Text} (isShort : shortName defaultPattern uri = .ok short)
    (name : Text) :
    scenarioTitle defaultPattern uri name = .ok (short ++ '.' :: underscoreSpaces name) := by
  simp [scenarioTitle, isShort, Except.map]

section

variable {first second : Feature × Scenario} {short other : Text}

theorem titleOf_eq_iff (firstShort : shortName defaultPattern first.1.uri = .ok short)
    (secondShort : shortName defaultPattern second.1.uri = .ok other) :
    titleOf first = titleOf second ↔
      short = other ∧ underscoreSpaces first.2.name = underscoreSpaces second.2.name ∨
        Extends short first.2.name other second.2.name ∨
          Extends other second.2.name short first.2.name := by
  rw [titleOf, titleOf, scenarioTitle_eq_ok firstShort, scenarioTitle_eq_ok secondShort,
    Except.ok.injEq, append_separator_eq_iff]
  rfl

theorem titleOf_eq_iff_clash (firstShort : shortName defaultPattern first.1.uri = .ok short)
    (secondShort : shortName defaultPattern second.1.uri = .ok other)
    (apart : first.1.uri = second.1.uri → first.2.name ≠ second.2.name) :
    titleOf first = titleOf second ↔ Clash first second := by
  rw [titleOf_eq_iff firstShort secondShort]
  constructor
  · rintro (⟨rfl, same⟩ | joined)
    · by_cases oneFeature : first.1.uri = second.1.uri
      · exact .respelled oneFeature (apart oneFeature) same
      · exact .moved oneFeature firstShort secondShort same
    · exact .shifted firstShort secondShort joined
  · intro clash
    cases clash with
    | respelled oneFeature different same =>
        rw [oneFeature, secondShort] at firstShort
        exact .inl ⟨(Except.ok.inj firstShort).symm, same⟩
    | moved different firstOne secondOne same =>
        refine .inl ⟨?_, same⟩
        exact (Except.ok.inj (firstShort.symm.trans firstOne)).trans
          (Except.ok.inj (secondOne.symm.trans secondShort))
    | shifted firstOne secondOne joined =>
        rw [Except.ok.inj (firstShort.symm.trans firstOne),
          Except.ok.inj (secondShort.symm.trans secondOne)]
        exact .inr joined

end

section

variable {features : List Feature}

theorem exists_shortName_of_mem_scenariosOf
    (named : ∀ feature ∈ features, ∃ short, shortName defaultPattern feature.uri = .ok short)
    {entry : Feature × Scenario} (member : entry ∈ scenariosOf features) :
    ∃ short, shortName defaultPattern entry.1.uri = .ok short := by
  rcases List.mem_flatMap.mp member with ⟨feature, inFeatures, inScenarios⟩
  rcases List.mem_map.mp inScenarios with ⟨scenario, -, rfl⟩
  exact named feature inFeatures

/-- Two scenarios of one feature have different names, and two of different features have different
URIs. -/
theorem pairwise_scenariosOf (differentUris : (features.map Feature.uri).Nodup)
    (differentNames : ∀ feature ∈ features, (feature.scenarios.map Scenario.name).Nodup) :
    (scenariosOf features).Pairwise fun first second =>
      first.1.uri = second.1.uri → first.2.name ≠ second.2.name := by
  rw [scenariosOf, List.pairwise_flatMap]
  constructor
  · intro feature member
    refine List.pairwise_map.mpr ((List.pairwise_map.mp (differentNames feature member)).imp ?_)
    intro scenario other different _
    exact different
  · refine (List.pairwise_map.mp differentUris).imp ?_
    intro feature other different first inFirst second inSecond same
    rcases List.mem_map.mp inFirst with ⟨scenario, -, rfl⟩
    rcases List.mem_map.mp inSecond with ⟨otherScenario, -, rfl⟩
    exact absurd same different

/-- Of features with different URIs, and with different names of scenarios in each, all scenarios
have titles of their own just if no two of them clash. -/
theorem nodup_titles_iff
    (named : ∀ feature ∈ features, ∃ short, shortName defaultPattern feature.uri = .ok short)
    (differentUris : (features.map Feature.uri).Nodup)
    (differentNames : ∀ feature ∈ features, (feature.scenarios.map Scenario.name).Nodup) :
    (∀ title ∈ titles defaultPattern features, ∃ text, title = .ok text) ∧
      ((titles defaultPattern features).Nodup ↔
        (scenariosOf features).Pairwise fun first second => ¬Clash first second) := by
  have same : (scenariosOf features).Pairwise fun first second =>
      (titleOf first = titleOf second ↔ Clash first second) := by
    refine (pairwise_scenariosOf differentUris differentNames).imp_of_mem ?_
    intro first second inFirst inSecond apart
    rcases exists_shortName_of_mem_scenariosOf named inFirst with ⟨short, firstShort⟩
    rcases exists_shortName_of_mem_scenariosOf named inSecond with ⟨other, secondShort⟩
    exact titleOf_eq_iff_clash firstShort secondShort apart
  rw [titles_eq_map]
  refine ⟨?_, ?_⟩
  · intro title member
    rcases List.mem_map.mp member with ⟨entry, inEntries, rfl⟩
    rcases exists_shortName_of_mem_scenariosOf named inEntries with ⟨short, isShort⟩
    exact ⟨_, scenarioTitle_eq_ok isShort _⟩
  · rw [List.nodup_iff_pairwise_ne, List.pairwise_map]
    constructor
    · intro different
      exact (same.and different).imp fun both clash => both.2 (both.1.mpr clash)
    · intro clear
      exact (same.and clear).imp fun both equal => both.2 (both.1.mp equal)

end

/-! Features whose scenarios have nothing but a name. -/

def plainScenario (name : Text) : Scenario :=
  ⟨"Scenario", name, [], [], 1, [], [], []⟩

def plainFeature (directory short : Text) (names : List Text) : Feature :=
  ⟨directory ++ (short ++ extension), "Feature", [], [], [], names.map plainScenario⟩

section

variable {directory short : Text} (isDirectory : IsDirectory directory)
  (isShort : IsShortName short) (names : List Text)

include isDirectory isShort

theorem shortName_plainFeature :
    shortName defaultPattern (plainFeature directory short names).uri = .ok short :=
  shortName_append isDirectory isShort

theorem titles_plainFeature (features : List Feature) :
    titles defaultPattern (plainFeature directory short names :: features) =
      names.map (fun name => .ok (short ++ '.' :: underscoreSpaces name)) ++
        titles defaultPattern features := by
  rw [titles, List.flatMap_cons]
  refine congrArg (· ++ _) (List.map_map.trans (List.map_congr_left fun name _ => ?_))
  dsimp only [Function.comp, plainScenario]
  exact scenarioTitle_eq_ok (shortName_plainFeature isDirectory isShort names) name

end

def shop : List Feature :=
  [plainFeature "web/" "pay" ["full refund", "no refund"],
    plainFeature "api/" "owe" ["full refund"]]

theorem nodup_titles_iff_shop :
    ((∀ feature ∈ shop, ∃ short, shortName defaultPattern feature.uri = .ok short) ∧
      (shop.map Feature.uri).Nodup ∧
        ∀ feature ∈ shop, (feature.scenarios.map Scenario.name).Nodup) ∧
    ((titles defaultPattern shop).Nodup ↔
      (scenariosOf shop).Pairwise fun first second => ¬Clash first second) := by
  have named : ∀ feature ∈ shop, ∃ short, shortName defaultPattern feature.uri = .ok short :=
    List.forall_mem_cons.mpr ⟨⟨_, shortName_plainFeature (by decide) (by decide) _⟩,
      List.forall_mem_singleton.mpr ⟨_, shortName_plainFeature (by decide) (by decide) _⟩⟩
  have differentUris : (shop.map Feature.uri).Nodup := by decide
  have differentNames : ∀ feature ∈ shop, (feature.scenarios.map Scenario.name).Nodup := by decide
  exact ⟨⟨named, differentUris, differentNames⟩,
    (nodup_titles_iff named differentUris differentNames).2⟩

/-! Features of one file name in two directories, names that differ in an underscore, and a dot
that belongs to the file or to the name. -/

def movedFeatures : List Feature :=
  [plainFeature "web/" "pay" ["refund"], plainFeature "api/" "pay" ["refund"]]

theorem not_nodup_titles :
    titles defaultPattern movedFeatures = List.replicate 2 (.ok "pay.refund") ∧
      titles defaultPattern [plainFeature [] "pay" ["full refund", "full_refund"]] =
          List.replicate 2 (.ok "pay.full_refund") ∧
      titles defaultPattern
        [plainFeature [] "pay" ["web.refund"], plainFeature [] "pay.web" ["refund"]] =
          List.replicate 2 (.ok "pay.web.refund") ∧
      ¬∀ features : List Feature,
        (∀ feature ∈ features, ∃ short, shortName defaultPattern feature.uri = .ok short) →
          (features.map Feature.uri).Nodup →
            (∀ feature ∈ features, (feature.scenarios.map Scenario.name).Nodup) →
              (titles defaultPattern features).Nodup := by
  have noDirectory : IsDirectory [] := by decide
  have moved : titles defaultPattern movedFeatures = List.replicate 2 (.ok "pay.refund") := by
    rw [movedFeatures, titles_plainFeature (by decide) (by decide),
      titles_plainFeature (by decide) (by decide)]
    rfl
  refine ⟨moved, ?_, ?_, ?_⟩
  · rw [titles_plainFeature noDirectory (by decide)]
    rfl
  · rw [titles_plainFeature noDirectory (by decide), titles_plainFeature noDirectory (by decide)]
    rfl
  · intro distinguishes
    have named : ∀ feature ∈ movedFeatures,
        ∃ short, shortName defaultPattern feature.uri = .ok short :=
      List.forall_mem_cons.mpr ⟨⟨_, shortName_plainFeature (by decide) (by decide) _⟩,
        List.forall_mem_singleton.mpr ⟨_, shortName_plainFeature (by decide) (by decide) _⟩⟩
    have different := distinguishes movedFeatures named (by decide) (by decide)
    rw [moved] at different
    exact absurd List.mem_cons_self (List.nodup_cons.mp different).1

end Scenarist.Robot
