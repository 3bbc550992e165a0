import Mathlib.Data.List.TFAE
import Scenarist.App.Render
import Scenarist.Proofs.Robot.Cases

/-! # Listings and suites

A listing of titles and a suite of either kind are made of the same scenarios
in the same order. They fail alike, at the first feature that is not named. -/

namespace Scenarist.App

open Attempts Robot Text

/-! ## The script of a listing -/

/-- Titles that are made are written before anything else is tried. -/
theorem titleScript_append (texts : List Text) (rest : List (Except Mismatch Text)) :
    titleScript (texts.map .ok ++ rest) =
      { writes := texts.map .outLine ++ (titleScript rest).writes
        ending := (titleScript rest).ending } := by
  induction texts with
  | nil => rfl
  | cons text texts induction =>
      rw [List.map_cons, List.cons_append, titleScript, induction]
      rfl

theorem titleScript_map_ok (texts : List Text) :
    titleScript (texts.map .ok) = { writes := texts.map .outLine, ending := .ok .success } := by
  have whole := titleScript_append texts []
  rw [List.append_nil] at whole
  rw [whole, titleScript, List.append_nil]

theorem ending_titleScript (titles : List (Except Mismatch Text)) :
    (titleScript titles).ending =
      unlessFailed .success ((failures titles).map Error.shortName) := by
  induction titles with
  | nil => rfl
  | cons title titles induction =>
      cases title with
      | error mismatch => rfl
      | ok text => exact induction

/-! ## Failures -/

section

variable {pattern : Pattern} {features : List Suite.Feature} {α β : Type} {value : α}
  {change : Mismatch → β}

theorem exists_eq_ok_iff_named :
    (∃ result, unlessFailed value ((mismatches pattern features).map change) = .ok result) ↔
      ∀ feature ∈ features, IsNamed pattern feature := by
  simp only [unlessFailed_eq_ok_iff, List.map_eq_nil_iff, exists_and_left, exists_eq', and_true,
    mismatches_eq_nil_iff]

theorem eq_error_iff_namedUpTo (failure : β) :
    unlessFailed value ((mismatches pattern features).map change) = .error failure ↔
      ∃ before bad, NamedUpTo pattern features before bad ∧
        failure = change ⟨bad.uri, pattern.text⟩ := by
  rw [unlessFailed_eq_error_iff, List.head?_map, Option.map_eq_some_iff]
  simp only [head?_mismatches_eq_some_iff]
  constructor
  · rintro ⟨mismatch, ⟨before, bad, upTo, rfl⟩, rfl⟩
    exact ⟨before, bad, upTo, rfl⟩
  · rintro ⟨before, bad, upTo, rfl⟩
    exact ⟨_, ⟨before, bad, upTo, rfl⟩, rfl⟩

end

/-- The two kinds of suite and the listing are made just if every feature with scenarios has a short
name, and they fail at the first feature with scenarios that has none. -/
theorem fail_alike (pattern : Pattern) (resources : List Text) (features : List Suite.Feature) :
    [∃ text, render pattern .perFeature resources features = .ok text,
      ∃ text, render pattern .perScenario resources features = .ok text,
      (titleScript (titles pattern features)).ending = .ok .success,
      ∀ feature ∈ features, feature.scenarios ≠ [] → HasShortName pattern feature.uri].TFAE ∧
    (∀ fault, render pattern .perFeature resources features = .error fault ↔
      ∃ before bad, NamedUpTo pattern features before bad ∧
        fault = ⟨.shortName, ⟨bad.uri, pattern.text⟩⟩) ∧
    (∀ fault, render pattern .perScenario resources features = .error fault ↔
      ∃ before bad, NamedUpTo pattern features before bad ∧
        fault = ⟨.scenarioTitle, ⟨bad.uri, pattern.text⟩⟩) ∧
    ∀ error, (titleScript (titles pattern features)).ending = .error error ↔
      ∃ before bad, NamedUpTo pattern features before bad ∧
        error = .shortName ⟨bad.uri, pattern.text⟩ := by
  have listing : (titleScript (titles pattern features)).ending =
      unlessFailed .success ((mismatches pattern features).map Error.shortName) := by
    rw [ending_titleScript, failures_titles]
  rw [render_eq, render_eq, listing]
  refine ⟨?_, eq_error_iff_namedUpTo, eq_error_iff_namedUpTo, eq_error_iff_namedUpTo⟩
  have listed : unlessFailed ExitCode.success ((mismatches pattern features).map Error.shortName) =
      .ok .success ↔ ∀ feature ∈ features, IsNamed pattern feature := by
    rw [unlessFailed_eq_ok_iff, and_iff_left rfl, List.map_eq_nil_iff, mismatches_eq_nil_iff]
  refine List.tfae_of_forall (∀ feature ∈ features, IsNamed pattern feature) _ ?_
  rw [List.forall_mem_cons, List.forall_mem_cons, List.forall_mem_cons, List.forall_mem_singleton]
  exact ⟨exists_eq_ok_iff_named, exists_eq_ok_iff_named, listed, Iff.rfl⟩

/-! ## Suites beside the listing -/

/-- A suite with a test case for each scenario is one sequence of cases, each titled by the line of
the listing at its place. The suite with a case for each feature has the steps of the same
scenarios in the same order. -/
theorem suite_flat (pattern : Pattern) {features : List Suite.Feature}
    (inhabited : ∀ feature ∈ features, feature.scenarios ≠ [])
    (named : ∀ feature ∈ features, HasShortName pattern feature.uri) (resources : List Text) :
    let listed := titleTexts pattern features
    titleScript (titles pattern features) =
        { writes := listed.map .outLine, ending := .ok .success } ∧
      listed.length = (scenariosOf features).length ∧
      render pattern .perScenario resources features =
        .ok (unlines (headerLines resources ++ casesHeading ::
          parted (List.zipWith (fun title entry =>
              scenarioLines title (shortOf pattern entry.1.uri) entry.1 entry.2)
            listed (scenariosOf features)))) ∧
      render pattern .perFeature resources features =
        .ok (unlines (headerLines resources ++ casesHeading ::
          parted (features.map fun feature =>
            featureLines (shortOf pattern feature.uri) feature))) ∧
      (unlines (headerLines resources) = [] ↔ resources = []) := by
  intro listed
  have noMismatch : mismatches pattern features = [] :=
    (mismatches_eq_nil_iff pattern features).mpr fun feature member _ => named feature member
  refine ⟨?_, List.length_map _, ?_, render_of_named pattern inhabited noMismatch .perFeature _, ?_⟩
  · rw [titles_eq_map_ok pattern noMismatch, titleScript_map_ok]
  · have isListed : listed = (scenariosOf features).map fun entry =>
        titleText pattern entry.1.uri entry.2.name := rfl
    rw [render_of_named pattern inhabited noMismatch, isListed, List.zipWith_map_left,
      List.zipWith_self]
    rfl
  · rw [headerLines]
    cases resources <;> simp

/-! A feature with a description, a background and two scenarios, and a feature with neither of the
first two. -/

def plainStep (keyword text : Text) : Suite.Step :=
  ⟨keyword, text, 1, none, none⟩

def checkoutFeature : Suite.Feature where
  uri := "shop/checkout.feature"
  keyword := "Feature"
  name := "Customer's checkout"
  description := "As a customer\n  I want to pay"
  tags := ["@shop"]
  scenarios :=
    [⟨"Scenario", "pay by card", [], ["@fast"], 1, [plainStep "Given" "a cart"],
        [plainStep "When" "I pay by card", plainStep "Then" "I get a receipt"], []⟩,
      ⟨"Scenario", "don't pay", [], [], 1, [plainStep "Given" "a cart"], [], []⟩]

def refundFeature : Suite.Feature :=
  ⟨"refund.feature", "Feature", "Refund", [], [],
    [⟨"Scenario", "refund", [], [], 1, [], [plainStep "When" "I complain"], []⟩]⟩

theorem suite_flat_checkout :
    let features := [checkoutFeature, refundFeature]
    ((∀ feature ∈ features, feature.scenarios ≠ []) ∧
      ∀ feature ∈ features, HasShortName defaultPattern feature.uri) ∧
    titleScript (titles defaultPattern features) =
      { writes := [.outLine "checkout.pay_by_card", .outLine "checkout.don't_pay",
          .outLine "refund.refund"]
        ending := .ok .success } ∧
    render defaultPattern .perScenario [] features =
      .ok (unlines ["*** Test Cases ***",
        "checkout.pay_by_card",
        "    [Documentation]    As a customer I want to pay",
        "    [Tags]    fast    shop/checkout.feature",
        "    Feature    checkout    Customer's checkout",
        "    Given a cart",
        "    When I pay by card",
        "    Then I get a receipt",
        "",
        "checkout.don`t_pay",
        "    [Documentation]    As a customer I want to pay",
        "    [Tags]    shop/checkout.feature",
        "    Feature    checkout    Customer's checkout",
        "    Given a cart",
        "",
        "refund.refund",
        "    [Tags]    refund.feature",
        "    Feature    refund    Refund",
        "    When I complain"]) := by
  intro features
  have inhabited : ∀ feature ∈ features, feature.scenarios ≠ [] := by decide
  have named : ∀ feature ∈ features, HasShortName defaultPattern feature.uri :=
    List.forall_mem_cons.mpr ⟨(nameless_eq_nil_iff _ _).mp (by decide +kernel),
      List.forall_mem_singleton.mpr ((nameless_eq_nil_iff _ _).mp (by decide +kernel))⟩
  rcases suite_flat defaultPattern inhabited named [] with ⟨listing, -, perScenario, -, -⟩
  refine ⟨⟨inhabited, named⟩, listing.trans ?_, perScenario.trans ?_⟩
  · have listed : titleTexts defaultPattern features =
        ["checkout.pay_by_card", "checkout.don't_pay", "refund.refund"] := by decide +kernel
    rw [listed]
    rfl
  · exact congrArg Except.ok (by decide +kernel)

end Scenarist.App
