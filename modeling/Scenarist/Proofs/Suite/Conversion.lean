import Mathlib.Data.List.Forall2
import Scenarist.Proofs.Text.Trimming
import Scenarist.Suite.Build

/-! # Converting a document

A document becomes a feature with one scenario for each of its own, in the order
of their lines. Both the order and the conversion are described without the
functions that compute them, and the descriptions leave nothing open. -/

namespace Scenarist

/-! ## The order of the scenarios -/

namespace Gherkin

theorem Placed.noLaterThan_trans (first second third : Placed)
    (left : Placed.noLaterThan first second = true)
    (right : Placed.noLaterThan second third = true) :
    Placed.noLaterThan first third = true := by
  simp only [Placed.noLaterThan, decide_eq_true_eq] at *
  omega

theorem Placed.noLaterThan_total (left right : Placed) :
    (Placed.noLaterThan left right || Placed.noLaterThan right left) = true := by
  simp only [Placed.noLaterThan, Bool.or_eq_true, decide_eq_true_eq]
  omega

theorem Feature.ordered_perm (feature : Feature) : feature.ordered.Perm feature.placed :=
  List.mergeSort_perm feature.placed Placed.noLaterThan

theorem Feature.pairwise_ordered (feature : Feature) :
    feature.ordered.Pairwise fun earlier later => earlier.2.line ≤ later.2.line := by
  have sorted := List.pairwise_mergeSort Placed.noLaterThan_trans Placed.noLaterThan_total
    feature.placed
  refine sorted.imp ?_
  intro earlier later noLater
  exact of_decide_eq_true noLater

/-- The scenarios of one line. -/
def Placed.onLine (line : Nat) (placed : List Placed) : List Placed :=
  placed.filter fun scenario => scenario.2.line = line

theorem Placed.mem_onLine {line : Nat} {placed : List Placed} {scenario : Placed} :
    scenario ∈ Placed.onLine line placed ↔ scenario ∈ placed ∧ scenario.2.line = line := by
  simp [Placed.onLine]

theorem Placed.onLine_cons (line : Nat) (head : Placed) (rest : List Placed) :
    Placed.onLine line (head :: rest) =
      if head.2.line = line then head :: Placed.onLine line rest else Placed.onLine line rest := by
  simp [Placed.onLine, List.filter_cons]

/-- Scenarios of one line keep the order in which the document has them. -/
theorem Feature.onLine_ordered (feature : Feature) (line : Nat) :
    Placed.onLine line feature.ordered = Placed.onLine line feature.placed := by
  -- The sort keeps every sorted sublist, and scenarios of one line are sorted.
  have oneLine : (Placed.onLine line feature.placed).Pairwise fun earlier later =>
      Placed.noLaterThan earlier later = true := by
    refine List.pairwise_of_forall_mem_list ?_
    intro earlier isEarlier later isLater
    simp [Placed.noLaterThan, (Placed.mem_onLine.mp isEarlier).2, (Placed.mem_onLine.mp isLater).2]
  have kept : (Placed.onLine line feature.placed).Sublist feature.ordered :=
    List.sublist_mergeSort Placed.noLaterThan_trans Placed.noLaterThan_total oneLine
      List.filter_sublist
  have within : (Placed.onLine line feature.placed).Sublist
      (Placed.onLine line feature.ordered) := by
    have filtered := kept.filter fun scenario => decide (scenario.2.line = line)
    simp only [Placed.onLine, List.filter_filter, Bool.and_self] at filtered
    exact filtered
  have sameLength : (Placed.onLine line feature.ordered).length =
      (Placed.onLine line feature.placed).length :=
    (feature.ordered_perm.filter _).length_eq
  exact (within.eq_of_length sameLength.symm).symm

theorem Placed.line_le_of_sorted {head member : Placed} {rest : List Placed}
    (sorted : (head :: rest).Pairwise fun earlier later => earlier.2.line ≤ later.2.line)
    (within : member ∈ head :: rest) : head.2.line ≤ member.2.line := by
  rcases List.mem_cons.mp within with rfl | later
  · exact Nat.le_refl _
  · exact List.rel_of_pairwise_cons sorted later

theorem Placed.mem_of_onLine {left right : List Placed}
    (same : ∀ line, Placed.onLine line left = Placed.onLine line right) {scenario : Placed}
    (member : scenario ∈ left) : scenario ∈ right := by
  have onItsLine : scenario ∈ Placed.onLine scenario.2.line left := mem_onLine.mpr ⟨member, rfl⟩
  rw [same] at onItsLine
  exact (mem_onLine.mp onItsLine).1

/-- Sorted lists are equal if they have the same scenarios on every line. -/
theorem Placed.eq_of_onLine {left right : List Placed}
    (sortedLeft : left.Pairwise fun earlier later => earlier.2.line ≤ later.2.line)
    (sortedRight : right.Pairwise fun earlier later => earlier.2.line ≤ later.2.line)
    (same : ∀ line, Placed.onLine line left = Placed.onLine line right) : left = right := by
  induction left generalizing right with
  | nil =>
      cases right with
      | nil => rfl
      | cons other others =>
          exact nomatch mem_of_onLine (fun line => (same line).symm) List.mem_cons_self
  | cons head rest induction =>
      cases right with
      | nil => exact nomatch mem_of_onLine same List.mem_cons_self
      | cons other others =>
          have notBelow := line_le_of_sorted sortedRight (mem_of_onLine same List.mem_cons_self)
          have notAbove := line_le_of_sorted sortedLeft
            (mem_of_onLine (fun line => (same line).symm) List.mem_cons_self)
          have sameLine : other.2.line = head.2.line := Nat.le_antisymm notBelow notAbove
          have heads := same head.2.line
          rw [onLine_cons, onLine_cons, if_pos rfl, if_pos sameLine] at heads
          obtain rfl : head = other := (List.cons.inj heads).1
          have sameRest : ∀ line, onLine line rest = onLine line others := by
            intro line
            have onThisLine := same line
            rw [onLine_cons, onLine_cons] at onThisLine
            split at onThisLine
            · exact (List.cons.inj onThisLine).2
            · exact onThisLine
          rw [induction sortedLeft.of_cons sortedRight.of_cons sameRest]

theorem Feature.eq_ordered {feature : Feature} {placed : List Placed}
    (sorted : placed.Pairwise fun earlier later => earlier.2.line ≤ later.2.line)
    (stable : ∀ line, Placed.onLine line placed = Placed.onLine line feature.placed) :
    placed = feature.ordered :=
  Placed.eq_of_onLine sorted feature.pairwise_ordered fun line =>
    (stable line).trans (feature.onLine_ordered line).symm

end Gherkin

/-! ## What becomes of the parts -/

namespace Suite

/-- A tag and the same tag with an at sign. -/
inductive Marks : Text → Text → Prop
  | asWritten (name : Text) : Marks ('@' :: name) ('@' :: name)
  | added {tag : Text} (lacks : tag.head? ≠ some '@') : Marks tag ('@' :: tag)

structure Step.Converts (source : Gherkin.Step) (step : Step) : Prop where
  keyword : Text.Trims source.keyword step.keyword
  text : step.text = source.text
  line : step.line = source.line
  docstring : step.docstring = source.docstring
  table : step.table = source.table

structure Examples.Converts (source : Gherkin.Examples) (examples : Examples) : Prop where
  tags : List.Forall₂ Marks source.tags examples.tags
  rows : examples.rows = source.table.getD []

/-- The steps that come before those of a scenario: the ones of the feature, and then the ones
of the rule around the scenario. -/
def stepsBefore (feature : Gherkin.Feature) (rule : Option Gherkin.Rule) : List Gherkin.Step :=
  let steps (background : Option Gherkin.Background) := (background.map (·.steps)).getD []
  steps feature.background ++ steps (rule.bind (·.background))

structure Scenario.Converts (feature : Gherkin.Feature) (placed : Gherkin.Placed)
    (scenario : Scenario) : Prop where
  keyword : scenario.keyword = placed.2.keyword
  name : scenario.name = placed.2.name
  description : Text.Trims (placed.2.description.getD []) scenario.description
  tags : List.Forall₂ Marks placed.2.tags scenario.tags
  line : scenario.line = placed.2.line
  background : List.Forall₂ Step.Converts (stepsBefore feature placed.1) scenario.background
  steps : List.Forall₂ Step.Converts placed.2.steps scenario.steps
  examples : List.Forall₂ Examples.Converts placed.2.examples scenario.examples

structure Feature.Converts (source : Gherkin.Feature) (feature : Feature) : Prop where
  uri : feature.uri = source.path.getD source.name
  keyword : feature.keyword = source.keyword
  name : feature.name = source.name
  description : Text.Trims (source.description.getD []) feature.description
  tags : List.Forall₂ Marks source.tags feature.tags
  scenarios : List.Forall₂ (Scenario.Converts source) source.ordered feature.scenarios

/-! Each description is that of a single value. -/

theorem forall₂_iff_eq_map {Source Result : Type} {Converts : Source → Result → Prop}
    {convert : Source → Result}
    (each : ∀ source result, Converts source result ↔ result = convert source)
    (sources : List Source) (results : List Result) :
    List.Forall₂ Converts sources results ↔ results = sources.map convert := by
  constructor
  · intro converts
    induction converts with
    | nil => rfl
    | cons head _ induction => rw [List.map_cons, (each _ _).mp head, induction]
  · rintro rfl
    rw [List.forall₂_map_right_iff, List.forall₂_same]
    intro source _
    exact (each source _).mpr rfl

theorem marks_iff (tag marked : Text) : Marks tag marked ↔ marked = markedTag tag := by
  constructor
  · intro marks
    cases marks with
    | asWritten name => rfl
    | added lacks => rw [markedTag, if_neg lacks]
  · rintro rfl
    by_cases has : tag.head? = some '@'
    · rcases List.head?_eq_some_iff.mp has with ⟨name, rfl⟩
      exact .asWritten name
    · rw [markedTag, if_neg has]
      exact .added has

theorem forall₂_marks_iff (tags marked : List Text) :
    List.Forall₂ Marks tags marked ↔ marked = markedTags tags :=
  forall₂_iff_eq_map marks_iff tags marked

theorem Step.converts_iff (source : Gherkin.Step) (step : Step) :
    Step.Converts source step ↔ step = Step.ofDocument source := by
  constructor
  · rintro ⟨keyword, text, line, docstring, table⟩
    cases step
    simp_all [Step.ofDocument, Text.trims_iff]
  · rintro rfl
    exact ⟨Text.trims_trim source.keyword, rfl, rfl, rfl, rfl⟩

theorem Examples.converts_iff (source : Gherkin.Examples) (examples : Examples) :
    Examples.Converts source examples ↔ examples = Examples.ofDocument source := by
  constructor
  · rintro ⟨tags, rows⟩
    cases examples
    simp_all [Examples.ofDocument, forall₂_marks_iff]
  · rintro rfl
    exact ⟨(forall₂_marks_iff _ _).mpr rfl, rfl⟩

theorem map_stepsBefore (feature : Gherkin.Feature) (rule : Option Gherkin.Rule) :
    (stepsBefore feature rule).map Step.ofDocument =
      backgroundSteps feature.background ++ ruleSteps rule := by
  have steps : ∀ background : Option Gherkin.Background,
      ((background.map (·.steps)).getD []).map Step.ofDocument = backgroundSteps background := by
    intro background
    cases background <;> rfl
  rw [stepsBefore, List.map_append, steps, steps]
  cases rule <;> rfl

theorem Scenario.converts_iff (feature : Gherkin.Feature) (placed : Gherkin.Placed)
    (scenario : Scenario) :
    Scenario.Converts feature placed scenario ↔
      scenario = Scenario.ofDocument (backgroundSteps feature.background) placed := by
  constructor
  · rintro ⟨keyword, name, description, tags, line, background, steps, examples⟩
    rw [forall₂_iff_eq_map Step.converts_iff] at background steps
    rw [forall₂_iff_eq_map Examples.converts_iff] at examples
    rw [forall₂_marks_iff] at tags
    rw [map_stepsBefore] at background
    cases scenario
    simp_all [Scenario.ofDocument, trimmedDescription, Text.trims_iff]
  · rintro rfl
    refine ⟨rfl, rfl, Text.trims_trim _, (forall₂_marks_iff _ _).mpr rfl, rfl, ?_,
      (forall₂_iff_eq_map Step.converts_iff _ _).mpr rfl,
      (forall₂_iff_eq_map Examples.converts_iff _ _).mpr rfl⟩
    rw [forall₂_iff_eq_map Step.converts_iff, map_stepsBefore]
    rfl

theorem Feature.converts_iff (source : Gherkin.Feature) (feature : Feature) :
    Feature.Converts source feature ↔ feature = Feature.ofDocument source := by
  constructor
  · rintro ⟨uri, keyword, name, description, tags, scenarios⟩
    rw [forall₂_iff_eq_map (Scenario.converts_iff source)] at scenarios
    rw [forall₂_marks_iff] at tags
    cases feature
    simp_all [Feature.ofDocument, Feature.ofPlaced, Gherkin.Feature.uri, trimmedDescription,
      Text.trims_iff]
  · rintro rfl
    exact ⟨rfl, rfl, rfl, Text.trims_trim _, (forall₂_marks_iff _ _).mpr rfl,
      (forall₂_iff_eq_map (Scenario.converts_iff source) _ _).mpr rfl⟩

/-- The ordered scenarios are those of the document, each once and beside the rule around it,
by their lines, and on one line as the document has them. The feature has one scenario for each
of them, in this order, with the background of the feature and of its own rule. -/
theorem ofDocument_converts (source : Gherkin.Feature) :
    source.ordered.Perm
      (source.scenarios.map (fun scenario => (none, scenario)) ++
        source.rules.flatMap fun rule =>
          rule.scenarios.map fun scenario => (some rule, scenario)) ∧
    (source.ordered.Pairwise fun earlier later => earlier.2.line ≤ later.2.line) ∧
    (∀ line, Gherkin.Placed.onLine line source.ordered =
      Gherkin.Placed.onLine line source.placed) ∧
    Feature.Converts source (Feature.ofDocument source) :=
  ⟨source.ordered_perm, source.pairwise_ordered, source.onLine_ordered,
    (Feature.converts_iff source _).mpr rfl⟩

end Suite
end Scenarist
