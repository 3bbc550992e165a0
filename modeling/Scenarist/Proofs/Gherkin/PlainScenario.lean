import Scenarist.Proofs.Gherkin.Parts
import Scenarist.Proofs.Gherkin.Steps

/-! # Documents of one plain scenario

A scenario with a title, tags on lines of their own and plain steps makes up a
whole document behind a plain header. Nothing of it is lost, and nothing else is
read. This much may be relied on of any parser. -/

namespace Scenarist.Gherkin

open Text Reader

/-! ## The end of the text -/

section

variable (line : Nat)

theorem keyword_nil {words : List Text} (spoken : [] ∉ words) :
    keyword words ⟨line, []⟩ = none := by
  rw [keyword_of_startsPart startsPart_nil]
  apply List.findSome?_eq_none_iff.mpr
  intro word member
  cases word with
  | nil => exact absurd member spoken
  | cons first word => rfl

theorem tags_nil : tags ⟨line, []⟩ = some ([], ⟨line, []⟩) := by
  apply tags_of_startsPart startsPart_nil
  intro head first
  cases first

theorem examples_nil : examples Language.english ⟨line, []⟩ = none := by
  have apart : blanks ⟨line, []⟩ = some ((), ⟨line, []⟩) := blanks_of_startsPart startsPart_nil
  have headerless : header Language.english.examples ⟨line, []⟩ = none :=
    header_of_refuses (keyword_nil line (by decide))
  rw [examples, bind_of_reads (comments_of_startsPart startsPart_nil), bind_of_reads apart,
    bind_of_reads (tags_nil line), bind_of_reads apart, bind_of_refuses headerless]

theorem scenarioOpenedBy_nil {words : List Text} (spoken : [] ∉ words) :
    scenarioOpenedBy words Language.english ⟨line, []⟩ = none := by
  have apart : blanks ⟨line, []⟩ = some ((), ⟨line, []⟩) := blanks_of_startsPart startsPart_nil
  have here : here ⟨line, []⟩ = some (line, ⟨line, []⟩) := rfl
  have headerless : header words ⟨line, []⟩ = none := header_of_refuses (keyword_nil line spoken)
  rw [scenarioOpenedBy, bind_of_reads (comments_of_startsPart startsPart_nil),
    bind_of_reads apart, bind_of_reads (tags_nil line), bind_of_reads apart, bind_of_reads here,
    bind_of_refuses headerless]

theorem scenario_nil : scenario Language.english ⟨line, []⟩ = none := by
  rw [scenario, orElse_of_refuses (scenarioOpenedBy_nil line (by decide)),
    scenarioOpenedBy_nil line (by decide)]

theorem rule_nil : rule Language.english ⟨line, []⟩ = none := by
  have apart : blanks ⟨line, []⟩ = some ((), ⟨line, []⟩) := blanks_of_startsPart startsPart_nil
  have headerless : header Language.english.rule ⟨line, []⟩ = none :=
    header_of_refuses (keyword_nil line (by decide))
  rw [rule, bind_of_reads apart, bind_of_reads (tags_nil line), bind_of_reads apart,
    bind_of_refuses headerless]

end

/-! ## The scenario -/

theorem openingWord_scenario (line : Nat) (rest : Text) :
    openingWord Language.english.scenario ⟨line, ("Scenario: " : Text) ++ rest⟩ =
      some (("Scenario" : Text), ⟨line, ':' :: ' ' :: rest⟩) := rfl

/-- A scenario with a title, tags and plain steps. The first step may stand first. -/
structure PlainScenario where
  title : Text
  firstTag : Text
  otherTags : List Text
  firstStep : PlainStep
  otherSteps : List PlainStep
  isTitle : IsTitle title
  firstIsName : IsTagName firstTag
  othersAreNames : ∀ name ∈ otherTags, IsTagName name
  leads : firstStep.kind.leads = true

namespace PlainScenario

variable (plain : PlainScenario)

def tags : List Text :=
  plain.firstTag :: plain.otherTags

def steps : List PlainStep :=
  plain.firstStep :: plain.otherSteps

/-- The header with the steps, each indented by the given blanks. -/
def body (indent : Text) : Text :=
  ("Scenario: " : Text) ++ (plain.title ++ '\n' ::
    unlines (plain.steps.map fun step => indent ++ step.line))

/-- The scenario as it is read, with the number of its header's line. -/
def toDocument (line : Nat) : Scenario where
  keyword := "Scenario"
  name := plain.title
  description := none
  tags := plain.tags
  line := line
  steps := PlainStep.toDocuments plain.steps (line + 1)
  examples := []

theorem unlines_steps (indent : Text) :
    unlines (plain.steps.map fun step => indent ++ step.line) =
      indent ++ PlainStep.written indent plain.steps := by
  simp [steps, PlainStep.written]

theorem getLast?_body (indent : Text) : (plain.body indent).getLast? = some '\n' := by
  have stepsEnd : (unlines (plain.steps.map fun step => indent ++ step.line)).getLast? =
      some '\n' := getLast?_unlines (by simp [steps])
  have linesEnd : (['\n'] ++ unlines (plain.steps.map fun step => indent ++ step.line)).getLast? =
      some '\n' := getLast?_append_of_ended stepsEnd
  exact getLast?_append_of_ended (getLast?_append_of_ended linesEnd)

theorem description_written (indent : Text) (line : Nat) :
    description (Language.english.scenarios ++ Language.english.steps)
      ⟨line, PlainStep.written indent plain.steps⟩ =
        some (none, ⟨line, PlainStep.written indent plain.steps⟩) := by
  have starts := PlainStep.startsLetter_written indent plain.steps
  have opens : keyword (Language.english.scenarios ++ Language.english.steps)
      ⟨line, PlainStep.written indent plain.steps⟩ = some (plain.firstStep.kind.word ++ [' '],
        ⟨line, plain.firstStep.text ++ '\n' ::
          unlines (plain.otherSteps.map fun step => indent ++ step.line)⟩) := by
    rw [keyword_of_startsPart starts.startsPart, steps, PlainStep.written, PlainStep.line,
      List.append_assoc, List.cons_append]
    cases plain.firstStep.kind <;> rfl
  exact description_of_keyword starts.startsPart (starts.not_head rfl) opens

section

variable {indent tagIndent : Text} (blank : ∀ character ∈ indent, isBlank character = true)
  (tagBlank : ∀ character ∈ tagIndent, isBlank character = true) (line : Nat)

include blank tagBlank

theorem scenario_append :
    scenario Language.english ⟨line, '@' :: (plain.firstTag ++ '\n' ::
      (tagLines tagIndent plain.otherTags ++ plain.body indent))⟩ =
        some (plain.toDocument (line + plain.tags.length),
          ⟨line + plain.tags.length + 1 + plain.steps.length, []⟩) := by
  have starts : StartsPart ('@' :: (plain.firstTag ++ '\n' ::
      (tagLines tagIndent plain.otherTags ++ plain.body indent))) := startsPart_cons rfl _
  let opened : Cursor := ⟨line + plain.otherTags.length + 1, plain.body indent⟩
  have startsBody : StartsPart opened.rest := startsPart_cons rfl _
  have unmarked : ∀ head ∈ opened.rest.head?, head ≠ '@' := by
    intro head first
    cases first
    decide
  have tagged := tags_tagLines tagBlank plain.firstIsName plain.othersAreNames startsBody unmarked
    line
  have here : here opened = some (opened.line, opened) := rfl
  have opens : keyword Language.english.scenario opened =
      some (("Scenario" : Text), ⟨opened.line, ':' :: ' ' ::
        (plain.title ++ '\n' :: (indent ++ PlainStep.written indent plain.steps))⟩) := by
    rw [keyword_of_startsPart startsBody, ← unlines_steps]
    exact openingWord_scenario _ _
  have indented : IsLayout indent := fun character member => .inl (blank character member)
  have lineFeedless : lineFeeds indent = 0 :=
    lineFeeds_eq_zero fun member => absurd (blank '\n' member) (by decide)
  have headed := header_append opens plain.isTitle indented
    (PlainStep.startsLetter_written indent plain.steps).startsPart
  rw [lineFeedless] at headed
  have stepsRead : Gherkin.steps Language.english
      ⟨line + plain.otherTags.length + 1 + 1 + 0, PlainStep.written indent plain.steps⟩ =
        some (_, _) := PlainStep.steps_written blank plain.leads plain.otherSteps _
  apply orElse_of_reads
  rw [scenarioOpenedBy, bind_of_reads (comments_of_startsPart starts),
    bind_of_reads (blanks_of_startsPart starts), bind_of_reads tagged,
    bind_of_reads (blanks_of_startsPart startsBody), bind_of_reads here, bind_of_reads headed]
  simp only
  rw [bind_of_reads (plain.description_written indent _),
    bind_of_reads stepsRead, bind_of_reads (many_of_refuses (examples_nil _)), pure_apply]
  rfl

/-- The parts of a document that has this scenario and nothing else. -/
theorem partsBehind_append (opening : Feature) : ∃ last,
    partsBehind opening Language.english ⟨line, '@' :: (plain.firstTag ++ '\n' ::
      (tagLines tagIndent plain.otherTags ++ plain.body indent))⟩ =
        some ({ opening with
          scenarios := [plain.toDocument (line + plain.tags.length)], rules := [] }, last) := by
  have starts : StartsPart ('@' :: (plain.firstTag ++ '\n' ::
      (tagLines tagIndent plain.otherTags ++ plain.body indent))) := startsPart_cons rfl _
  let last : Cursor := ⟨line + plain.tags.length + 1 + plain.steps.length, []⟩
  have apart : blanks last = some ((), last) := blanks_of_startsPart startsPart_nil
  have empty : emptyLines last = some ((), last) := emptyLines_of_startsPart startsPart_nil
  have noOther : (blanks *> scenario Language.english) last = none := by
    rw [seqRight_eq_bind, bind_of_reads apart, scenario_nil]
  have reads := plain.scenario_append blank tagBlank line
  have parts : scenarios Language.english ⟨line, '@' :: (plain.firstTag ++ '\n' ::
      (tagLines tagIndent plain.otherTags ++ plain.body indent))⟩ =
        some ([plain.toDocument (line + plain.tags.length)], last) := by
    rw [scenarios, bind_of_reads (blanks_of_startsPart starts), separated_of_reads reads,
      repeated_of_refuses noOther]
  have ruleless : rules Language.english last = some ([], last) := by
    rw [rules, bind_of_reads apart, separated_of_refuses (rule_nil _)]
  have ended : atEnd last = some ((), last) := rfl
  refine ⟨last, ?_⟩
  rw [partsBehind, bind_of_reads parts, bind_of_reads empty, bind_of_reads ruleless,
    bind_of_reads empty, bind_of_reads ended, pure_apply]

/-- Behind a plain header the text of the scenario is a document, and the scenario is all that
the document holds. -/
theorem ofText_wrapped {name : Text} (isName : IsTitle name) :
    Feature.ofText (wrapped name tagIndent plain.tags (plain.body indent)) =
      some { plainFeature name with scenarios := [plain.toDocument (3 + plain.tags.length)] } := by
  have ended : (wrapped name tagIndent plain.tags (plain.body indent)).getLast? = some '\n' :=
    getLast?_append_of_ended (getLast?_append_of_ended (plain.getLast?_body indent))
  have closed : closedText (wrapped name tagIndent plain.tags (plain.body indent)) =
      wrapped name tagIndent plain.tags (plain.body indent) := if_pos ended
  rcases plain.partsBehind_append blank tagBlank 3 (plainFeature name) with ⟨last, reads⟩
  rw [Feature.ofText, closed, tags, feature_wrapped isName tagBlank, reads]
  rfl

end

end PlainScenario

/-! ## What is relied on of parsers about plain scenarios -/

/-- Behind a plain header, a plain scenario is read as it is written. -/
def ReadsPlainScenarios [Parser] : Prop :=
  ∀ (plain : PlainScenario) {name indent tagIndent : Text}, IsTitle name →
    (∀ character ∈ indent, isBlank character = true) →
      (∀ character ∈ tagIndent, isBlank character = true) →
        Parser.parse (wrapped name tagIndent plain.tags (plain.body indent)) =
          .ok { plainFeature name with scenarios := [plain.toDocument (3 + plain.tags.length)] }

theorem readsPlainScenarios_reader : @ReadsPlainScenarios reader :=
  fun plain _ _ _ isName blank tagBlank =>
    parse_eq_ok_iff.mpr (plain.ofText_wrapped blank tagBlank isName)

end Scenarist.Gherkin
