import Scenarist.Proofs.Gherkin.Tags

/-! # The tags of the parts of a document

A scenario or rule carries the tags that the text writes before its header, so
the tags of a document come in the order in which they are written. Tags that
stand on lines of their own behind the header of a document belong to its first
scenario or rule. -/

namespace Scenarist.Gherkin

open Text Reader

/-- The tags of a rule, then those of its scenarios. -/
def Rule.tagLists (rule : Rule) : List (List Text) :=
  rule.tags :: rule.scenarios.map Scenario.tags

/-- The tags of every scenario and rule, in the order of the document. -/
def Feature.tagLists (feature : Feature) : List (List Text) :=
  feature.scenarios.map Scenario.tags ++ feature.rules.flatMap Rule.tagLists

theorem Rule.flatten_tagLists (rule : Rule) :
    rule.tagLists.flatten = rule.tags ++ rule.scenarios.flatMap Scenario.tags := by
  rw [tagLists, List.flatten_cons, ← List.flatMap_def]

theorem Feature.flatten_tagLists (feature : Feature) :
    feature.tagLists.flatten = feature.scenarios.flatMap Scenario.tags ++
      feature.rules.flatMap fun rule => rule.tagLists.flatten := by
  rw [tagLists, List.flatten_append, ← List.flatMap_def]
  simp only [← List.flatMap_id, List.flatMap_assoc]

variable {language : Language} {words : List Text} {cursor last : Cursor}

/-! ## Scenarios -/

set_option synthInstance.maxSize 1000

instance : LeavesEnd (scenarioOpenedBy words language) :=
  LeavesEnd.bind inferInstance fun _ => LeavesEnd.bind inferInstance fun _ =>
    LeavesEnd.bind inferInstance fun _ => LeavesEnd.bind inferInstance fun _ =>
      LeavesEnd.bind inferInstance fun _ => LeavesEnd.bind inferInstance fun (_, _) =>
        inferInstance

instance : LeavesEnd (scenario language) := by
  unfold scenario
  infer_instance

instance : LeavesEnd (scenarios language) := by
  unfold scenarios
  infer_instance

/-- The tags of a scenario are read right behind the comments and blanks before it, and the
rest of the scenario behind the tags. -/
theorem tags_of_scenarioOpenedBy {scenario : Scenario}
    (reads : scenarioOpenedBy words language cursor = some (scenario, last)) :
    ∃ place next, (comments *> blanks) cursor = some ((), place) ∧
      tags place = some (scenario.tags, next) ∧ last.rest <:+ next.rest := by
  rcases bind_eq_some_iff.mp reads with ⟨_, behindComments, commentsTaken, reads⟩
  rcases bind_eq_some_iff.mp reads with ⟨_, place, blanksTaken, reads⟩
  rcases bind_eq_some_iff.mp reads with ⟨names, next, tagsTaken, reads⟩
  rcases bind_eq_some_iff.mp reads with ⟨_, apart, apartTaken, reads⟩
  rcases bind_eq_some_iff.mp reads with ⟨line, opened, lineTaken, reads⟩
  rcases bind_eq_some_iff.mp reads with ⟨⟨_, _⟩, body, headerTaken, reads⟩
  have inBody : last.rest <:+ body.rest := LeavesEnd.suffix reads
  have suffix := ((inBody.trans (LeavesEnd.suffix headerTaken)).trans
    (LeavesEnd.suffix lineTaken)).trans (LeavesEnd.suffix apartTaken)
  rcases bind_eq_some_iff.mp reads with ⟨_, _, _, reads⟩
  rcases bind_eq_some_iff.mp reads with ⟨_, _, _, reads⟩
  rcases bind_eq_some_iff.mp reads with ⟨_, _, _, reads⟩
  cases reads
  exact ⟨place, next, bind_eq_some_iff.mpr ⟨(), behindComments, commentsTaken, blanksTaken⟩,
    tagsTaken, suffix⟩

theorem tags_of_scenario {part : Scenario}
    (reads : scenario language cursor = some (part, last)) :
    ∃ place next, (comments *> blanks) cursor = some ((), place) ∧
      tags place = some (part.tags, next) ∧ last.rest <:+ next.rest := by
  rcases orElse_eq_some reads with first | ⟨-, second⟩
  · exact tags_of_scenarioOpenedBy first
  · exact tags_of_scenarioOpenedBy second

theorem keepsOrder_scenario : KeepsOrder (scenario language) Scenario.tags := by
  intro cursor part last reads names written
  rcases tags_of_scenario reads with ⟨place, next, apart, tagsTaken, suffix⟩
  exact (keepsOrder_tags tagsTaken names (written.mono suffix)).mono (LeavesEnd.suffix apart)

theorem keepsOrder_scenarios : KeepsOrder (scenarios language) (List.flatMap Scenario.tags) := by
  intro cursor parts last reads names written
  rcases bind_eq_some_iff.mp reads with ⟨_, place, blanksTaken, reads⟩
  exact (keepsOrder_scenario.separated reads names written).mono (LeavesEnd.suffix blanksTaken)

/-! ## Rules -/

instance : LeavesEnd (rule language) :=
  LeavesEnd.bind inferInstance fun _ => LeavesEnd.bind inferInstance fun _ =>
    LeavesEnd.bind inferInstance fun _ => LeavesEnd.bind inferInstance fun (_, _) =>
      inferInstance

/-- The tags of a rule are read first, and its scenarios from the text behind them. -/
theorem tags_of_rule {part : Rule} (reads : rule language cursor = some (part, last)) :
    ∃ place next, blanks cursor = some ((), place) ∧ tags place = some (part.tags, next) ∧
      ∃ start behind, scenarios language start = some (part.scenarios, behind) ∧
        start.rest <:+ next.rest ∧ last.rest <:+ behind.rest := by
  rcases bind_eq_some_iff.mp reads with ⟨_, place, blanksTaken, reads⟩
  rcases bind_eq_some_iff.mp reads with ⟨names, next, tagsTaken, reads⟩
  rcases bind_eq_some_iff.mp reads with ⟨_, opened, apartTaken, reads⟩
  rcases bind_eq_some_iff.mp reads with ⟨⟨_, _⟩, body, headerTaken, reads⟩
  rcases bind_eq_some_iff.mp reads with ⟨_, described, descriptionTaken, reads⟩
  rcases bind_eq_some_iff.mp reads with ⟨_, prepared, backgroundTaken, reads⟩
  rcases bind_eq_some_iff.mp reads with ⟨_, start, linesTaken, reads⟩
  rcases bind_eq_some_iff.mp reads with ⟨inner, behind, scenariosTaken, reads⟩
  rcases bind_eq_some_iff.mp reads with ⟨_, _, endTaken, reads⟩
  cases reads
  have inBody : start.rest <:+ body.rest :=
    ((LeavesEnd.suffix linesTaken).trans (LeavesEnd.suffix backgroundTaken)).trans
      (LeavesEnd.suffix descriptionTaken)
  have inNext : body.rest <:+ next.rest :=
    (LeavesEnd.suffix headerTaken).trans (LeavesEnd.suffix apartTaken)
  exact ⟨place, next, blanksTaken, tagsTaken, start, behind, scenariosTaken,
    inBody.trans inNext, LeavesEnd.suffix endTaken⟩

theorem keepsOrder_rule : KeepsOrder (rule language) fun part => part.tagLists.flatten := by
  intro cursor part last reads names written
  rcases tags_of_rule reads with
    ⟨place, next, apart, tagsTaken, start, behind, inner, inNext, suffix⟩
  have scenarios := keepsOrder_scenarios inner names (written.mono suffix)
  have whole := keepsOrder_tags tagsTaken _ (scenarios.mono inNext)
  dsimp only
  rw [part.flatten_tagLists, List.append_assoc]
  exact whole.mono (LeavesEnd.suffix apart)

theorem keepsOrder_rules :
    KeepsOrder (rules language) (List.flatMap fun part => part.tagLists.flatten) := by
  intro cursor parts last reads names written
  rcases bind_eq_some_iff.mp reads with ⟨_, place, blanksTaken, reads⟩
  exact (keepsOrder_rule.separated reads names written).mono (LeavesEnd.suffix blanksTaken)

/-! ## Documents -/

/-- The scenarios of a document are read behind all that opens it, and its rules behind them. -/
theorem parts_of_feature {document : Feature} (reads : feature cursor = some (document, last)) :
    ∃ language start behind between final,
      scenarios language start = some (document.scenarios, behind) ∧
        rules language between = some (document.rules, final) ∧
          start.rest <:+ cursor.rest ∧ between.rest <:+ behind.rest := by
  rcases bind_eq_some_iff.mp reads with ⟨_, begun, begins, reads⟩
  rcases bind_eq_some_iff.mp reads with ⟨language, told, languageTaken, reads⟩
  rcases bind_eq_some_iff.mp reads with ⟨_, tagged, linesTaken, reads⟩
  rcases bind_eq_some_iff.mp reads with ⟨own, headed, ownTaken, reads⟩
  rcases bind_eq_some_iff.mp reads with ⟨⟨_, _⟩, body, headerTaken, reads⟩
  rcases bind_eq_some_iff.mp reads with ⟨_, described, descriptionTaken, reads⟩
  rcases bind_eq_some_iff.mp reads with ⟨_, prepared, backgroundTaken, reads⟩
  rcases bind_eq_some_iff.mp reads with ⟨_, start, moreLinesTaken, reads⟩
  rcases bind_eq_some_iff.mp reads with ⟨parts, behind, partsTaken, reads⟩
  rcases bind_eq_some_iff.mp reads with ⟨_, between, betweenTaken, reads⟩
  rcases bind_eq_some_iff.mp reads with ⟨ruleParts, final, rulesTaken, reads⟩
  rcases bind_eq_some_iff.mp reads with ⟨_, _, _, reads⟩
  rcases bind_eq_some_iff.mp reads with ⟨_, _, _, reads⟩
  cases reads
  have inText : headed.rest <:+ cursor.rest :=
    (((LeavesEnd.suffix ownTaken).trans (LeavesEnd.suffix linesTaken)).trans
      (LeavesEnd.suffix languageTaken)).trans (LeavesEnd.suffix begins)
  have inBody : start.rest <:+ headed.rest :=
    (((LeavesEnd.suffix moreLinesTaken).trans (LeavesEnd.suffix backgroundTaken)).trans
      (LeavesEnd.suffix descriptionTaken)).trans (LeavesEnd.suffix headerTaken)
  exact ⟨language, start, behind, between, final, partsTaken, rulesTaken, inBody.trans inText,
    LeavesEnd.suffix betweenTaken⟩

/-- A document has its tags in the order in which the text writes them. -/
theorem writesInOrder_of_ofText {text : Text} {document : Feature}
    (reads : Feature.ofText text = some document) :
    WritesInOrder text document.tagLists.flatten := by
  rcases Option.map_eq_some_iff.mp reads with ⟨⟨document, last⟩, taken, rfl⟩
  rcases parts_of_feature taken with
    ⟨language, start, behind, between, final, parts, ruleParts, inText, inBehind⟩
  have rules := keepsOrder_rules ruleParts [] trivial
  have whole := (keepsOrder_scenarios parts _ (rules.mono inBehind)).mono inText
  have closed : WritesInOrder (closedText text) document.tagLists.flatten := by
    rwa [document.flatten_tagLists, ← List.append_nil (_ ++ _), List.append_assoc]
  unfold closedText at closed
  split at closed
  · exact closed
  · exact closed.of_append_lineFeed

/-! ## Parts behind tag lines -/

/-- The first list begins with the given tags. -/
def OpensWith (names : List Text) (lists : List (List Text)) : Prop :=
  ∃ own others, lists = (names ++ own) :: others

theorem OpensWith.append {names : List Text} {lists : List (List Text)}
    (opens : OpensWith names lists) (more : List (List Text)) :
    OpensWith names (lists ++ more) := by
  rcases opens with ⟨own, others, rfl⟩
  exact ⟨own, others ++ more, rfl⟩

namespace StandsTagged

variable {names : List Text} {place : Cursor}

theorem scenarios (tagged : StandsTagged names place) {parts : List Scenario}
    (reads : scenarios language place = some (parts, last)) :
    (parts = [] ∧ last = place) ∨ OpensWith names (parts.map Scenario.tags) := by
  rw [Gherkin.scenarios, bind_of_reads (blanks_of_startsPart tagged.starts)] at reads
  rcases separated_cases reads with unread | ⟨part, behind, partTaken, rfl, -⟩
  · exact .inl unread
  · right
    rcases tags_of_scenario partTaken with ⟨_, next, apart, tagsTaken, -⟩
    rw [seqRight_eq_bind, bind_of_reads (comments_of_startsPart tagged.starts),
      blanks_of_startsPart tagged.starts] at apart
    cases apart
    rcases tagged.carries tagsTaken with ⟨own, carried⟩
    exact ⟨own, _, by rw [List.map_cons, carried]⟩

theorem rules (tagged : StandsTagged names place) {parts : List Rule}
    (reads : rules language place = some (parts, last)) :
    (parts = [] ∧ last = place) ∨ OpensWith names (parts.flatMap Rule.tagLists) := by
  rw [Gherkin.rules, bind_of_reads (blanks_of_startsPart tagged.starts)] at reads
  rcases separated_cases reads with unread | ⟨part, behind, partTaken, rfl, -⟩
  · exact .inl unread
  · right
    rcases tags_of_rule partTaken with ⟨_, next, apart, tagsTaken, -⟩
    rw [blanks_of_startsPart tagged.starts] at apart
    cases apart
    rcases tagged.carries tagsTaken with ⟨own, carried⟩
    exact ⟨own, _, by rw [List.flatMap_cons, Rule.tagLists, ← carried, List.cons_append]⟩

end StandsTagged

/-! ## Documents with a plain header -/

/-- The parts of a document behind its header, up to the end of the text. -/
def partsBehind (opening : Feature) (language : Language) : Reader Feature := do
  let scenarios ← scenarios language
  emptyLines
  let rules ← rules language
  emptyLines
  atEnd
  return { opening with scenarios, rules }

/-- A feature that has a name and nothing else. -/
def plainFeature (name : Text) : Feature where
  path := none
  keyword := "Feature"
  name := name
  description := none
  tags := []
  background := none
  scenarios := []
  rules := []

theorem StandsTagged.partsBehind {names : List Text} {place : Cursor}
    (tagged : StandsTagged names place) {opening document : Feature}
    (reads : partsBehind opening language place = some (document, last)) :
    OpensWith names document.tagLists := by
  rcases bind_eq_some_iff.mp reads with ⟨parts, afterParts, partsTaken, reads⟩
  rcases bind_eq_some_iff.mp reads with ⟨_, beforeRules, linesTaken, reads⟩
  rcases bind_eq_some_iff.mp reads with ⟨ruleParts, afterRules, rulesTaken, reads⟩
  rcases bind_eq_some_iff.mp reads with ⟨_, behind, moreLinesTaken, reads⟩
  rcases bind_eq_some_iff.mp reads with ⟨_, _, ended, reads⟩
  cases reads
  rcases tagged.scenarios partsTaken with ⟨rfl, rfl⟩ | opens
  · rw [emptyLines_of_startsPart tagged.starts] at linesTaken
    cases linesTaken
    rcases tagged.rules rulesTaken with ⟨rfl, rfl⟩ | opens
    · rw [emptyLines_of_startsPart tagged.starts] at moreLinesTaken
      cases moreLinesTaken
      simp [atEnd, tagged.spoken] at ended
    · exact opens
  · exact opens.append _

theorem language_of_startsPart (starts : StartsPart cursor.rest) :
    Gherkin.language cursor = some (Language.english, cursor) := by
  have layoutless : (oneBlank <|> lineFeed) cursor = none := by
    rw [orElse_of_refuses (oneBlank_of_startsPart starts), lineFeed_of_startsPart starts]
  have unnamed : languageName cursor = none := by
    rw [languageName, bind_of_reads (many_of_refuses layoutless),
      bind_of_refuses (expecting_of_not_head starts.not_sign)]
  rw [Gherkin.language, bind_of_reads (optional_of_refuses unnamed)]
  rfl

/-- A plain header is taken as a whole, up to the at sign of the first tag. -/
theorem feature_plain {name layout : Text} (isTitle : IsTitle name) (isLayout : IsLayout layout)
    (rest : Text) :
    feature ⟨1, ("Feature: " : Text) ++ (name ++ '\n' :: (layout ++ '@' :: rest))⟩ =
      partsBehind (plainFeature name) Language.english ⟨2 + lineFeeds layout, '@' :: rest⟩ := by
  let opening : Cursor := ⟨1, ("Feature: " : Text) ++ (name ++ '\n' :: (layout ++ '@' :: rest))⟩
  have starts : StartsPart opening.rest := startsPart_cons rfl _
  have unmarked : ∀ head ∈ opening.rest.head?, head ≠ '@' := by
    intro head first
    cases first
    decide
  have startsTags : StartsPart ('@' :: rest) := startsPart_cons rfl rest
  have opens : keyword Language.english.feature opening =
      some (("Feature" : Text), ⟨1, ':' :: ' ' :: (name ++ '\n' :: (layout ++ '@' :: rest))⟩) := by
    rw [keyword_of_startsPart starts]
    rfl
  have noBackground : background Language.english ⟨2 + lineFeeds layout, '@' :: rest⟩ = none := by
    apply background_of_refuses startsTags
    rw [keyword_of_startsPart startsTags]
    rfl
  change feature opening = _
  rw [feature, bind_of_reads (blanks_of_startsPart starts),
    bind_of_reads (language_of_startsPart starts), bind_of_reads (emptyLines_of_startsPart starts),
    bind_of_reads (tags_of_startsPart starts unmarked),
    bind_of_reads (header_append opens isTitle isLayout startsTags)]
  simp only
  rw [bind_of_reads (description_of_tag _ rest),
    bind_of_reads (optional_of_refuses noBackground),
    bind_of_reads (emptyLines_of_startsPart startsTags)]
  rfl

/-! ## Texts behind a plain header -/

/-- A text behind a plain header, with tag lines before it. -/
def wrapped (name indent : Text) (names : List Text) (rest : Text) : Text :=
  ("Feature: " : Text) ++ name ++ ['\n', '\n'] ++ (tagLines indent names ++ rest)

theorem wrapped_append (name indent : Text) (names : List Text) (rest ending : Text) :
    wrapped name indent names rest ++ ending = wrapped name indent names (rest ++ ending) := by
  have regrouped (leading lines : Text) :
      leading ++ (lines ++ rest) ++ ending = leading ++ (lines ++ (rest ++ ending)) := by
    simp only [List.append_assoc]
  exact regrouped _ _

theorem feature_wrapped {name indent : Text} (isTitle : IsTitle name)
    (blank : ∀ character ∈ indent, isBlank character = true) (first : Text) (names : List Text)
    (rest : Text) :
    feature ⟨1, wrapped name indent (first :: names) rest⟩ =
      partsBehind (plainFeature name) Language.english
        ⟨3, '@' :: (first ++ '\n' :: (tagLines indent names ++ rest))⟩ := by
  have regrouped (leading : Text) :
      leading ++ name ++ ['\n', '\n'] ++ (tagLines indent (first :: names) ++ rest) =
        leading ++ (name ++ '\n' :: (('\n' :: indent) ++
          '@' :: (first ++ '\n' :: (tagLines indent names ++ rest)))) := by
    simp only [tagLines_cons, List.append_assoc, List.cons_append, List.nil_append]
  have plain := feature_plain isTitle (isLayout_cons_indent blank)
    (first ++ '\n' :: (tagLines indent names ++ rest))
  rw [lineFeeds_cons_indent blank] at plain
  unfold wrapped
  rw [regrouped]
  exact plain

/-- A last line feed is put behind a text, or nothing is. -/
theorem exists_closedText_eq_append (text : Text) : ∃ ending, closedText text = text ++ ending := by
  unfold closedText
  split
  · exact ⟨[], by simp⟩
  · exact ⟨['\n'], rfl⟩

/-- Tag lines behind a plain header belong to the first part of the document. -/
theorem opensWith_of_ofText {name indent rest : Text} {names : List Text} {document : Feature}
    (isTitle : IsTitle name) (blank : ∀ character ∈ indent, isBlank character = true)
    (tagged : names ≠ []) (areNames : ∀ name ∈ names, IsTagName name)
    (reads : Feature.ofText (wrapped name indent names rest) = some document) :
    OpensWith names document.tagLists := by
  cases names with
  | nil => exact absurd rfl tagged
  | cons first names =>
      rcases exists_closedText_eq_append (wrapped name indent (first :: names) rest) with
        ⟨ending, closed⟩
      rcases Option.map_eq_some_iff.mp reads with ⟨⟨_, last⟩, taken, rfl⟩
      rw [closed, wrapped_append, feature_wrapped isTitle blank] at taken
      have stands := standsTagged_tagLines blank (areNames first List.mem_cons_self)
        (fun other member => areNames other (List.mem_cons_of_mem first member)) 3 (rest ++ ending)
      exact stands.partsBehind taken

end Scenarist.Gherkin
