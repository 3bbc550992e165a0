import Scenarist.Proofs.Excerpt.Embedding
import Scenarist.Proofs.Excerpt.Provenance
import Scenarist.Proofs.Gherkin.PlainScenario

/-! # Embedded tests, from the source to the suite

A bare scenario of plain steps stands as a comment right before the test that it
belongs to. Each stage hands all of it to the next, and the parser reads plain
scenarios, so the suite has one feature for it with one scenario, which bears the
title that the test gives it, its provenance and its steps in their order. -/

namespace Scenarist

open Text Comment Gherkin

/-- Letters, digits and underscores, with the marks that part a path. -/
def isPlainInPath (character : Char) : Bool :=
  continuesName character || character = '.' || character = '/'

/-- A bare scenario of plain steps in a file, with a test right behind it. The test is named
by its subject. -/
structure EmbeddedTest where
  file : Text
  stem : Text
  subject : Text
  firstStep : PlainStep
  otherSteps : List PlainStep
  plainFile : ∀ character ∈ file, isPlainInPath character = true
  hasStem : Path.stem? file = some stem
  plainSubject : ∀ character ∈ subject, continuesName character = true
  titled : trim (Provenance.spaceUnderscores subject) ≠ []
  leads : firstStep.kind.leads = true

namespace EmbeddedTest

variable (test : EmbeddedTest)

def identifier : Text :=
  ("Test_" : Text) ++ test.subject

def title : Text :=
  trim (Provenance.spaceUnderscores test.subject)

def steps : List PlainStep :=
  test.firstStep :: test.otherSteps

/-- The lines of the comment, with both markers. -/
def comment : List Text :=
  ("// [gherkin]" : Text) :: ("// Scenario:" : Text) ::
    (test.steps.map (fun step => ("//   " : Text) ++ step.line) ++ [("// [end]" : Text)])

/-- The comment with the test behind it. The last line is not ended. -/
def source : Text :=
  unlines test.comment ++
    (("func " : Text) ++ (test.identifier ++ ("(t *testing.T) \x7b\x7d" : Text)))

/-! ## What the suite has for a test -/

def suiteSteps : List Suite.Step :=
  test.steps.mapIdx fun position step => ⟨step.kind.word, step.text, 6 + position, none, none⟩

def scenario : Suite.Scenario where
  keyword := "Scenario"
  name := test.title
  description := []
  tags := [("@file:" : Text) ++ test.file, ("@test:" : Text) ++ test.identifier]
  line := 5
  background := []
  steps := test.suiteSteps
  examples := []

def feature : Suite.Feature where
  uri := test.file ++ ['/'] ++ test.stem ++ ['.'] ++ test.identifier ++ (".feature" : Text)
  keyword := "Feature"
  name := test.identifier
  description := []
  tags := []
  scenarios := [test.scenario]

/-! ## The test as an embedding -/

theorem isName_identifier : IsName test.identifier := by
  refine ⟨rfl, ?_⟩
  intro character member
  rcases List.mem_append.mp member with inBeginning | inSubject
  · exact List.all_eq_true.mp (by decide : ("est_" : Text).all continuesName = true) _ inBeginning
  · exact test.plainSubject character inSubject

def stepIndent : Text :=
  [' ', ' ', ' ']

def bodyLines : List Text :=
  ("Scenario:" : Text) :: test.steps.map fun step => stepIndent ++ step.line

theorem mem_stepLine {step : PlainStep} {character : Char}
    (member : character ∈ stepIndent ++ step.line) :
    character = ' ' ∨ character.isAlphanum = true := by
  rcases List.mem_append.mp member with inIndent | inLine
  · exact .inl (by simpa [stepIndent] using inIndent)
  · exact PlainStep.mem_line inLine

theorem not_mem_stepLine {mark : Char} (notSpace : mark ≠ ' ')
    (notAlphanumeric : mark.isAlphanum = false) (step : PlainStep) :
    mark ∉ stepIndent ++ step.line := by
  intro member
  rcases mem_stepLine member with isSpace | isAlphanumeric
  · exact notSpace isSpace
  · rw [notAlphanumeric] at isAlphanumeric
    cases isAlphanumeric

theorem normalLine_step (step : PlainStep) : NormalLine (stepIndent ++ step.line) := by
  constructor
  · rw [PlainStep.line]
    cases step.kind <;> rfl
  · exact not_mem_stepLine (by decide) rfl step
  · intro returned
    exact not_mem_stepLine (by decide) rfl step (List.mem_of_getLast? returned)
  · intro token
    have slash : '/' ∈ stepIndent ++ step.line :=
      (List.dropWhile_suffix _).subset (token.subset List.mem_cons_self)
    exact not_mem_stepLine (by decide) rfl step slash
  · intro next rest whole
    cases whole
    rfl

theorem forall_mem_bodyLines {holds : Text → Prop} (header : holds ("Scenario:" : Text))
    (steps : ∀ step : PlainStep, holds (stepIndent ++ step.line)) :
    ∀ line ∈ test.bodyLines, holds line := by
  intro line member
  rcases List.mem_cons.mp member with rfl | inSteps
  · exact header
  · rcases List.mem_map.mp inSteps with ⟨step, -, rfl⟩
    exact steps step

theorem areLines_bodyLines : AreLines test.bodyLines :=
  test.forall_mem_bodyLines (by decide) (not_mem_stepLine (by decide) rfl)

theorem normalLines_bodyLines : ∀ line ∈ test.bodyLines, NormalLine line :=
  test.forall_mem_bodyLines (by decide) normalLine_step

theorem bracket_not_mem_body : '[' ∉ unlines test.bodyLines := by
  have absent : ∀ line ∈ test.bodyLines, '[' ∉ line :=
    test.forall_mem_bodyLines (by decide) (not_mem_stepLine (by decide) rfl)
  intro member
  rcases List.mem_flatMap.mp member with ⟨line, inBody, inLine⟩
  rcases List.mem_append.mp inLine with inLine | isFeed
  · exact absent line inBody inLine
  · exact absurd isFeed (by decide)

def function : FunctionLine where
  indent := []
  keyword := "func"
  name := test.identifier
  arguments := "t *testing.T) \x7b\x7d"
  blankIndent := isBlank_of_mem_nil
  knownKeyword := func_mem_functionKeywords
  properName := test.isName_identifier
  onOneLine := by decide

theorem bracket_not_mem_function : '[' ∉ test.function.text := by
  have keyword : '[' ∉ ("func" : Text) := by decide
  have arguments : '[' ∉ '(' :: ("t *testing.T) \x7b\x7d" : Text) := by decide
  intro member
  rcases List.mem_append.mp member with inIndent | member
  · cases inIndent
  · rcases List.mem_append.mp member with inKeyword | member
    · exact keyword inKeyword
    · rcases List.mem_cons.mp member with isSpace | member
      · exact absurd isSpace (by decide)
      · rcases List.mem_append.mp member with inName | inArguments
        · exact test.isName_identifier.not_mem rfl inName
        · exact arguments inArguments

def embedding : Embedding where
  code := []
  indent := []
  body := unlines test.bodyLines
  function := test.function
  isCode := by simp
  blankIndent := isBlank_of_mem_nil
  nonempty := by simp [bodyLines]
  normal := normal_unlines test.areLines_bodyLines test.normalLines_bodyLines
  endless := not_contains_of_not_mem rfl test.bracket_not_mem_body
  isQuiet := not_contains_of_not_mem rfl test.bracket_not_mem_function

theorem comments_embedding : test.embedding.comments =
    ("// Scenario:" : Text) :: test.steps.map fun step => ("//   " : Text) ++ step.line := by
  have lines : test.embedding.bodyLines = test.bodyLines := by
    rw [Embedding.bodyLines, embedding, split_unlines test.areLines_bodyLines, List.dropLast_concat]
  rw [Embedding.comments, lines, bodyLines, List.map_cons, List.map_map]
  rfl

theorem source_append (ending : Text) : test.source ++ ending =
    (test.embedding.pieces [] ('\n' :: (test.function.text ++ ending))).source := by
  have opening : commentLine [] ({} : Markers).start = "// [gherkin]" := by decide
  have closing : commentLine [] ({} : Markers).finish = "// [end]" := by decide
  have comment : test.comment = commentLine test.embedding.indent ({} : Markers).start ::
      (test.embedding.comments ++ [commentLine test.embedding.indent ({} : Markers).finish]) := by
    rw [comments_embedding, comment, ← opening, ← closing]
    rfl
  rw [← Embedding.unlines_comment, ← comment, source, unlines_nil, List.nil_append,
    List.append_assoc]
  rfl

/-! ## Extraction -/

section

variable {ending : Text} (isEnding : ending = [] ∨ ending = ['\n'])

include isEnding

theorem declaredName_function :
    declaredName (test.function.text ++ ending) = some test.function.name := by
  rcases isEnding with rfl | rfl
  · rw [List.append_nil]
    exact test.function.declaredName_text
  · exact test.function.declaredName_eq []

theorem bracket_not_mem_behind : '[' ∉ '\n' :: (test.function.text ++ ending) := by
  intro member
  rcases List.mem_cons.mp member with isFeed | member
  · exact absurd isFeed (by decide)
  · rcases List.mem_append.mp member with inFunction | inEnding
    · exact test.bracket_not_mem_function inFunction
    · rcases isEnding with rfl | rfl
      · cases inEnding
      · exact absurd inEnding (by decide)

theorem extract_source : extract {} test.file (test.source ++ ending) =
    ⟨[test.embedding.excerpt test.file 1], []⟩ := by
  rw [source_append]
  exact extract_pieces test.embedding (by simp) (test.declaredName_function isEnding)
    (not_contains_of_not_mem rfl (test.bracket_not_mem_behind isEnding)) test.file

end

/-! ## The excerpt -/

theorem isFeature_body : Provenance.isFeature (unlines test.bodyLines) = false := by
  rw [Provenance.isFeature, bodyLines, unlines_cons, lines_append_cons (by decide)]
  rfl

def excerpt : Excerpt where
  kind := .scenario test.identifier
  text := Provenance.tag (unlines test.bodyLines) test.file test.identifier
  file := test.file
  index := 1

theorem excerpt_embedding : test.embedding.excerpt test.file 1 = test.excerpt := by
  rw [Embedding.excerpt, if_neg]
  · rfl
  · rw [embedding, isFeature_body]
    decide

/-! ## The document -/

theorem not_mem_spaceUnderscores {mark : Char} (notSpace : mark ≠ ' ')
    (ends : continuesName mark = false) : mark ∉ Provenance.spaceUnderscores test.subject := by
  intro member
  rcases List.mem_map.mp member with ⟨source, inSubject, spaced⟩
  split at spaced
  · exact notSpace spaced.symm
  · have continues := test.plainSubject source inSubject
    rw [spaced, ends] at continues
    cases continues

theorem isTitle_title : IsTitle test.title :=
  isTitle_trim test.titled (test.not_mem_spaceUnderscores (by decide) rfl)
    (test.not_mem_spaceUnderscores (by decide) rfl)

theorem sign_not_mem_file : '@' ∉ test.file := by
  intro member
  cases test.plainFile '@' member

theorem tagValue_file : Provenance.tagValue test.file = test.file := by
  apply Provenance.tagValue_eq_self
  intro character member
  have plain := test.plainFile character member
  simp only [isPlainInPath, Bool.or_eq_true, decide_eq_true_eq] at plain
  rcases plain with (continues | rfl) | rfl
  · exact isSpace_of_continuesName continues
  · rfl
  · rfl

theorem tagValue_identifier : Provenance.tagValue test.identifier = test.identifier := by
  apply Provenance.tagValue_eq_self
  intro character member
  exact isSpace_of_continuesName (test.isName_identifier.continuesName character member)

theorem areTagNames : ∀ name ∈ Provenance.tagNames test.file test.identifier, IsTagName name :=
  Provenance.isTagName_of_mem_tagNames test.sign_not_mem_file
    (test.isName_identifier.not_mem rfl)

/-- The scenario with its title and the tags of its provenance. -/
def plain : PlainScenario where
  title := test.title
  firstTag := ("file:" : Text) ++ Provenance.tagValue test.file
  otherTags := [("test:" : Text) ++ Provenance.tagValue test.identifier]
  firstStep := test.firstStep
  otherSteps := test.otherSteps
  isTitle := test.isTitle_title
  firstIsName := test.areTagNames _ List.mem_cons_self
  othersAreNames name member := test.areTagNames name (List.mem_cons_of_mem _ member)
  leads := test.leads

theorem title?_identifier : Provenance.title? test.identifier = some test.title := by
  have stripped : Provenance.testBeginnings.findSome? (fun beginning =>
      strip beginning test.identifier) = some test.subject := rfl
  have spoken : (trim (Provenance.spaceUnderscores test.subject)).isEmpty = false := by
    simpa using test.titled
  rw [Provenance.title?, stripped]
  simp only [Option.bind_eq_bind, Option.bind_some, spoken]
  rfl

theorem entitled_body :
    Provenance.entitled (unlines test.bodyLines) test.identifier = test.plain.body stepIndent := by
  have untitled : Provenance.isUntitledHeader ("Scenario:" : Text) = true := by decide
  have entitles : Provenance.entitle? test.title (unlines test.bodyLines) =
      some (unlines (Provenance.entitleLine test.title ("Scenario:" : Text) ::
        test.steps.map fun step => stepIndent ++ step.line)) := by
    rw [Provenance.entitle?, split_unlines test.areLines_bodyLines, bodyLines, List.cons_append,
      Provenance.entitleFirst, if_pos untitled, Option.map_some, ← List.cons_append,
      join_concat_nil]
  rw [Provenance.entitled, title?_identifier]
  simp only [Option.bind_eq_bind, Option.bind_some, entitles, Option.getD_some, unlines_cons]
  rfl

theorem blockIndent_body :
    Provenance.blockIndent (unlines test.bodyLines) test.identifier = [] := by
  have headed : test.plain.body stepIndent = (("Scenario: " : Text) ++ test.title) ++
      '\n' :: unlines (test.steps.map fun step => stepIndent ++ step.line) := rfl
  have lineFeedless : '\n' ∉ ("Scenario: " : Text) ++ test.title :=
    List.not_mem_append (by decide) test.isTitle_title.lineFeedless
  have returnless : '\r' ∉ ("Scenario: " : Text) ++ test.title :=
    List.not_mem_append (by decide) test.isTitle_title.returnless
  rw [Provenance.blockIndent, entitled_body, headed, lines_append_cons lineFeedless,
    List.headD_cons, dropReturn_of_not_mem returnless]
  rfl

theorem featureSource_excerpt : test.excerpt.featureSource =
    wrapped test.identifier [] test.plain.tags (test.plain.body stepIndent) := by
  rw [featureSource_of_tag rfl rfl, blockIndent_body, entitled_body]
  rfl

theorem uri_excerpt : test.excerpt.uri = test.feature.uri := by
  rw [Excerpt.uri, excerpt]
  simp only [test.hasStem]
  rfl

/-- The document of the scenario behind its header. -/
def document : Gherkin.Feature :=
  { plainFeature test.identifier with
    path := some test.feature.uri
    scenarios := [test.plain.toDocument 5] }

theorem excerptFeature_excerpt [Gherkin.Parser] (law : ReadsPlainScenarios) :
    excerptFeature test.excerpt = .ok test.document := by
  have blank : ∀ character ∈ stepIndent, isBlank character = true :=
    List.all_eq_true.mp (by decide)
  have reads := law test.plain (isTitle_of_isName test.isName_identifier) blank
    isBlank_of_mem_nil
  rw [excerptFeature, featureSource_excerpt, reads, uri_excerpt]
  rfl

/-! ## The suite -/

/-- The default filter, as it is read. -/
def notInProgress : Tag.Filter where
  text := Tag.Filter.default
  expr := some (.negation (.tag "wip"))

theorem filterOf_default : filterOf Tag.Filter.default = .ok notInProgress := rfl

theorem ofDocument_toDocument (step : PlainStep) (line : Nat) :
    Suite.Step.ofDocument (step.toDocument line) =
      ⟨step.kind.word, step.text, line, none, none⟩ := by
  have word : trim (step.kind.word ++ [' ']) = step.kind.word := by
    cases step.kind <;> rfl
  rw [Suite.Step.ofDocument, PlainStep.toDocument]
  simp only [word]

theorem map_toDocuments :
    (PlainStep.toDocuments test.steps 6).map Suite.Step.ofDocument = test.suiteSteps := by
  apply List.ext_getElem?
  intro position
  simp [PlainStep.toDocuments, suiteSteps, ofDocument_toDocument, Function.comp_def]

theorem ordered_document : test.document.ordered = [(none, test.plain.toDocument 5)] := by
  rw [Gherkin.Feature.ordered]
  exact List.mergeSort_singleton _

theorem keeps_scenario :
    notInProgress.keeps (Suite.mergedTags test.document (none, test.plain.toDocument 5)) = true :=
  rfl

theorem markedTags_plain : Suite.markedTags test.plain.tags =
    [("@file:" : Text) ++ test.file, ("@test:" : Text) ++ test.identifier] := by
  have tags : test.plain.tags =
      [("file:" : Text) ++ Provenance.tagValue test.file,
        ("test:" : Text) ++ Provenance.tagValue test.identifier] := rfl
  have fileTag : Suite.markedTag (("file:" : Text) ++ test.file) =
      ("@file:" : Text) ++ test.file := rfl
  have testTag : Suite.markedTag (("test:" : Text) ++ test.identifier) =
      ("@test:" : Text) ++ test.identifier := rfl
  rw [tags, tagValue_file, tagValue_identifier, Suite.markedTags, List.map_cons, List.map_cons,
    List.map_nil, fileTag, testTag]

theorem ofDocument_scenario :
    Suite.Scenario.ofDocument [] (none, test.plain.toDocument 5) = test.scenario := by
  have converted : Suite.Scenario.ofDocument [] (none, test.plain.toDocument 5) =
      ⟨"Scenario", test.title, [], Suite.markedTags test.plain.tags, 5, [],
        (PlainStep.toDocuments test.steps 6).map Suite.Step.ofDocument, []⟩ := rfl
  rw [converted, markedTags_plain, map_toDocuments]
  rfl

theorem build_document : Suite.build notInProgress [test.document] = [test.feature] := by
  have kept : test.document.ordered.filter (fun placed =>
      notInProgress.keeps (Suite.mergedTags test.document placed)) =
        [(none, test.plain.toDocument 5)] := by
    rw [ordered_document, List.filter_cons, keeps_scenario]
    rfl
  have whole : Suite.Feature.ofPlaced test.document [(none, test.plain.toDocument 5)] =
      test.feature := by
    have converted : Suite.Feature.ofPlaced test.document [(none, test.plain.toDocument 5)] =
        ⟨test.feature.uri, "Feature", test.identifier, [], [],
          [Suite.Scenario.ofDocument [] (none, test.plain.toDocument 5)]⟩ := rfl
    rw [converted, ofDocument_scenario]
    rfl
  have filtered : Suite.Feature.filtered notInProgress test.document = some test.feature := by
    simp only [Suite.Feature.filtered, kept, whole]
    rfl
  rw [Suite.build, List.filterMap_cons, filtered]
  rfl

/-- A source with an embedded test in it makes exactly one feature under the default filter,
with nothing of the test lost. -/
theorem loadFeatures_source [Gherkin.Parser] (law : ReadsPlainScenarios) {files : Files}
    {ending : Text} (reads : files.read test.file = .ok (test.source ++ ending))
    (isEnding : ending = [] ∨ ending = ['\n']) :
    (filterOf Tag.Filter.default >>= fun filter => loadFeatures files {} filter [] [test.file]) =
      .ok [test.feature] := by
  have extracted : extractFile files {} test.file = .ok ⟨[test.excerpt], []⟩ := by
    rw [extractFile, reads]
    simp only [test.extract_source isEnding, excerpt_embedding]
  have extractions : [test.file].mapM (extractFile files {}) = .ok [⟨[test.excerpt], []⟩] := by
    rw [List.mapM_cons, extracted]
    rfl
  have documents : [test.excerpt].mapM excerptFeature = .ok [test.document] := by
    rw [List.mapM_cons, test.excerptFeature_excerpt law]
    rfl
  have loaded : loadDocuments files {} [] [test.file] = .ok [test.document] := by
    rw [loadDocuments, extractions]
    change ([test.excerpt].mapM excerptFeature >>= fun embedded => pure ([] ++ embedded)) = _
    rw [documents]
    rfl
  rw [filterOf_default]
  change loadFeatures files {} notInProgress [] [test.file] = _
  rw [loadFeatures, loaded]
  exact congrArg Except.ok test.build_document

/-! A file in a directory, whose test has two steps. -/

def checkoutTest : EmbeddedTest where
  file := "shop/checkout_test.go"
  stem := "checkout_test"
  subject := "pay_by_card_"
  firstStep := ⟨.action, ["the", "card", "is", "charged"], by decide, by decide⟩
  otherSteps := [⟨.conjunction, ["2", "receipts", "are", "sent"], by decide, by decide⟩]
  plainFile := List.all_eq_true.mp (by decide)
  hasStem := by decide
  plainSubject := List.all_eq_true.mp (by decide)
  titled := by decide
  leads := rfl

def checkoutSource : Text :=
  unlines ["// [gherkin]", "// Scenario:", "//   When the card is charged",
    "//   And 2 receipts are sent", "// [end]",
    "func Test_pay_by_card_(t *testing.T) \x7b\x7d"]

def checkoutFiles : Files where
  kind _ := some .file
  read _ := .ok checkoutSource
  below _ := []

def checkoutScenario : Suite.Scenario where
  keyword := "Scenario"
  name := "pay by card"
  description := []
  tags := ["@file:shop/checkout_test.go", "@test:Test_pay_by_card_"]
  line := 5
  background := []
  steps := [⟨"When", "the card is charged", 6, none, none⟩,
    ⟨"And", "2 receipts are sent", 7, none, none⟩]
  examples := []

def checkoutFeature : Suite.Feature where
  uri := "shop/checkout_test.go/checkout_test.Test_pay_by_card_.feature"
  keyword := "Feature"
  name := "Test_pay_by_card_"
  description := []
  tags := []
  scenarios := [checkoutScenario]

theorem source_checkoutTest : checkoutTest.source ++ ['\n'] = checkoutSource := by
  decide +kernel

theorem feature_checkoutTest : checkoutTest.feature = checkoutFeature := rfl

theorem loadFeatures_source_checkout :
    (@ReadsPlainScenarios reader ∧
      checkoutFiles.read checkoutTest.file = .ok (checkoutTest.source ++ ['\n']) ∧
      (['\n'] = ([] : Text) ∨ ['\n'] = ['\n'])) ∧
    (filterOf Tag.Filter.default >>= fun filter =>
      loadFeatures checkoutFiles {} filter [] [checkoutTest.file]) = .ok [checkoutFeature] := by
  have reads : checkoutFiles.read checkoutTest.file = .ok (checkoutTest.source ++ ['\n']) := by
    rw [source_checkoutTest]
    rfl
  have isEnding : ['\n'] = ([] : Text) ∨ ['\n'] = ['\n'] := .inr rfl
  have loaded := checkoutTest.loadFeatures_source readsPlainScenarios_reader reads isEnding
  rw [feature_checkoutTest] at loaded
  exact ⟨⟨readsPlainScenarios_reader, reads, isEnding⟩, loaded⟩

end EmbeddedTest

end Scenarist
