import Scenarist.Load
import Scenarist.Proofs.Excerpt.Concatenation
import Scenarist.Proofs.Gherkin.TagLaws

/-! # The provenance of scenarios

The two tags that tell where a bare scenario was lifted from are written as text
before its block, and only reading the document makes tags of them. Whatever
parser reads it, they come to stand on the first part of the block, as long as
the parser keeps the laws of tags. -/

namespace Scenarist

open Text Comment Gherkin

namespace Provenance

/-- The names of the tags that tell where a scenario comes from. -/
def tagNames (file identifier : Text) : List Text :=
  [("file:" : Text) ++ tagValue file, ("test:" : Text) ++ tagValue identifier]

/-- The indentation of the block's first line. -/
def blockIndent (text identifier : Text) : Text :=
  indentation ((lines (entitled text identifier)).headD [])

/-! ## Tags as text -/

theorem fileTag_eq_cons : fileTag = '@' :: ("file:" : Text) := rfl

theorem testTag_eq_cons : testTag = '@' :: ("test:" : Text) := rfl

theorem tag_eq_tagLines (text file identifier : Text) :
    tag text file identifier =
      tagLines (blockIndent text identifier) (tagNames file identifier) ++
        entitled text identifier := by
  simp only [tag, tagLines, tagNames, blockIndent, fileTag_eq_cons, testTag_eq_cons,
    List.map_cons, List.map_nil, unlines_cons, unlines_nil, List.append_assoc, List.cons_append,
    List.nil_append]

theorem tagValue_eq_self {value : Text}
    (spaceless : ∀ character ∈ value, isSpace character = false) : tagValue value = value := by
  have same : tagValue value = value.map id := by
    apply List.map_congr_left
    intro character member
    simp [spaceless character member]
  rw [same, List.map_id]

theorem isSpace_of_mem_tagValue {character : Char} {value : Text}
    (member : character ∈ tagValue value) : isSpace character = false := by
  rcases List.mem_map.mp member with ⟨source, -, rfl⟩
  split
  · rfl
  · next visible => simpa using visible

theorem isTagCharacter_of_mem_tagValue {value : Text} (unmarked : '@' ∉ value) :
    ∀ character ∈ tagValue value, isTagCharacter character = true := by
  intro character member
  rcases List.mem_map.mp member with ⟨source, inValue, rfl⟩
  by_cases space : isSpace source = true
  · rw [if_pos space]
    decide
  · have notSign : source ≠ '@' := fun sign => unmarked (sign ▸ inValue)
    simp [isTagCharacter, space, notSign]

theorem isTagName_of_mem_tagNames {file identifier : Text} (fileUnmarked : '@' ∉ file)
    (identifierUnmarked : '@' ∉ identifier) :
    ∀ name ∈ tagNames file identifier, IsTagName name := by
  have isName : ∀ beginning value : Text, beginning ≠ [] → '@' ∉ value →
      (∀ character ∈ beginning, isTagCharacter character = true) →
        IsTagName (beginning ++ tagValue value) := by
    intro beginning value spoken unmarked plain
    refine ⟨by simp [spoken], ?_⟩
    intro character member
    rcases List.mem_append.mp member with inBeginning | inValue
    · exact plain character inBeginning
    · exact isTagCharacter_of_mem_tagValue unmarked character inValue
  intro name member
  simp only [tagNames, List.mem_cons, List.not_mem_nil, or_false] at member
  rcases member with rfl | rfl
  · exact isName _ file (by decide) fileUnmarked (List.all_eq_true.mp (by decide))
  · exact isName _ identifier (by decide) identifierUnmarked (List.all_eq_true.mp (by decide))

theorem nodup_tagNames (file identifier : Text) : (tagNames file identifier).Nodup := by
  simp [tagNames]

/-- The tags are indented like the block. -/
theorem indentation_tag (text file identifier : Text) :
    indentation (tag text file identifier) = blockIndent text identifier := by
  have spaces : ∀ character ∈ blockIndent text identifier, isSpace character = true :=
    List.all_eq_true.mp List.all_takeWhile
  have sign : isSpace '@' = false := rfl
  rw [tag_eq_tagLines, tagNames, tagLines_cons, indentation,
    List.takeWhile_append_of_pos spaces, List.takeWhile_cons_of_neg (by simp [sign]),
    List.append_nil]

/-! ## Titles write no tags -/

theorem sign_not_mem_title {identifier title : Text} (unmarked : '@' ∉ identifier)
    (titled : title? identifier = some title) : '@' ∉ title := by
  rcases Option.bind_eq_some_iff.mp titled with ⟨name, stripped, titled⟩
  rcases List.exists_of_findSome?_eq_some stripped with ⟨beginning, -, whole⟩
  rw [strip_eq_some_iff] at whole
  have isTitle : trim (spaceUnderscores name) = title := by
    by_cases empty : (trim (spaceUnderscores name)).isEmpty = true
    · simp [empty] at titled
    · simpa [empty] using titled
  intro member
  rw [← isTitle] at member
  rcases List.mem_map.mp ((trim_within _).subset member) with ⟨source, inName, spaced⟩
  split at spaced
  · cases spaced
  · apply unmarked
    rw [whole, ← spaced]
    exact List.mem_append_right beginning inName

theorem sign_not_mem_entitleLine {title header : Text} (untitled : isUntitledHeader header = true)
    (unmarked : '@' ∉ title) : '@' ∉ entitleLine title header := by
  have isHeader : '@' ∉ trim header := by
    simp only [isUntitledHeader, Bool.or_eq_true, decide_eq_true_eq] at untitled
    rcases untitled with isScenario | isExample
    · rw [isScenario]
      decide
    · rw [isExample]
      decide
  intro member
  simp only [entitleLine, List.mem_append, List.mem_cons] at member
  rcases member with (inIndent | inHeader) | isSpace | inTitle
  · have space := List.all_eq_true.mp List.all_takeWhile '@' inIndent
    cases space
  · exact isHeader inHeader
  · exact absurd isSpace (by decide)
  · exact unmarked inTitle

/-- Giving a title changes no line but a header without a title. -/
theorem mem_of_entitleFirst {title : Text} {content titled : List Text}
    (found : entitleFirst title content = some titled) :
    ∀ line ∈ titled, line ∈ content ∨
      ∃ header, isUntitledHeader header = true ∧ line = entitleLine title header := by
  induction content generalizing titled with
  | nil => cases found
  | cons first content induction =>
      rw [entitleFirst] at found
      intro line member
      split at found
      · next untitled =>
          cases found
          rcases List.mem_cons.mp member with rfl | inContent
          · exact .inr ⟨first, untitled, rfl⟩
          · exact .inl (List.mem_cons_of_mem first inContent)
      · rcases Option.map_eq_some_iff.mp found with ⟨others, othersFound, rfl⟩
        rcases List.mem_cons.mp member with rfl | inOthers
        · exact .inl List.mem_cons_self
        · exact (induction othersFound line inOthers).imp_left (List.mem_cons_of_mem first)

theorem writes_of_entitled {text identifier name : Text} (unmarked : '@' ∉ identifier)
    (writes : Writes (entitled text identifier) name) : Writes text name := by
  cases found : (title? identifier) >>= fun title => entitle? title text with
  | none => rwa [entitled, found] at writes
  | some titled =>
      rw [entitled, found] at writes
      rcases Option.bind_eq_some_iff.mp found with ⟨title, titleFound, entitles⟩
      rcases Option.map_eq_some_iff.mp entitles with ⟨content, contentFound, rfl⟩
      rcases exists_infix_of_join (by simp) (lineFeed_not_mem_tag writes.1) writes.2 with
        ⟨line, member, inLine⟩
      rcases mem_of_entitleFirst contentFound line member with inText | ⟨header, untitled, rfl⟩
      · exact ⟨writes.1, inLine.trans (infix_of_mem_split inText)⟩
      · have marked : '@' ∈ entitleLine title header := inLine.subset List.mem_cons_self
        exact absurd marked
          (sign_not_mem_entitleLine untitled (sign_not_mem_title unmarked titleFound))

end Provenance

/-! ## Documents of bare scenarios -/

theorem isName_of_mem_occurrencesFrom {markers : Markers} {place : Place} {source : Text}
    {block : Block} {identifier : Text}
    (member : .block block ∈ occurrencesFrom markers place source)
    (named : block.identifier = some identifier) : IsName identifier := by
  fun_induction occurrencesFrom markers place source with
  | case1 => cases member
  | case2 place source before capture isUnclosed =>
      cases List.mem_singleton.mp member
  | case3 place source pieces isClosed induction =>
      rcases List.mem_cons.mp member with isFirst | inOthers
      · cases isFirst
        rcases Option.bind_eq_some_iff.mp named with ⟨text, -, declared⟩
        exact isName_of_declaredName declared
      · exact induction inOthers

/-- A bare scenario comes from a block of the source that belongs to a function. -/
theorem exists_block_of_scenario {markers : Markers} {file source identifier : Text}
    {excerpt : Excerpt} (lifted : excerpt ∈ (extract markers file source).excerpts)
    (isScenario : excerpt.kind = .scenario identifier) :
    ∃ block, .block block ∈ occurrences markers source ∧ IsName identifier ∧
      excerpt.text = Provenance.tag (Excerpt.cleanBlock block) file identifier := by
  rw [excerpts_extract] at lifted
  rcases List.mem_filterMap.mp lifted with ⟨⟨occurrence, index⟩, numbered, found⟩
  have member := List.fst_mem_of_mem_zipIdx numbered
  rcases Excerpt.cases_of_ofOccurrence (Excerpt.ofNumbered?_eq_some_iff.mp found) with
    ⟨block, rfl, rfl | ⟨function, named, rfl⟩⟩
  · cases isScenario
  · cases isScenario
    exact ⟨block, member, isName_of_mem_occurrencesFrom member named, rfl⟩

theorem isTitle_of_isName {name : Text} (proper : IsName name) : IsTitle name := by
  apply isTitle_of_not_space
  · rintro rfl
    exact proper
  · intro character member
    exact isSpace_of_continuesName (proper.continuesName character member)

theorem featureSource_of_tag {excerpt : Excerpt} {text file identifier : Text}
    (isScenario : excerpt.kind = .scenario identifier)
    (tagged : excerpt.text = Provenance.tag text file identifier) :
    excerpt.featureSource = wrapped identifier (Provenance.blockIndent text identifier)
      (Provenance.tagNames file identifier) (Provenance.entitled text identifier) := by
  rw [Excerpt.featureSource, isScenario, tagged, Provenance.tag_eq_tagLines]
  rfl

section

variable [Gherkin.Parser]

/-- The document of a tagged text carries both tags on its first part. -/
theorem openedBy_of_tag (laws : ReadsTags) {text file identifier : Text}
    {document : Gherkin.Feature} (proper : IsName identifier) (unmarked : '@' ∉ file)
    (blank : ∀ character ∈ Provenance.blockIndent text identifier, isBlank character = true)
    (reads : Parser.parse (wrapped identifier (Provenance.blockIndent text identifier)
      (Provenance.tagNames file identifier) (Provenance.entitled text identifier)) =
        .ok document) :
    OpenedBy (Provenance.tagNames file identifier) text document.tagLists := by
  have identifierUnmarked : '@' ∉ identifier := proper.not_mem rfl
  have opened := laws.openedBy (isTitle_of_isName proper) identifierUnmarked blank
    (by simp [Provenance.tagNames])
    (Provenance.isTagName_of_mem_tagNames unmarked identifierUnmarked) reads
  apply opened.of_writes
  intro name
  exact Provenance.writes_of_entitled identifierUnmarked

/-- The tags of provenance stand first on the first scenario or rule of a bare scenario's block.
All other tags of the document are written in the block, so each tag of provenance occurs just
once if the block does not write it itself. -/
theorem provenance_of_scenario (laws : ReadsTags) {markers : Markers}
    {file source identifier : Text} {excerpt : Excerpt} {document : Gherkin.Feature}
    (lifted : excerpt ∈ (extract markers file source).excerpts)
    (isScenario : excerpt.kind = .scenario identifier)
    (reads : excerptFeature excerpt = .ok document) (unmarked : '@' ∉ file)
    (indented : ∀ character ∈ indentation excerpt.text, isBlank character = true) :
    ∃ block, .block block ∈ occurrences markers source ∧
      excerpt.text = Provenance.tag (Excerpt.cleanBlock block) file identifier ∧
      OpenedBy (Provenance.tagNames file identifier) (Excerpt.cleanBlock block)
        document.tagLists ∧
      ∀ name ∈ Provenance.tagNames file identifier, ¬Writes (Excerpt.cleanBlock block) name →
        OnlyFirst name document.tagLists := by
  rcases exists_block_of_scenario lifted isScenario with ⟨block, member, proper, tagged⟩
  rw [tagged, Provenance.indentation_tag] at indented
  have opened : OpenedBy (Provenance.tagNames file identifier) (Excerpt.cleanBlock block)
      document.tagLists := by
    rw [excerptFeature, featureSource_of_tag isScenario tagged] at reads
    split at reads
    · cases reads
    · next feature taken =>
        cases reads
        have onFeature : OpenedBy (Provenance.tagNames file identifier)
            (Excerpt.cleanBlock block) feature.tagLists :=
          openedBy_of_tag laws proper unmarked indented taken
        exact onFeature
  refine ⟨block, member, tagged, opened, ?_⟩
  intro name inNames unwritten
  exact opened.onlyFirst (Provenance.nodup_tagNames file identifier) inNames unwritten

/-- The source yields the excerpt of a scenario, which is read as the document. -/
def ReadsScenario (file source identifier : Text) (excerpt : Excerpt)
    (document : Gherkin.Feature) : Prop :=
  excerpt ∈ (extract {} file source).excerpts ∧ excerpt.kind = .scenario identifier ∧
    excerptFeature excerpt = .ok document

/-- Every scenario of the document, in a rule or not, carries each tag of provenance once. -/
def CarriesProvenance (file identifier : Text) (document : Gherkin.Feature) : Prop :=
  ∀ placed ∈ document.placed, ∀ name ∈ Provenance.tagNames file identifier,
    placed.2.tags.count name = 1

/-- The document has a scenario that does not carry its provenance once. -/
def MissesProvenance (file source identifier : Text) (excerpt : Excerpt)
    (document : Gherkin.Feature) : Prop :=
  ReadsScenario file source identifier excerpt document ∧
    ¬CarriesProvenance file identifier document

end

/-! ## Documents as the reader reads them -/

theorem readsScenario_of_single {file source identifier : Text} {excerpt : Excerpt}
    {document : Gherkin.Feature} (lifted : (extract {} file source).excerpts = [excerpt])
    (isScenario : excerpt.kind = .scenario identifier)
    (taken : Gherkin.Feature.ofText excerpt.featureSource = some { document with path := none })
    (path : document.path = some excerpt.uri) :
    ReadsScenario file source identifier excerpt document := by
  refine ⟨lifted ▸ List.mem_singleton_self excerpt, isScenario, ?_⟩
  rw [excerptFeature, parse_eq_ok_iff.mpr taken, ← path]

/-! Two scenarios in one block, of which only the first is tagged. -/

def paymentSource : Text :=
  "// [gherkin]\n// Scenario: pay\n// Scenario: owe\n// [end]\nfunc Test_money(\n"

def paymentExcerpt : Excerpt :=
  ⟨.scenario "Test_money", "@file:a.go\n@test:Test_money\nScenario: pay\nScenario: owe\n",
    "a.go", 1⟩

def paymentDocument : Gherkin.Feature :=
  { plainFeature "Test_money" with
    path := some "a.go/a.Test_money.feature"
    scenarios :=
      [⟨"Scenario", "pay", none, ["file:a.go", "test:Test_money"], 5, [], []⟩,
        ⟨"Scenario", "owe", none, [], 6, [], []⟩] }

theorem readsScenario_payment :
    ReadsScenario "a.go" paymentSource "Test_money" paymentExcerpt paymentDocument :=
  readsScenario_of_single (by decide +kernel) rfl (by decide +kernel) (by decide +kernel)

theorem provenance_of_scenario_payment :
    (@ReadsTags reader ∧ paymentExcerpt ∈ (extract {} "a.go" paymentSource).excerpts ∧
      paymentExcerpt.kind = .scenario "Test_money" ∧
      excerptFeature paymentExcerpt = .ok paymentDocument ∧ '@' ∉ ("a.go" : Text) ∧
      ∀ character ∈ indentation paymentExcerpt.text, isBlank character = true) ∧
    ∃ block, .block block ∈ occurrences {} paymentSource ∧
      paymentExcerpt.text = Provenance.tag (Excerpt.cleanBlock block) "a.go" "Test_money" ∧
      OpenedBy (Provenance.tagNames "a.go" "Test_money") (Excerpt.cleanBlock block)
        paymentDocument.tagLists ∧
      ∀ name ∈ Provenance.tagNames "a.go" "Test_money",
        ¬Writes (Excerpt.cleanBlock block) name → OnlyFirst name paymentDocument.tagLists := by
  rcases readsScenario_payment with ⟨lifted, isScenario, reads⟩
  have unmarked : '@' ∉ ("a.go" : Text) := by decide
  have indented : ∀ character ∈ indentation paymentExcerpt.text, isBlank character = true :=
    List.all_eq_true.mp (by decide)
  exact ⟨⟨readsTags_reader, lifted, isScenario, reads, unmarked, indented⟩,
    provenance_of_scenario readsTags_reader lifted isScenario reads unmarked indented⟩

theorem not_carriesProvenance_of_count {file identifier name : Text} {document : Gherkin.Feature}
    {placed : Placed} (member : placed ∈ document.placed)
    (inNames : name ∈ Provenance.tagNames file identifier)
    (miscounted : placed.2.tags.count name ≠ 1) :
    ¬CarriesProvenance file identifier document :=
  fun carries => miscounted (carries placed member name inNames)

theorem missesProvenance_payment :
    MissesProvenance "a.go" paymentSource "Test_money" paymentExcerpt paymentDocument :=
  ⟨readsScenario_payment, not_carriesProvenance_of_count
    (List.mem_cons_of_mem _ List.mem_cons_self) List.mem_cons_self (by decide)⟩

/-! A file with an at sign in its name, which parts the tag of the file. -/

def signedSource : Text :=
  "// [gherkin]\n// Scenario: pay\n// [end]\nfunc Test_money(\n"

def signedExcerpt : Excerpt :=
  ⟨.scenario "Test_money", "@file:a@b.go\n@test:Test_money\nScenario: pay\n", "a@b.go", 1⟩

def signedDocument : Gherkin.Feature :=
  { plainFeature "Test_money" with
    path := some "a@b.go/a@b.Test_money.feature"
    scenarios := [⟨"Scenario", "pay", none, ["file:a", "b.go", "test:Test_money"], 5, [], []⟩] }

theorem missesProvenance_signed :
    MissesProvenance "a@b.go" signedSource "Test_money" signedExcerpt signedDocument :=
  ⟨readsScenario_of_single (by decide +kernel) rfl (by decide +kernel) (by decide +kernel),
    not_carriesProvenance_of_count List.mem_cons_self List.mem_cons_self (by decide)⟩

/-! A block that is indented by spaces other than blanks, behind which no tag is read. -/

def spacedSource : Text :=
  "// [gherkin]\n//\u00a0\u00a0Scenario: pay\n// Scenario: owe\n// [end]\nfunc Test_money(\n"

def spacedExcerpt : Excerpt where
  kind := .scenario "Test_money"
  text := unlines ["\u00a0\u00a0@file:a.go", "\u00a0\u00a0@test:Test_money",
    "\u00a0\u00a0Scenario: pay", "Scenario: owe"]
  file := "a.go"
  index := 1

def spacedDocument : Gherkin.Feature :=
  { plainFeature "Test_money" with
    path := some "a.go/a.Test_money.feature"
    description :=
      some "\u00a0\u00a0@file:a.go\n\u00a0\u00a0@test:Test_money\n\u00a0\u00a0Scenario: pay"
    scenarios := [⟨"Scenario", "owe", none, [], 6, [], []⟩] }

theorem missesProvenance_spaced :
    MissesProvenance "a.go" spacedSource "Test_money" spacedExcerpt spacedDocument :=
  ⟨readsScenario_of_single (by decide +kernel) rfl (by decide +kernel) (by decide +kernel),
    not_carriesProvenance_of_count List.mem_cons_self List.mem_cons_self (by decide)⟩

/-! A block that writes a tag of its provenance itself, which is then carried twice. -/

def taggedSource : Text :=
  "// [gherkin]\n// @file:a.go\n// Scenario: pay\n// [end]\nfunc Test_money(\n"

def taggedExcerpt : Excerpt where
  kind := .scenario "Test_money"
  text := unlines ["@file:a.go", "@test:Test_money", "@file:a.go", "Scenario: pay"]
  file := "a.go"
  index := 1

def taggedDocument : Gherkin.Feature :=
  { plainFeature "Test_money" with
    path := some "a.go/a.Test_money.feature"
    scenarios :=
      [⟨"Scenario", "pay", none, ["file:a.go", "test:Test_money", "file:a.go"], 6, [], []⟩] }

theorem missesProvenance_tagged :
    MissesProvenance "a.go" taggedSource "Test_money" taggedExcerpt taggedDocument :=
  ⟨readsScenario_of_single (by decide +kernel) rfl (by decide +kernel) (by decide +kernel),
    not_carriesProvenance_of_count List.mem_cons_self List.mem_cons_self (by decide)⟩

/-- Not every scenario carries its provenance once: the second scenario of a block does not,
nor do those of a file with an at sign in its name, of a block indented by other spaces than
blanks and of a block that writes such a tag itself. -/
theorem not_carriesProvenance :
    MissesProvenance "a.go" paymentSource "Test_money" paymentExcerpt paymentDocument ∧
      MissesProvenance "a@b.go" signedSource "Test_money" signedExcerpt signedDocument ∧
      MissesProvenance "a.go" spacedSource "Test_money" spacedExcerpt spacedDocument ∧
      MissesProvenance "a.go" taggedSource "Test_money" taggedExcerpt taggedDocument ∧
      ¬∀ [Gherkin.Parser], ReadsTags → ∀ (markers : Markers) (file source identifier : Text)
          (excerpt : Excerpt) (document : Gherkin.Feature),
        excerpt ∈ (extract markers file source).excerpts →
          excerpt.kind = .scenario identifier → excerptFeature excerpt = .ok document →
            CarriesProvenance file identifier document := by
  refine ⟨missesProvenance_payment, missesProvenance_signed, missesProvenance_spaced,
    missesProvenance_tagged, ?_⟩
  intro carries
  rcases missesProvenance_payment with ⟨⟨lifted, isScenario, reads⟩, missed⟩
  exact missed (carries readsTags_reader {} "a.go" paymentSource "Test_money" paymentExcerpt
    paymentDocument lifted isScenario reads)

end Scenarist
