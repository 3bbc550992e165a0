import Scenarist.Proofs.Comment.NormalForm
import Scenarist.Proofs.Excerpt.Provenance

/-! # Tagged texts line by line

Tagging a cleaned text writes two lines before it. Of the lines of the text it
rewrites at most one: the first header without a title takes the title that the
function gives. Neither undoes what cleaning has reached, and whether the text is
a feature stays as it was. -/

namespace Scenarist.Provenance

open Text Comment

/-! ## Titles -/

/-- The function is named as a test is, and its name goes on with more than underscores. -/
def GivesTitle (identifier title : Text) : Prop :=
  ∃ beginning ∈ (["Test_", "test_"] : List Text), ∃ name, identifier = beginning ++ name ∧
    (∃ character ∈ name, character ≠ '_') ∧ title = trim (spaceUnderscores name)

theorem findSome?_strip_append {beginning : Text} (known : beginning ∈ testBeginnings)
    (name : Text) :
    (testBeginnings.findSome? fun other => strip other (beginning ++ name)) = some name := by
  simp only [testBeginnings, List.mem_cons, List.not_mem_nil, or_false] at known
  rcases known with rfl | rfl <;> rfl

theorem exists_ne_underscore_iff {name : Text}
    (plain : ∀ character ∈ name, continuesName character = true) :
    (∃ character ∈ name, character ≠ '_') ↔ trim (spaceUnderscores name) ≠ [] := by
  rw [Ne, trim_eq_nil_iff, isBlankText, Bool.not_eq_true, List.all_eq_false]
  constructor
  · rintro ⟨character, member, different⟩
    refine ⟨character, List.mem_map.mpr ⟨character, member, if_neg different⟩, ?_⟩
    simp [isSpace_of_continuesName (plain character member)]
  · rintro ⟨character, member, visible⟩
    rcases List.mem_map.mp member with ⟨source, inName, rfl⟩
    refine ⟨source, inName, ?_⟩
    rintro rfl
    exact visible rfl

theorem title?_eq_some_iff {identifier title : Text}
    (plain : ∀ character ∈ identifier, continuesName character = true) :
    title? identifier = some title ↔ GivesTitle identifier title := by
  constructor
  · intro titled
    rcases Option.bind_eq_some_iff.mp titled with ⟨name, stripped, given⟩
    rcases List.exists_of_findSome?_eq_some stripped with ⟨beginning, known, whole⟩
    rw [strip_eq_some_iff] at whole
    have namePlain : ∀ character ∈ name, continuesName character = true :=
      fun character member => plain character (whole ▸ List.mem_append_right beginning member)
    by_cases empty : (trim (spaceUnderscores name)).isEmpty = true
    · simp [empty] at given
    · have spoken : trim (spaceUnderscores name) ≠ [] := by simpa using empty
      have isTitle : trim (spaceUnderscores name) = title := by simpa [empty] using given
      exact ⟨beginning, known, name, whole, (exists_ne_underscore_iff namePlain).mpr spoken,
        isTitle.symm⟩
  · rintro ⟨beginning, known, name, rfl, visible, rfl⟩
    have namePlain : ∀ character ∈ name, continuesName character = true :=
      fun character member => plain character (List.mem_append_right beginning member)
    have spoken : trim (spaceUnderscores name) ≠ [] :=
      (exists_ne_underscore_iff namePlain).mp visible
    rw [title?, findSome?_strip_append known]
    simp [spoken]

theorem GivesTitle.not_mem {identifier title : Text} (gives : GivesTitle identifier title)
    (plain : ∀ character ∈ identifier, continuesName character = true) {mark : Char}
    (notSpace : mark ≠ ' ') (ends : continuesName mark = false) : mark ∉ title := by
  rcases gives with ⟨beginning, -, name, rfl, -, rfl⟩
  intro member
  rcases List.mem_map.mp ((trim_within _).subset member) with ⟨source, inName, written⟩
  split at written
  · exact notSpace written.symm
  · rw [← written, plain source (List.mem_append_right beginning inName)] at ends
    cases ends

/-! ## The header that takes the title -/

/-- A header with nothing behind it. -/
def LacksTitle (line : Text) : Prop :=
  trim line = ("Scenario:" : Text) ∨ trim line = ("Example:" : Text)

theorem isUntitledHeader_iff (line : Text) : isUntitledHeader line = true ↔ LacksTitle line := by
  rw [isUntitledHeader, LacksTitle, Bool.or_eq_true, decide_eq_true_iff, decide_eq_true_iff]

/-- At most one line is rewritten: the first header that lacks a title, if the function gives
one. -/
inductive Retitles (identifier : Text) : (before after : List Text) → Prop
  | titleless {content : List Text} (titleless : ∀ title, ¬GivesTitle identifier title) :
      Retitles identifier content content
  | headless {content : List Text} (headless : ∀ line ∈ content, ¬LacksTitle line) :
      Retitles identifier content content
  | header {before after : List Text} {line title : Text}
      (gives : GivesTitle identifier title) (quiet : ∀ other ∈ before, ¬LacksTitle other)
      (lacks : LacksTitle line) :
      Retitles identifier (before ++ line :: after)
        (before ++ (indentation line ++ trim line ++ ' ' :: title) :: after)

theorem entitleFirst_of_headless {title : Text} {content : List Text}
    (headless : ∀ line ∈ content, ¬LacksTitle line) : entitleFirst title content = none := by
  induction content with
  | nil => rfl
  | cons line content induction =>
      rcases List.forall_mem_cons.mp headless with ⟨notHeader, othersHeadless⟩
      rw [← isUntitledHeader_iff] at notHeader
      rw [entitleFirst, if_neg notHeader, induction othersHeadless, Option.map_none]

theorem entitleFirst_append {title line : Text} {before : List Text}
    (quiet : ∀ other ∈ before, ¬LacksTitle other) (lacks : LacksTitle line) (after : List Text) :
    entitleFirst title (before ++ line :: after) =
      some (before ++ entitleLine title line :: after) := by
  induction before with
  | nil => rw [List.nil_append, entitleFirst, if_pos ((isUntitledHeader_iff line).mpr lacks),
      List.nil_append]
  | cons other before induction =>
      rcases List.forall_mem_cons.mp quiet with ⟨notHeader, othersQuiet⟩
      rw [← isUntitledHeader_iff] at notHeader
      rw [List.cons_append, entitleFirst, if_neg notHeader, induction othersQuiet, Option.map_some,
        List.cons_append]

theorem headless_or_exists_header (content : List Text) :
    (∀ line ∈ content, ¬LacksTitle line) ∨ ∃ before line after, content = before ++ line :: after ∧
      (∀ other ∈ before, ¬LacksTitle other) ∧ LacksTitle line := by
  cases found : content.find? isUntitledHeader with
  | none =>
      refine .inl fun line member => ?_
      rw [← isUntitledHeader_iff]
      exact List.find?_eq_none.mp found line member
  | some line =>
      rcases List.find?_eq_some_iff_append.mp found with ⟨isHeader, before, after, whole, quiet⟩
      refine .inr ⟨before, line, after, whole, ?_, (isUntitledHeader_iff line).mp isHeader⟩
      intro other member
      rw [← isUntitledHeader_iff]
      simpa using quiet other member

theorem not_lacksTitle_nil : ¬LacksTitle [] := by
  rw [← isUntitledHeader_iff]
  decide

theorem exists_entitled {identifier : Text} {content : List Text} (areLines : AreLines content)
    (plain : ∀ character ∈ identifier, continuesName character = true) : ∃ titled,
    Retitles identifier content titled ∧
      entitled (unlines content) identifier = unlines titled := by
  cases given : title? identifier with
  | none =>
      refine ⟨content, .titleless fun title gives => ?_, by simp [entitled, given]⟩
      rw [← title?_eq_some_iff plain, given] at gives
      cases gives
  | some title =>
      have gives : GivesTitle identifier title := (title?_eq_some_iff plain).mp given
      rcases headless_or_exists_header content with
        headless | ⟨before, line, after, rfl, quiet, lacks⟩
      · refine ⟨content, .headless headless, ?_⟩
        have allHeadless : ∀ line ∈ content ++ [[]], ¬LacksTitle line := by
          intro line member
          rcases List.mem_append.mp member with inContent | isLast
          · exact headless line inContent
          · exact List.mem_singleton.mp isLast ▸ not_lacksTitle_nil
        simp [entitled, given, entitle?, split_unlines areLines,
          entitleFirst_of_headless allHeadless]
      · refine ⟨_, .header gives quiet lacks, ?_⟩
        have entitles : entitle? title (unlines (before ++ line :: after)) =
            some (unlines (before ++ entitleLine title line :: after)) := by
          rw [entitle?, split_unlines areLines, List.append_assoc, List.cons_append,
            entitleFirst_append quiet lacks, Option.map_some, ← List.cons_append,
            ← List.append_assoc, join_concat_nil]
        rw [entitled, given, Option.bind_eq_bind, Option.bind_some, entitles, Option.getD_some,
          entitleLine]

/-! ## Headers with and without their title -/

/-- A header that lacks a title, cut at its first letter. -/
theorem LacksTitle.exists_cons {line : Text} (lacks : LacksTitle line) :
    ∃ head rest, trim line = head :: rest ∧ (head = 'S' ∨ head = 'E') ∧
      '\n' ∉ trim line ∧ '\t' ∉ trim line := by
  rcases lacks with isScenario | isExample
  · rw [isScenario]
    exact ⟨_, _, rfl, .inl rfl, by decide, by decide⟩
  · rw [isExample]
    exact ⟨_, _, rfl, .inr rfl, by decide, by decide⟩

theorem isSpace_of_header {head : Char} (begins : head = 'S' ∨ head = 'E') :
    isSpace head = false := by
  rcases begins with rfl | rfl <;> rfl

section

variable {identifier line title : Text} (lacks : LacksTitle line)
include lacks

theorem LacksTitle.indentation_append (rest : Text) :
    indentation (indentation line ++ trim line ++ rest) = indentation line := by
  rcases lacks.exists_cons with ⟨head, others, isHeader, begins, -⟩
  rw [isHeader, List.append_assoc, List.cons_append, indentation,
    List.takeWhile_append_of_pos isSpace_of_mem_indentation,
    List.takeWhile_cons_of_neg (by simp [isSpace_of_header begins]), List.append_nil]

variable (gives : GivesTitle identifier title)
  (plain : ∀ character ∈ identifier, continuesName character = true)
include gives plain

theorem LacksTitle.normalLine_retitled (normal : NormalLine line) :
    NormalLine (indentation line ++ trim line ++ ' ' :: title) := by
  rcases lacks.exists_cons with ⟨head, others, isHeader, begins, -, tabless⟩
  have titleTabless : '\t' ∉ title := gives.not_mem plain (by decide) rfl
  have titleReturnless : '\r' ∉ title := gives.not_mem plain (by decide) rfl
  have notSlash : head ≠ '/' := by rcases begins with rfl | rfl <;> decide
  rw [isHeader] at tabless
  rw [isHeader, List.append_assoc, List.cons_append]
  apply normal.indentation_append (isSpace_of_header begins) notSlash
  · rw [← List.cons_append]
    exact List.not_mem_append tabless (by simp [titleTabless])
  · intro returned
    rw [← List.cons_append, List.getLast?_append] at returned
    have ending : '\r' ∈ ' ' :: title := List.mem_of_getLast? (by simpa using returned)
    simp [titleReturnless] at ending

theorem LacksTitle.lineFeed_not_mem_retitled (lineFeedless : '\n' ∉ line) :
    '\n' ∉ indentation line ++ trim line ++ ' ' :: title := by
  rcases lacks.exists_cons with ⟨head, others, -, -, headerLineFeedless, -⟩
  have titleLineFeedless : '\n' ∉ title := gives.not_mem plain (by decide) rfl
  have indentLineFeedless : '\n' ∉ indentation line :=
    fun feed => lineFeedless ((List.takeWhile_prefix isSpace).subset feed)
  simp [indentLineFeedless, headerLineFeedless, titleLineFeedless]

end

/-! ## The kind of a text -/

/-- Whether the first line that says more than tags and comments opens a feature. -/
def opensFeature : List Text → Bool
  | [] => false
  | line :: rest =>
    if saysMore (trim line) then (strip "Feature:" (trim line)).isSome else opensFeature rest

theorem isFeature_unlines {content : List Text} (areLines : AreLines content)
    (normalLines : ∀ line ∈ content, NormalLine line) :
    isFeature (unlines content) = opensFeature content := by
  have returnless : content.map dropReturn = content.map id :=
    List.map_congr_left fun line member => if_neg (normalLines line member).returnless
  rw [isFeature, lines_unlines areLines, returnless, List.map_id]
  clear areLines normalLines returnless
  induction content with
  | nil => rfl
  | cons line content induction =>
      rw [List.map_cons, List.find?_cons, opensFeature, ← induction]
      cases saysMore (trim line) <;> rfl

/-- A line that begins as a header of a scenario does decides that the text is no feature. -/
theorem opensFeature_of_header {line kept : Text} {head : Char}
    (trimmed : trim line = head :: kept) (begins : head = 'S' ∨ head = 'E') (rest : List Text) :
    opensFeature (line :: rest) = false := by
  rw [opensFeature, trimmed]
  rcases begins with rfl | rfl <;> rfl

theorem opensFeature_append_congr {first second : List Text} (before : List Text)
    (same : opensFeature first = opensFeature second) :
    opensFeature (before ++ first) = opensFeature (before ++ second) := by
  induction before with
  | nil => exact same
  | cons line before induction =>
      rw [List.cons_append, List.cons_append, opensFeature, opensFeature, induction]

theorem opensFeature_tag {indent : Text} (spaces : ∀ character ∈ indent, isSpace character = true)
    (name : Text) (rest : List Text) :
    opensFeature ((indent ++ '@' :: name) :: rest) = opensFeature rest := by
  rcases exists_trim_eq_cons spaces (by rfl : isSpace '@' = false) name with ⟨kept, trimmed⟩
  rw [opensFeature, trimmed]
  rfl

/-! ## What giving a title keeps -/

namespace Retitles

variable {identifier : Text} {content titled : List Text}

theorem forall_mem {property : Text → Prop} (retitles : Retitles identifier content titled)
    (kept : ∀ line ∈ content, property line)
    (rewritten : ∀ line title, GivesTitle identifier title → LacksTitle line → property line →
      property (indentation line ++ trim line ++ ' ' :: title)) :
    ∀ line ∈ titled, property line := by
  cases retitles with
  | titleless => exact kept
  | headless => exact kept
  | header gives quiet lacks =>
      rw [List.forall_mem_append, List.forall_mem_cons] at kept ⊢
      exact ⟨kept.1, rewritten _ _ gives lacks kept.2.1, kept.2.2⟩

theorem exists_cons {first : Text} {others : List Text}
    (retitles : Retitles identifier (first :: others) titled) :
    ∃ newFirst newOthers, titled = newFirst :: newOthers ∧
      indentation newFirst = indentation first := by
  generalize whole : first :: others = content at retitles
  cases retitles with
  | titleless => exact ⟨first, others, whole.symm, rfl⟩
  | headless => exact ⟨first, others, whole.symm, rfl⟩
  | @header before after line title gives quiet lacks =>
      cases before with
      | nil =>
          cases whole
          exact ⟨_, _, rfl, lacks.indentation_append (' ' :: title)⟩
      | cons other before =>
          cases whole
          exact ⟨_, _, rfl, rfl⟩

theorem opensFeature_eq (retitles : Retitles identifier content titled) :
    opensFeature titled = opensFeature content := by
  cases retitles with
  | titleless => rfl
  | headless => rfl
  | @header before after line title gives quiet lacks =>
      rcases lacks.exists_cons with ⟨head, rest, isHeader, begins, -⟩
      have indented : ∀ character ∈ indentation line, isSpace character = true :=
        isSpace_of_mem_indentation
      rcases exists_trim_eq_cons indented (isSpace_of_header begins) (rest ++ ' ' :: title) with
        ⟨kept, trimmed⟩
      rw [← List.cons_append, ← isHeader, ← List.append_assoc] at trimmed
      apply opensFeature_append_congr
      rw [opensFeature_of_header trimmed begins, opensFeature_of_header isHeader begins]

end Retitles

/-! ## Tagged texts -/

/-- The two lines of the tags, indented like the first line of the text, and its lines. -/
def taggedLines (first file identifier : Text) (titled : List Text) : List Text :=
  (indentation first ++ (("@file:" : Text) ++ tagValue file)) ::
    (indentation first ++ (("@test:" : Text) ++ tagValue identifier)) :: titled

theorem taggedLines_eq (first file identifier : Text) (titled : List Text) :
    taggedLines first file identifier titled =
      (tagNames file identifier).map (fun name => indentation first ++ '@' :: name) ++ titled := rfl

theorem isSpace_of_mem_tagNames {file identifier name : Text}
    (member : name ∈ tagNames file identifier) :
    ∀ character ∈ name, isSpace character = false := by
  have spaceless : ∀ word value : Text, word.any isSpace = false →
      ∀ character ∈ word ++ tagValue value, isSpace character = false := by
    intro word value wordSpaceless character inName
    rcases List.mem_append.mp inName with inWord | inValue
    · exact Bool.eq_false_iff.mpr (List.any_eq_false.mp wordSpaceless character inWord)
    · exact isSpace_of_mem_tagValue inValue
  simp only [tagNames, List.mem_cons, List.not_mem_nil, or_false] at member
  rcases member with rfl | rfl
  · exact spaceless _ file (by decide)
  · exact spaceless _ identifier (by decide)

section

variable {first file identifier : Text} {titled : List Text}

theorem areLines_taggedLines (lineFeedless : '\n' ∉ first) (areTitled : AreLines titled) :
    AreLines (taggedLines first file identifier titled) := by
  rw [AreLines, taggedLines_eq, List.forall_mem_append, List.forall_mem_map]
  refine ⟨fun name member => ?_, areTitled⟩
  apply List.not_mem_append
  · exact fun feed => lineFeedless ((List.takeWhile_prefix isSpace).subset feed)
  · intro feed
    rcases List.mem_cons.mp feed with isSign | inName
    · exact absurd isSign (by decide)
    · cases isSpace_of_mem_tagNames member '\n' inName

theorem normalLine_taggedLines (normal : NormalLine first)
    (normalTitled : ∀ line ∈ titled, NormalLine line) :
    ∀ line ∈ taggedLines first file identifier titled, NormalLine line := by
  rw [taggedLines_eq, List.forall_mem_append, List.forall_mem_map]
  refine ⟨fun name member => ?_, normalTitled⟩
  have spaceless := isSpace_of_mem_tagNames member
  apply normal.indentation_append rfl (by decide)
  · intro tab
    rcases List.mem_cons.mp tab with isSign | inName
    · exact absurd isSign (by decide)
    · cases spaceless '\t' inName
  · intro returned
    rcases List.mem_cons.mp (List.mem_of_getLast? returned) with isSign | inName
    · exact absurd isSign (by decide)
    · cases spaceless '\r' inName

theorem opensFeature_taggedLines :
    opensFeature (taggedLines first file identifier titled) = opensFeature titled := by
  rw [taggedLines_eq, tagNames, List.map_cons, List.map_cons, List.map_nil, List.cons_append,
    List.cons_append, List.nil_append, opensFeature_tag isSpace_of_mem_indentation,
    opensFeature_tag isSpace_of_mem_indentation]

/-- The indentation of the tags is not changed by the title. -/
theorem tag_eq_unlines {others : List Text}
    (retitles : Retitles identifier (first :: others) titled) (areTitled : AreLines titled)
    (normalTitled : ∀ line ∈ titled, NormalLine line)
    (isTitled : entitled (unlines (first :: others)) identifier = unlines titled) :
    tag (unlines (first :: others)) file identifier =
      unlines (taggedLines first file identifier titled) := by
  rcases retitles.exists_cons with ⟨newFirst, newOthers, rfl, indented⟩
  have returnless := (normalTitled newFirst List.mem_cons_self).returnless
  have indent : blockIndent (unlines (first :: others)) identifier = indentation first := by
    rw [blockIndent, isTitled, lines_unlines areTitled, List.map_cons, List.headD_cons, dropReturn,
      if_neg returnless, indented]
  rw [tag_eq_tagLines, indent, isTitled, taggedLines_eq, unlines_append, Gherkin.tagLines]

end

/-- A tagged text consists of two lines, one for each tag, and of the lines of the cleaned text, of
which only the first header without a title may be rewritten, to take the title that the function
gives. It is still clean, and it is a feature if the text is one, and only then. -/
theorem tag_clean {source file identifier : Text} (spoken : clean source ≠ [])
    (plain : ∀ character ∈ identifier, continuesName character = true) :
    ∃ first others titled, clean source = unlines (first :: others) ∧
      AreLines (first :: others) ∧ Retitles identifier (first :: others) titled ∧
      tag (clean source) file identifier = unlines (taggedLines first file identifier titled) ∧
      AreLines (taggedLines first file identifier titled) ∧
      clean (tag (clean source) file identifier) = tag (clean source) file identifier ∧
      isFeature (tag (clean source) file identifier) = isFeature (clean source) := by
  rcases (normal_clean source).exists_unlines with ⟨content, areLines, normalLines, whole⟩
  rw [whole] at spoken ⊢
  cases content with
  | nil => exact absurd rfl spoken
  | cons first others =>
      rcases exists_entitled areLines plain with ⟨titled, retitles, isTitled⟩
      have areTitled : AreLines titled := retitles.forall_mem areLines
        fun line title gives lacks => lacks.lineFeed_not_mem_retitled gives plain
      have normalTitled : ∀ line ∈ titled, NormalLine line := retitles.forall_mem normalLines
        fun line title gives lacks => lacks.normalLine_retitled gives plain
      have areTagged : AreLines (taggedLines first file identifier titled) :=
        areLines_taggedLines (areLines first List.mem_cons_self) areTitled
      have normalTagged : ∀ line ∈ taggedLines first file identifier titled, NormalLine line :=
        normalLine_taggedLines (normalLines first List.mem_cons_self) normalTitled
      have tagged : tag (unlines (first :: others)) file identifier =
          unlines (taggedLines first file identifier titled) :=
        tag_eq_unlines retitles areTitled normalTitled isTitled
      have stillClean := (normal_unlines areTagged normalTagged).clean_eq_self
      have sameKind : isFeature (unlines (taggedLines first file identifier titled)) =
          isFeature (unlines (first :: others)) := by
        rw [isFeature_unlines areTagged normalTagged, opensFeature_taggedLines,
          retitles.opensFeature_eq, isFeature_unlines areLines normalLines]
      rw [tagged]
      exact ⟨first, others, titled, rfl, areLines, retitles, rfl, areTagged, stillClean, sameKind⟩

/-! A test that gives its scenario a title, and a file with a space in its name. -/

def loginComment : Text :=
  "// Scenario:\n//   Given a user"

theorem tag_clean_login :
    (clean loginComment ≠ [] ∧
      ∀ character ∈ ("Test_user_logs_in" : Text), continuesName character = true) ∧
    ∃ first others titled, clean loginComment = unlines (first :: others) ∧
      AreLines (first :: others) ∧ Retitles "Test_user_logs_in" (first :: others) titled ∧
      tag (clean loginComment) "my login.go" "Test_user_logs_in" =
        unlines (taggedLines first "my login.go" "Test_user_logs_in" titled) ∧
      AreLines (taggedLines first "my login.go" "Test_user_logs_in" titled) ∧
      clean (tag (clean loginComment) "my login.go" "Test_user_logs_in") =
        tag (clean loginComment) "my login.go" "Test_user_logs_in" ∧
      isFeature (tag (clean loginComment) "my login.go" "Test_user_logs_in") =
        isFeature (clean loginComment) := by
  have cleaned : clean loginComment = ("Scenario:\n   Given a user\n" : Text) := by cbv
  have spoken : clean loginComment ≠ [] := by
    rw [cleaned]
    decide
  have plain : ∀ character ∈ ("Test_user_logs_in" : Text), continuesName character = true :=
    List.all_eq_true.mp (by decide)
  exact ⟨⟨spoken, plain⟩, tag_clean spoken plain⟩

end Scenarist.Provenance
