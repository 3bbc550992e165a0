import Scenarist.Proofs.Excerpt.Provenance
import Scenarist.Proofs.Tag.SingleTag

/-! # Filtering by provenance

The tags of provenance are meant to be filtered by. Only whitespace is taken out
of their values, so the text of such a tag is a filter for it if the file or the
function has no separator of filters in its name. A function never has one. -/

namespace Scenarist.Provenance

open Text Comment Tag

theorem mem_tagValue_iff {character : Char} (visible : isSpace character = false)
    (notUnderscore : character ≠ '_') (value : Text) :
    character ∈ tagValue value ↔ character ∈ value := by
  rw [tagValue, List.mem_map]
  constructor
  · intro written
    rcases written with ⟨source, member, same⟩
    split at same
    · exact absurd same.symm notUnderscore
    · exact same ▸ member
  · intro member
    exact ⟨character, member, by simp [visible]⟩

theorem ampersands_infix_tagValue_iff (value : Text) :
    ['&', '&'] <:+: tagValue value ↔ ['&', '&'] <:+: value := by
  constructor
  · intro within
    rcases List.infix_map_iff.mp within with ⟨piece, inValue, written⟩
    have ampersand : ∀ character,
        '&' = (if isSpace character = true then '_' else character) → character = '&' := by
      intro character same
      split at same
      · exact absurd same (by decide)
      · exact same.symm
    rcases List.map_eq_cons_iff.mp written.symm with ⟨first, others, rfl, firstSame, othersSame⟩
    rcases List.map_eq_singleton_iff.mp othersSame with ⟨second, rfl, secondSame⟩
    rwa [ampersand first firstSame.symm, ampersand second secondSame.symm] at inValue
  · intro within
    exact within.map fun character => if isSpace character then '_' else character

theorem holdsSeparator_tagValue_iff (value : Text) :
    HoldsSeparator (tagValue value) ↔ HoldsSeparator value := by
  rw [HoldsSeparator, HoldsSeparator, ampersands_infix_tagValue_iff,
    mem_tagValue_iff rfl (by decide), mem_tagValue_iff rfl (by decide),
    mem_tagValue_iff rfl (by decide)]

theorem ampersands_infix_append_iff {beginning : Text} (plain : '&' ∉ beginning) (value : Text) :
    ['&', '&'] <:+: beginning ++ value ↔ ['&', '&'] <:+: value := by
  induction beginning with
  | nil => rfl
  | cons head beginning induction =>
      rcases List.ne_and_not_mem_of_not_mem_cons plain with ⟨different, othersPlain⟩
      rw [List.cons_append, List.infix_cons_iff, induction othersPlain, List.cons_prefix_cons]
      simp [different]

/-- Whether a character neither ends a tag nor parts a filter. -/
def isPlain (character : Char) : Bool :=
  !isSpace character && !("@(),&" : Text).contains character

structure PlainBeginning (beginning : Text) : Prop where
  spoken : beginning ≠ []
  plain : ∀ character ∈ beginning, isPlain character = true

theorem PlainBeginning.not_mem {beginning : Text} (plain : PlainBeginning beginning)
    {separator : Char} (parts : isPlain separator = false) : separator ∉ beginning := by
  intro member
  rw [plain.plain separator member] at parts
  cases parts

theorem PlainBeginning.holdsSeparator_append_iff {beginning : Text}
    (plain : PlainBeginning beginning) (value : Text) :
    HoldsSeparator (beginning ++ value) ↔ HoldsSeparator value := by
  have ampersand : '&' ∉ beginning := plain.not_mem rfl
  have opening : '(' ∉ beginning := plain.not_mem rfl
  have closing : ')' ∉ beginning := plain.not_mem rfl
  have comma : ',' ∉ beginning := plain.not_mem rfl
  simp [HoldsSeparator, ampersands_infix_append_iff ampersand, opening, closing, comma]

theorem PlainBeginning.selectsItself_iff {beginning : Text} (plain : PlainBeginning beginning)
    (value : Text) :
    SelectsItself ('@' :: (beginning ++ tagValue value)) ↔ ¬HoldsSeparator value := by
  have unsigned : bare (beginning ++ tagValue value) = beginning ++ tagValue value := by
    cases beginning with
    | nil => exact absurd rfl plain.spoken
    | cons head beginning =>
        have unmarked : '@' ∉ head :: beginning := plain.not_mem rfl
        have notSign : head ≠ '@' := fun sign => unmarked (sign ▸ List.mem_cons_self)
        simp [bare, strip, notSign]
  have spaceless : ∀ character ∈ beginning ++ tagValue value, isSpace character = false := by
    intro character member
    rcases List.mem_append.mp member with inBeginning | inValue
    · have isPlain := plain.plain character inBeginning
      simp only [Provenance.isPlain, Bool.and_eq_true, Bool.not_eq_true'] at isPlain
      exact isPlain.1
    · exact isSpace_of_mem_tagValue inValue
  rw [Tag.selectsItself_iff (by simp [plain.spoken]) unsigned spaceless,
    plain.holdsSeparator_append_iff, holdsSeparator_tagValue_iff]

theorem plainBeginning_file : PlainBeginning "file:" :=
  ⟨by decide, List.all_eq_true.mp (by decide)⟩

theorem plainBeginning_test : PlainBeginning "test:" :=
  ⟨by decide, List.all_eq_true.mp (by decide)⟩

theorem not_holdsSeparator_name {name : Text} (proper : IsName name) : ¬HoldsSeparator name := by
  intro separator
  rcases separator with opens | closes | comma | ampersands
  · exact proper.not_mem rfl opens
  · exact proper.not_mem rfl closes
  · exact proper.not_mem rfl comma
  · exact proper.not_mem rfl (ampersands.subset List.mem_cons_self)

/-- The tag of a file, or of a function, is a filter for this tag alone if no separator of filters
stands in its name, and only then. The name of a function never holds one. -/
theorem selectsItself_tags (file identifier : Text) :
    (SelectsItself (fileTag ++ tagValue file) ↔ ¬HoldsSeparator file) ∧
      (SelectsItself (testTag ++ tagValue identifier) ↔ ¬HoldsSeparator identifier) ∧
      (IsName identifier → SelectsItself (testTag ++ tagValue identifier)) := by
  have ofTest : SelectsItself (testTag ++ tagValue identifier) ↔ ¬HoldsSeparator identifier :=
    plainBeginning_test.selectsItself_iff identifier
  refine ⟨plainBeginning_file.selectsItself_iff file, ofTest, ?_⟩
  intro proper
  exact ofTest.mpr (not_holdsSeparator_name proper)

theorem selectsItself_tags_checkout :
    IsName "Test_check_out" ∧ ¬HoldsSeparator "src/my cart & co.go" ∧
      SelectsItself (fileTag ++ tagValue "src/my cart & co.go") ∧
        SelectsItself (testTag ++ tagValue "Test_check_out") := by
  have proper : IsName "Test_check_out" := by decide
  have whole : ¬HoldsSeparator "src/my cart & co.go" := by decide
  rcases selectsItself_tags "src/my cart & co.go" "Test_check_out" with ⟨ofFile, -, ofName⟩
  exact ⟨proper, whole, ofFile.mpr whole, ofName proper⟩

/-- A file with a parenthesis in its name has a tag that is no filter. With a comma, or with two
ampersands, the tag may be a filter, but one that lets other tags pass. -/
theorem not_selectsItself_tags :
    Filter.ofText (fileTag ++ tagValue "pay(1).go") = .error (.notATag "1") ∧
      (∃ filter, Filter.ofText (fileTag ++ tagValue "pay,@owe.go") = .ok filter ∧
        filter.keeps ["@owe.go"] = true) ∧
      (∃ filter, Filter.ofText (fileTag ++ tagValue "pay&&~@owe.go") = .ok filter ∧
        filter.keeps ["@file:pay"] = true) ∧
      ¬∀ file, SelectsItself (fileTag ++ tagValue file) := by
  refine ⟨rfl, ⟨_, rfl, rfl⟩, ⟨_, rfl, rfl⟩, ?_⟩
  intro selects
  exact (plainBeginning_file.selectsItself_iff "pay(1).go").mp (selects "pay(1).go") (by decide)

end Scenarist.Provenance
