import Scenarist.Proofs.Excerpt.Embedding

/-! # Excerpts of sources with more text before them

Whatever the blocks in the lines before a source come to, the excerpts of the
source are lifted out of it as from the source alone. Only the numbers of their
blocks differ. -/

namespace Scenarist

open Text Comment

/-! ## The excerpts of an extraction -/

theorem excerpts_ofOutcomes (outcomes : List (Except Excerpt.Skip Excerpt)) :
    (Extraction.ofOutcomes outcomes).excerpts = outcomes.filterMap Except.toOption := by
  induction outcomes with
  | nil => rfl
  | cons outcome outcomes induction =>
      rw [Extraction.ofOutcomes] at induction ⊢
      cases outcome with
      | error skip =>
          rw [List.filterMap_cons_none rfl, ← induction]
          rfl
      | ok excerpt =>
          have some : Except.toOption (.ok excerpt : Except Excerpt.Skip Excerpt) =
              .some excerpt := rfl
          rw [List.filterMap_cons_some some, ← induction]
          rfl

namespace Excerpt

/-- The same excerpt with more blocks before its own. -/
def after (blocks : Nat) (excerpt : Excerpt) : Excerpt :=
  { excerpt with index := excerpt.index + blocks }

/-- What an excerpt says, whatever the number of its block. -/
def content (excerpt : Excerpt) : Kind × Text :=
  (excerpt.kind, excerpt.text)

/-- The same skip with more lines before its own. -/
def Skip.below (lines : Nat) (skip : Skip) : Skip :=
  { skip with line := skip.line + lines }

/-- What a block comes to with more blocks and lines before it. -/
def outcomeBehind (blocks lines : Nat) : Except Skip Excerpt → Except Skip Excerpt
  | .ok excerpt => .ok (excerpt.after blocks)
  | .error skip => .error (skip.below lines)

theorem ofOccurrence_below (file : Text) (index blocks lines : Nat) (occurrence : Occurrence) :
    ofOccurrence file (index + blocks) (occurrence.below lines) =
      outcomeBehind blocks lines (ofOccurrence file index occurrence) := by
  cases occurrence with
  | unterminated line capture => rfl
  | block block =>
      have cleaned : cleanBlock { block with line := block.line + lines } = cleanBlock block := rfl
      simp only [Occurrence.below, ofOccurrence, ofBlock, cleaned]
      by_cases empty : (cleanBlock block).isEmpty = true
      · simp only [empty, if_true]
        rfl
      · by_cases isFeature : Provenance.isFeature (cleanBlock block) = true
        · simp only [empty, isFeature, if_true]
          rfl
        · simp only [empty, isFeature]
          cases block.identifier <;> rfl

theorem toOption_ofOccurrence_below (file : Text) (index blocks lines : Nat)
    (occurrence : Occurrence) :
    (ofOccurrence file (index + blocks) (occurrence.below lines)).toOption =
      (ofOccurrence file index occurrence).toOption.map (after blocks) := by
  rw [ofOccurrence_below]
  cases ofOccurrence file index occurrence <;> rfl

theorem toOption_ofOccurrence_of_open (file : Text) (index : Nat) {occurrence : Occurrence}
    (isOpen : occurrence.isClosed = false) :
    (ofOccurrence file index occurrence).toOption = none := by
  cases occurrence with
  | unterminated line capture => rfl
  | block block => cases isOpen

end Excerpt

namespace Excerpt

/-- All that a block may yield: a feature, or the tagged scenario of a function. -/
theorem cases_of_ofOccurrence {file : Text} {index : Nat} {occurrence : Occurrence}
    {excerpt : Excerpt} (outcome : ofOccurrence file index occurrence = .ok excerpt) :
    ∃ block, occurrence = .block block ∧
      (excerpt = ⟨.feature block.identifier, cleanBlock block, file, index⟩ ∨
        ∃ identifier, block.identifier = some identifier ∧
          excerpt = ⟨.scenario identifier, Provenance.tag (cleanBlock block) file identifier,
            file, index⟩) := by
  cases occurrence with
  | unterminated line capture => cases outcome
  | block block =>
      refine ⟨block, rfl, ?_⟩
      simp only [ofOccurrence, ofBlock] at outcome
      split at outcome
      · cases outcome
      · split at outcome
        · cases outcome
          exact .inl rfl
        · split at outcome
          · cases outcome
          · next identifier named =>
              cases outcome
              exact .inr ⟨identifier, named, rfl⟩

/-- What an occurrence comes to, with the number of its block. -/
def ofNumbered? (file : Text) (numbered : Occurrence × Nat) : Option Excerpt :=
  (ofOccurrence file numbered.2 numbered.1).toOption

theorem ofNumbered?_eq_some_iff {file : Text} {numbered : Occurrence × Nat} {excerpt : Excerpt} :
    ofNumbered? file numbered = some excerpt ↔
      ofOccurrence file numbered.2 numbered.1 = .ok excerpt := by
  rw [ofNumbered?]
  cases ofOccurrence file numbered.2 numbered.1 <;> simp [Except.toOption]

end Excerpt

theorem excerpts_extract (markers : Markers) (file source : Text) :
    (extract markers file source).excerpts =
      ((occurrences markers source).zipIdx 1).filterMap (Excerpt.ofNumbered? file) := by
  have fromOne : (occurrences markers source).zipIdx 1 =
      (occurrences markers source).zipIdx.map fun numbered => (numbered.1, numbered.2 + 1) :=
    List.zipIdx_succ ..
  rw [extract, excerpts_ofOutcomes, List.mapIdx_eq_zipIdx_map, List.filterMap_map, fromOne,
    List.filterMap_map]
  rfl

section

variable {markers : Markers} {before source : Text}

theorem excerpts_extract_append {earlier : List Occurrence} {lines : Nat}
    (found : occurrences markers (before ++ source) =
      earlier ++ (occurrences markers source).map (Occurrence.below lines)) (file : Text) :
    ∃ first, (extract markers file (before ++ source)).excerpts =
      first ++ (extract markers file source).excerpts.map (Excerpt.after earlier.length) := by
  refine ⟨(earlier.zipIdx 1).filterMap (Excerpt.ofNumbered? file), ?_⟩
  rw [excerpts_extract, excerpts_extract, found, List.zipIdx_append, List.filterMap_append,
    List.zipIdx_map, Nat.add_comm 1, ← List.map_snd_add_zipIdx_eq_zipIdx, List.map_map,
    List.filterMap_map, List.map_filterMap]
  congr 2
  funext numbered
  exact Excerpt.toOption_ofOccurrence_below file numbered.2 earlier.length lines numbered.1

end

/-! ## Lines before a source -/

/-- A start marker of the source is followed by no end marker. -/
def LeavesOpen (source : Text) : Prop :=
  ∃ occurrence ∈ occurrences {} source, occurrence.isClosed = false

/-- Behind the text before it, a source yields last what it yields alone. -/
def KeepsExcerpts (file before source : Text) : Prop :=
  (extract {} file source).excerpts.map Excerpt.content <:+
    (extract {} file (before ++ source)).excerpts.map Excerpt.content

theorem excerpts_eq_nil_of_endless {source : Text}
    (endless : ¬Contains ({} : Markers).finish source) (file : Text) :
    (extract {} file source).excerpts = [] := by
  rw [excerpts_extract, List.filterMap_eq_nil_iff]
  intro numbered member
  have isOpen := not_isClosed_of_not_contains endless numbered.1 (List.fst_mem_of_mem_zipIdx member)
  exact Excerpt.toOption_ofOccurrence_of_open file numbered.2 isOpen

theorem occurrences_append {before source : Text} (ended : IsEnded before)
    (settled : (∀ occurrence ∈ occurrences {} before, occurrence.isClosed = true) ∨
      ClosesFirst {} source) :
    ∃ earlier, occurrences {} (before ++ source) =
      earlier ++ (occurrences {} source).map (Occurrence.below (lineFeeds before)) := by
  have found := occurrencesFrom_append_of_ended start_nonempty lineFeed_not_mem_start
    lineFeed_not_mem_finish [] ended settled
  rwa [List.nil_append, Place.behind_ended ended, occurrencesFrom_below] at found

/-- Ended lines before a source leave its excerpts as they are, and only count their blocks
before those of the source, unless the lines leave a start marker open and the source opens a
block before it closes this one. -/
theorem extract_append (file before source : Text) (ended : before.getLast? = some '\n')
    (settled : ¬(LeavesOpen before ∧ OpensFirst {} source)) :
    KeepsExcerpts file before source ∧
      ∃ blocks first, (extract {} file (before ++ source)).excerpts =
        first ++ (extract {} file source).excerpts.map (Excerpt.after blocks) := by
  have appended : ∃ blocks first, (extract {} file (before ++ source)).excerpts =
      first ++ (extract {} file source).excerpts.map (Excerpt.after blocks) := by
    by_cases endless : Contains ({} : Markers).finish source
    · have resumes : (∀ occurrence ∈ occurrences {} before, occurrence.isClosed = true) ∨
          ClosesFirst {} source := by
        by_cases leavesOpen : LeavesOpen before
        · exact .inr (closesFirst_of_not_opensFirst endless fun opens =>
            settled ⟨leavesOpen, opens⟩)
        · refine .inl fun occurrence member => ?_
          cases isOpen : occurrence.isClosed with
          | true => rfl
          | false => exact absurd ⟨occurrence, member, isOpen⟩ leavesOpen
      rcases occurrences_append (.inr ended) resumes with ⟨earlier, found⟩
      exact ⟨earlier.length, excerpts_extract_append found file⟩
    · exact ⟨0, _, by rw [excerpts_eq_nil_of_endless endless, List.map_nil, List.append_nil]⟩
  rcases appended with ⟨blocks, first, whole⟩
  refine ⟨⟨first.map Excerpt.content, ?_⟩, blocks, first, whole⟩
  rw [whole, List.map_append, List.map_map]
  rfl

/-- Behind an empty block and one without a function. -/
theorem extract_append_orphan :
    (("# [gherkin]\n# [end]\n// [Gherkin]\n// a\n// [END]\n" : Text).getLast? = some '\n' ∧
      ¬(LeavesOpen "# [gherkin]\n# [end]\n// [Gherkin]\n// a\n// [END]\n" ∧
        OpensFirst {} "// [gherkin]\n// Feature: kept\n// [end]")) ∧
    KeepsExcerpts "login.rs" "# [gherkin]\n# [end]\n// [Gherkin]\n// a\n// [END]\n"
      "// [gherkin]\n// Feature: kept\n// [end]" := by
  have allClosed : (occurrences {}
      "# [gherkin]\n# [end]\n// [Gherkin]\n// a\n// [END]\n").all Occurrence.isClosed = true := by
    decide +kernel
  have settled : ¬(LeavesOpen "# [gherkin]\n# [end]\n// [Gherkin]\n// a\n// [END]\n" ∧
      OpensFirst {} "// [gherkin]\n// Feature: kept\n// [end]") := by
    intro both
    rcases both.1 with ⟨occurrence, member, isOpen⟩
    rw [List.all_eq_true.mp allClosed occurrence member] at isOpen
    cases isOpen
  exact ⟨⟨by decide, settled⟩, (extract_append "login.rs" _ _ (by decide) settled).1⟩

/-- A start marker that is left open takes the first block of the source behind it. -/
theorem not_keepsExcerpts_of_open :
    ¬∀ file before source : Text, before.getLast? = some '\n' →
      KeepsExcerpts file before source := by
  intro keeps
  have kept := keeps "pay.go" "// [gherkin]\n" "// [gherkin]\n// Feature: pay\n// [end]\n"
    (by decide)
  have alone : (extract {} "pay.go" "// [gherkin]\n// Feature: pay\n// [end]\n").excerpts =
      [⟨.feature none, "Feature: pay\n", "pay.go", 1⟩] := by decide +kernel
  have behind : (extract {} "pay.go" (("// [gherkin]\n" : Text) ++
      "// [gherkin]\n// Feature: pay\n// [end]\n")).excerpts = [] := by decide +kernel
  rw [KeepsExcerpts, alone, behind] at kept
  cases List.suffix_nil.mp kept

end Scenarist
