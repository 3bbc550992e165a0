import Scenarist.Proofs.Comment.SettledLines
import Scenarist.Proofs.Excerpt.Addresses

/-! # Extraction is compositional

What is extracted from a source behind settled lines is what is extracted from
the lines, followed by what is extracted from the source. The blocks and the
lines of the source are only counted behind those before it. -/

namespace Scenarist

open Text Comment

namespace Excerpt

/-- A function names the excerpt, whatever the number of the block. -/
theorem uri_after {excerpt : Excerpt} (named : excerpt.identifier.isSome = true) (blocks : Nat) :
    (excerpt.after blocks).uri = excerpt.uri := by
  have sameName : (excerpt.after blocks).name = excerpt.name := by
    cases identified : excerpt.identifier with
    | none => rw [identified] at named; cases named
    | some identifier =>
        have after : (excerpt.after blocks).identifier = some identifier := identified
        rw [name, name, identified, after]
        rfl
  rw [uri, uri, sameName]
  rfl

end Excerpt

namespace Extraction

/-- One extraction followed by another. -/
def append (first second : Extraction) : Extraction where
  excerpts := first.excerpts ++ second.excerpts
  skips := first.skips ++ second.skips

/-- The same extraction with more blocks and lines before it. -/
def behind (blocks lines : Nat) (extraction : Extraction) : Extraction where
  excerpts := extraction.excerpts.map (Excerpt.after blocks)
  skips := extraction.skips.map (Excerpt.Skip.below lines)

theorem ofOutcomes_append (first second : List (Except Excerpt.Skip Excerpt)) :
    ofOutcomes (first ++ second) = (ofOutcomes first).append (ofOutcomes second) := by
  induction first with
  | nil => rfl
  | cons outcome first induction =>
      rw [ofOutcomes] at induction ⊢
      rw [List.cons_append, List.foldr_cons, induction]
      cases outcome <;> rfl

theorem ofOutcomes_behind (blocks lines : Nat) (outcomes : List (Except Excerpt.Skip Excerpt)) :
    ofOutcomes (outcomes.map (Excerpt.outcomeBehind blocks lines)) =
      (ofOutcomes outcomes).behind blocks lines := by
  induction outcomes with
  | nil => rfl
  | cons outcome outcomes induction =>
      rw [ofOutcomes] at induction ⊢
      rw [List.map_cons, List.foldr_cons, induction]
      cases outcome <;> rfl

end Extraction

/-! ## Each occurrence comes to one entry -/

namespace Extraction

/-- The entries of an extraction account for occurrences in their order. Each occurrence comes to
one excerpt, which bears its number and the function of its block, or to one skip, which bears
its line. -/
inductive AccountsFor (file : Text) : Nat → List Occurrence → Extraction → Prop
  | nothing {index : Nat} : AccountsFor file index [] ⟨[], []⟩
  | excerpt {index : Nat} {block : Block} {others : List Occurrence} {excerpt : Excerpt}
        {rest : Extraction} :
      excerpt.file = file → excerpt.index = index → excerpt.identifier = block.identifier →
      AccountsFor file (index + 1) others rest →
      AccountsFor file index (.block block :: others)
        { rest with excerpts := excerpt :: rest.excerpts }
  | skip {index : Nat} {occurrence : Occurrence} {others : List Occurrence}
        {skip : Excerpt.Skip} {rest : Extraction} :
      skip.file = file → skip.line = occurrence.line →
      AccountsFor file (index + 1) others rest →
      AccountsFor file index (occurrence :: others) { rest with skips := skip :: rest.skips }

theorem line_of_ofOccurrence {file : Text} {index : Nat} {occurrence : Occurrence}
    {skip : Excerpt.Skip} (outcome : Excerpt.ofOccurrence file index occurrence = .error skip) :
    skip.file = file ∧ skip.line = occurrence.line := by
  cases occurrence with
  | unterminated line capture =>
      cases outcome
      exact ⟨rfl, rfl⟩
  | block block =>
      simp only [Excerpt.ofOccurrence, Excerpt.ofBlock] at outcome
      split at outcome
      · cases outcome
        exact ⟨rfl, rfl⟩
      · split at outcome
        · cases outcome
        · split at outcome
          · cases outcome
            exact ⟨rfl, rfl⟩
          · cases outcome

theorem accountsFor_ofOutcomes (file : Text) (index : Nat) (occurrences : List Occurrence) :
    AccountsFor file index occurrences (ofOutcomes (occurrences.mapIdx fun position occurrence =>
      Excerpt.ofOccurrence file (position + index) occurrence)) := by
  induction occurrences generalizing index with
  | nil => exact .nothing
  | cons occurrence others induction =>
      have renumbered : ∀ position, position + 1 + index = position + (index + 1) := by omega
      have rest := induction (index + 1)
      rw [List.mapIdx_cons, Nat.zero_add]
      simp only [renumbered]
      cases outcome : Excerpt.ofOccurrence file index occurrence with
      | ok excerpt =>
          rcases Excerpt.identifier_of_ofOccurrence outcome with
            ⟨sameFile, sameIndex, block, rfl, sameIdentifier⟩
          exact .excerpt sameFile sameIndex sameIdentifier rest
      | error skip =>
          rcases line_of_ofOccurrence outcome with ⟨sameFile, sameLine⟩
          exact .skip sameFile sameLine rest

end Extraction

/-- The extraction of a source behind settled lines is the extraction of the lines, followed by
that of the source behind as many blocks and lines. Excerpts that belong to a function keep their
URIs, and each occurrence of the whole comes to one entry. -/
theorem extract_append_settled (markers : Markers) (file before source : Text)
    (startOnOneLine : '\n' ∉ markers.start) (finishNonempty : markers.finish ≠ [])
    (finishOnOneLine : '\n' ∉ markers.finish) (settled : Settled markers before) :
    let blocks := (occurrences markers before).length
    extract markers file (before ++ source) =
      (extract markers file before).append
        ((extract markers file source).behind blocks (lineFeeds before)) ∧
    (∀ excerpt ∈ (extract markers file source).excerpts, excerpt.identifier.isSome = true →
      (excerpt.after blocks).uri = excerpt.uri) ∧
    Extraction.AccountsFor file 1 (occurrences markers (before ++ source))
      (extract markers file (before ++ source)) := by
  intro blocks
  refine ⟨?_, fun excerpt _ named => Excerpt.uri_after named blocks,
    Extraction.accountsFor_ofOutcomes file 1 _⟩
  have found := occurrences_append_of_settled settled startOnOneLine finishNonempty
    finishOnOneLine source
  have shifted : ((occurrences markers source).map (Occurrence.below (lineFeeds before))).mapIdx
      (fun position occurrence =>
        Excerpt.ofOccurrence file (position + blocks + 1) occurrence) =
      ((occurrences markers source).mapIdx fun position occurrence =>
        Excerpt.ofOccurrence file (position + 1) occurrence).map
          (Excerpt.outcomeBehind blocks (lineFeeds before)) := by
    simp only [List.mapIdx_eq_zipIdx_map, List.zipIdx_map, List.map_map]
    apply List.map_congr_left
    intro numbered _
    have behind := Excerpt.ofOccurrence_below file (numbered.2 + 1) blocks (lineFeeds before)
      numbered.1
    rwa [Nat.add_right_comm] at behind
  rw [extract, found, List.mapIdx_append, shifted, Extraction.ofOutcomes_append,
    Extraction.ofOutcomes_behind]
  rfl

/-! A test with a scenario, and a block that nothing is lifted out of. -/

def settledScenario : Pieces where
  before := "// "
  startLine := "[Gherkin] note\n"
  text := "// Scenario:\n//   Given a\n// "
  endMarker := "[END]"
  after := "\nfn test_pay() \x7b\n# [gherkin]\n# [end]\n\x7d\n"

def settledEmpty : Pieces where
  before := "\nfn test_pay() \x7b\n# "
  startLine := "[gherkin]\n"
  text := "# "
  endMarker := "[end]"
  after := "\n\x7d\n"

theorem decomposes_settled :
    Decomposes {} settledScenario.source 0 [⟨3, 18, 47⟩, ⟨71, 81, 83⟩] none := by
  have first : cut {} settledScenario.source = .closed settledScenario := by decide +kernel
  have second : cut {} settledScenario.after = .closed settledEmpty := by decide +kernel
  have last : cut {} settledEmpty.after = .nothing := by decide +kernel
  have quiet := finished_of_cut (settledScenario.consumed ++ settledEmpty.consumed) last
  rw [List.append_assoc, consumed_append_of_cut second] at quiet
  have behind := closed_of_cut settledScenario.consumed second quiet
  rw [consumed_append_of_cut first] at behind
  exact closed_of_cut [] first behind

theorem settled_settledScenario : Settled {} settledScenario.source := by
  refine ⟨by decide, ?_, ?_⟩
  · have allClosed : (occurrences {} settledScenario.source).all Occurrence.isClosed = true := by
      decide +kernel
    intro line capture found
    cases List.all_eq_true.mp allClosed _ found
  · intro spans unclosed decomposes last isLast
    rcases decomposes_settled.unique decomposes with ⟨rfl, -⟩
    cases isLast
    decide

/-- Behind a scenario and an empty block, both in settled lines. -/
theorem extract_append_settled_pay :
    ('\n' ∉ ({} : Markers).start ∧ ({} : Markers).finish ≠ [] ∧ '\n' ∉ ({} : Markers).finish ∧
      Settled {} settledScenario.source) ∧
    extract {} "pay.rs" (settledScenario.source ++ "# [gherkin]\n# Feature: a\n# [end]") =
      ⟨[⟨.scenario "test_pay", "@file:pay.rs\n@test:test_pay\nScenario: pay\n   Given a\n",
          "pay.rs", 1⟩,
        ⟨.feature none, "Feature: a\n", "pay.rs", 3⟩],
        [⟨"pay.rs", 6, .emptyBlock⟩]⟩ := by
  have whole := (extract_append_settled {} "pay.rs" settledScenario.source
    "# [gherkin]\n# Feature: a\n# [end]" lineFeed_not_mem_start finish_nonempty
    lineFeed_not_mem_finish settled_settledScenario).1
  refine ⟨⟨lineFeed_not_mem_start, finish_nonempty, lineFeed_not_mem_finish,
    settled_settledScenario⟩, ?_⟩
  rw [whole]
  decide +kernel

end Scenarist
