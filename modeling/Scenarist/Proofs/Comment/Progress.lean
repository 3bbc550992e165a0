import Scenarist.Proofs.Comment.Concatenation

/-! # The scan moves forward

Markers may be empty, may reach over several lines and may be the same, and still
no round of the scan stays on its line. The line feed behind the beginning of a
start marker parts it from the body, and the scan goes on behind the body. So each
round leaves fewer line feeds to the next, and each start marker begins on a later
line than the one before it. -/

namespace Scenarist.Comment

open Text

/-- One round of the scan: a block is cut off the source, and what is left is scanned next. -/
def Resumes (markers : Markers) (source rest : Text) : Prop :=
  ∃ pieces, cut markers source = .closed pieces ∧ pieces.after = rest

section

variable {markers : Markers} {source : Text}

/-! ## One round -/

theorem lineFeeds_startLine_of_cut {pieces : Pieces}
    (isClosed : cut markers source = .closed pieces) : lineFeeds pieces.startLine = 1 := by
  have searches := cuts markers source
  rw [isClosed] at searches
  cases searches with
  | closed _ _ lineFeedless _ =>
      rw [lineFeeds_append, lineFeeds_eq_zero lineFeedless]
      rfl

theorem lineFeeds_before_lt_consumed {pieces : Pieces}
    (isClosed : cut markers source = .closed pieces) :
    lineFeeds pieces.before < lineFeeds pieces.consumed := by
  have startLine := lineFeeds_startLine_of_cut isClosed
  rw [Pieces.consumed, lineFeeds_append, lineFeeds_append, startLine]
  omega

theorem lineFeeds_after_lt {pieces : Pieces} (isClosed : cut markers source = .closed pieces) :
    lineFeeds pieces.after < lineFeeds source := by
  have consumes := lineFeeds_before_lt_consumed isClosed
  rw [← consumed_append_of_cut isClosed, lineFeeds_append]
  omega

theorem Resumes.lineFeeds_lt {rest : Text} (resumes : Resumes markers source rest) :
    lineFeeds rest < lineFeeds source := by
  rcases resumes with ⟨pieces, isClosed, rfl⟩
  exact lineFeeds_after_lt isClosed

/-- The scan is not resumed forever. -/
theorem wellFounded_resumes (markers : Markers) :
    WellFounded fun rest source => Resumes markers source rest :=
  Subrelation.wf (fun resumes => resumes.lineFeeds_lt) (measure lineFeeds).wf

/-! ## All rounds -/

theorem line_le_of_mem {place : Place} {occurrence : Occurrence}
    (member : occurrence ∈ occurrencesFrom markers place source) :
    place.line ≤ occurrence.line := by
  fun_induction occurrencesFrom markers place source with
  | case1 => cases member
  | case2 place source before capture isUnclosed =>
      rw [List.mem_singleton.mp member]
      exact Nat.le_add_right place.line (lineFeeds before)
  | case3 place source pieces isClosed induction =>
      rcases List.mem_cons.mp member with rfl | member
      · exact Nat.le_add_right place.line (lineFeeds pieces.before)
      · exact Nat.le_trans (Nat.le_add_right place.line _) (induction member)

theorem pairwise_line_occurrencesFrom (markers : Markers) (place : Place) (source : Text) :
    (occurrencesFrom markers place source).Pairwise
      fun first second => first.line < second.line := by
  fun_induction occurrencesFrom markers place source with
  | case1 => exact .nil
  | case2 => exact List.pairwise_singleton ..
  | case3 place source pieces isClosed induction =>
      refine .cons ?_ induction
      intro later member
      -- Later rounds begin behind what this one consumed, the line of its marker included.
      have consumes := lineFeeds_before_lt_consumed isClosed
      calc
        place.line + lineFeeds pieces.before < place.line + lineFeeds pieces.consumed :=
          Nat.add_lt_add_left consumes place.line
        _ ≤ later.line := line_le_of_mem member

theorem length_occurrencesFrom_le (markers : Markers) (place : Place) (source : Text) :
    (occurrencesFrom markers place source).length ≤ lineFeeds source + 1 := by
  fun_induction occurrencesFrom markers place source with
  | case1 => exact Nat.zero_le _
  | case2 => simp
  | case3 place source pieces isClosed induction =>
      have fewer := lineFeeds_after_lt isClosed
      rw [List.length_cons]
      omega

/-- Only the last occurrence may lack its end marker. -/
theorem exists_blocks_append (markers : Markers) (place : Place) (source : Text) :
    ∃ (blocks : List Block) (unclosed : Option (Nat × Text)),
      occurrencesFrom markers place source = blocks.map .block ++
        unclosed.toList.map fun marker => .unterminated marker.1 marker.2 := by
  fun_induction occurrencesFrom markers place source with
  | case1 => exact ⟨[], none, rfl⟩
  | case2 place source before capture isUnclosed =>
      exact ⟨[], some ((place.after before).line, capture), rfl⟩
  | case3 place source pieces isClosed induction =>
      rcases induction with ⟨blocks, unclosed, found⟩
      exact ⟨pieces.block place :: blocks, unclosed, congrArg (List.cons _) found⟩

end

/-- Whatever the markers, the scan of a source ends, and it finds the decomposition of the
source. The start markers that it reports stand further and further down, so they are no more
than the source has lines, and only the last of them may be left open. -/
theorem occurrences_progress (markers : Markers) (source : Text) :
    (WellFounded fun rest source => Resumes markers source rest) ∧
    (∃ spans unclosed, Decomposes markers source 0 spans unclosed ∧
      occurrences markers source = report markers source spans unclosed) ∧
    ((occurrences markers source).Pairwise fun first second => first.line < second.line) ∧
    (occurrences markers source).length ≤ lineFeeds source + 1 ∧
    ∃ (blocks : List Block) (unclosed : Option (Nat × Text)),
      occurrences markers source = blocks.map .block ++
        unclosed.toList.map fun marker => .unterminated marker.1 marker.2 := by
  refine ⟨wellFounded_resumes markers, ?_, pairwise_line_occurrencesFrom markers {} source,
    length_occurrencesFrom_le markers {} source, exists_blocks_append markers {} source⟩
  exact occurrencesFrom_decomposes markers source []

/-! Empty markers stand everywhere, and still each line is reported once. -/

example : (occurrences ⟨[], []⟩ "a\nb\nc").map Occurrence.line = [1, 2, 3] := by cbv

end Scenarist.Comment
