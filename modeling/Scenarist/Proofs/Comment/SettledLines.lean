import Mathlib.Data.List.Pairwise
import Scenarist.Proofs.Comment.Concatenation

/-! # Settled lines

Lines are settled if what is found in them does not depend on the text behind
them: no start marker is left open, and the line behind the last end marker,
which may declare a function, is one of them. The occurrences of a source behind
settled lines are those of the lines, followed by its own. -/

namespace Scenarist.Comment

open Text

/-! ## The line behind an end marker -/

theorem declaredName_append {text : Text} (feed : '\n' ∈ text) (source : Text) :
    declaredName (text ++ source) = declaredName text := by
  rcases List.eq_append_cons_of_mem feed with ⟨line, rest, rfl, lineFeedless⟩
  rw [declaredName, declaredName, List.append_assoc, List.cons_append,
    head?_lines_append_cons lineFeedless, head?_lines_append_cons lineFeedless]

/-- With two line feeds behind an end marker, the line that may declare a function has
its end. -/
theorem identifier_append {after : Text} (complete : 2 ≤ lineFeeds after) (source : Text) :
    (afterLineFeed (after ++ source) >>= declaredName) =
      (afterLineFeed after >>= declaredName) := by
  have feed : '\n' ∈ after := List.count_pos_iff.mp (Nat.zero_lt_of_lt complete)
  rcases List.eq_append_cons_of_mem feed with ⟨line, rest, rfl, lineFeedless⟩
  rw [lineFeeds_append, lineFeeds_cons, lineFeeds_eq_zero lineFeedless] at complete
  have restFeed : '\n' ∈ rest := List.count_pos_iff.mp (by rw [lineFeeds] at complete; omega)
  have behind : afterLineFeed (line ++ '\n' :: rest) = some rest :=
    (afterLineFeed_eq_some_iff ..).mpr ⟨line, lineFeedless, rfl⟩
  have behindBoth : afterLineFeed (line ++ '\n' :: rest ++ source) = some (rest ++ source) :=
    (afterLineFeed_eq_some_iff ..).mpr ⟨line, lineFeedless, by simp⟩
  rw [behind, behindBoth]
  exact declaredName_append restFeed source

/-! ## Block by block -/

/-- Each start marker of the lines is closed, with two line feeds behind its end marker. -/
inductive Settles (markers : Markers) : Text → Prop
  | quiet {before : Text} : cut markers before = .nothing → Settles markers before
  | block {before : Text} {pieces : Pieces} :
      cut markers before = .closed pieces → 2 ≤ lineFeeds pieces.after →
      Settles markers pieces.after → Settles markers before

section

variable {markers : Markers} {before : Text}

theorem occurrencesFrom_append_of_settles (startOnOneLine : '\n' ∉ markers.start)
    (ended : IsEnded before) (settles : Settles markers before) (context source : Text) :
    occurrencesFrom markers (Place.behind context) (before ++ source) =
      occurrencesFrom markers (Place.behind context) before ++
        occurrencesFrom markers (Place.behind (context ++ before)) source := by
  induction settles generalizing context with
  | @quiet before isNothing =>
      have searches := cuts markers before
      rw [isNothing] at searches
      cases searches with
      | nothing missed =>
          have passed := find?_ended_append startOnOneLine ended
            ((find?_eq_none_iff ..).mp missed) source
          rw [occurrencesFrom_append passed, occurrencesFrom_of_nothing isNothing,
            List.nil_append]
  | @block before pieces isClosed complete _ induction =>
      have consumed := consumed_append_of_cut isClosed
      have sameBlock : Pieces.block (Place.behind context)
          { pieces with after := pieces.after ++ source } =
            pieces.block (Place.behind context) := by
        simp only [Pieces.block, identifier_append complete]
      have others := induction (IsEnded.of_append (consumed ▸ ended)) (context ++ pieces.consumed)
      rw [List.append_assoc, consumed] at others
      rw [occurrencesFrom_of_closed (cut_append_of_closed isClosed source), sameBlock,
        occurrencesFrom_of_closed isClosed, Place.after_behind, Place.after_behind,
        List.cons_append, ← others]
      rfl

end

/-! ## Settled lines by positions -/

/-- Every start marker of the lines is closed, and the last end marker does not stand on the
last line. -/
structure Settled (markers : Markers) (before : Text) : Prop where
  ended : IsEnded before
  closed : ∀ line capture, Occurrence.unterminated line capture ∉ occurrences markers before
  inside : ∀ spans unclosed, Decomposes markers before 0 spans unclosed →
    ∀ last ∈ spans.getLast?, lineAt before last.closing ≠ lineFeeds before

section

variable {markers : Markers} {source : Text} {position : Nat} {spans : List Span}
  {unclosed : Option Unclosed}

theorem Decomposes.reached (decomposes : Decomposes markers source position spans unclosed) :
    ∀ span ∈ spans, position ≤ span.closing := by
  induction decomposes with
  | finished => simp
  | withoutBody => simp
  | withoutEnd => simp
  | block opens feeds closes _ induction =>
      have inOrder := Nat.le_trans opens.reached
        (Nat.le_trans feeds.reached (Nat.le_of_lt closes.reached))
      intro span member
      rcases List.mem_cons.mp member with rfl | member
      · exact inOrder
      · exact Nat.le_trans (Nat.le_add_right_of_le inOrder) (induction span member)

/-- The end markers stand one after the other. -/
theorem Decomposes.pairwise_closing
    (decomposes : Decomposes markers source position spans unclosed) :
    spans.Pairwise fun first second => first.closing ≤ second.closing := by
  induction decomposes with
  | finished => exact .nil
  | withoutBody => exact .nil
  | withoutEnd => exact .nil
  | block _ _ _ rest induction =>
      refine .cons ?_ induction
      intro span member
      exact Nat.le_trans (Nat.le_add_right ..) (rest.reached span member)

theorem Decomposes.standsAt_closing
    (decomposes : Decomposes markers source position spans unclosed) :
    ∀ span ∈ spans, StandsAt markers.finish source span.closing := by
  induction decomposes with
  | finished => simp
  | withoutBody => simp
  | withoutEnd => simp
  | block _ _ closes _ induction =>
      exact List.forall_mem_cons.mpr ⟨closes.here, induction⟩

/-- The decomposition behind the first block. -/
theorem Decomposes.exists_tail {before : Text} {pieces : Pieces}
    (isClosed : cut markers source = .closed pieces)
    (decomposes : Decomposes markers (before ++ source) before.length spans unclosed) :
    ∃ others, spans = pieces.span before.length :: others ∧
      Decomposes markers (before ++ source) (before ++ pieces.consumed).length others unclosed := by
  rcases occurrencesFrom_decomposes markers pieces.after (before ++ pieces.consumed) with
    ⟨others, otherUnclosed, rest, -⟩
  rw [List.append_assoc, consumed_append_of_cut isClosed] at rest
  rcases decomposes.unique (closed_of_cut before isClosed rest) with ⟨rfl, rfl⟩
  exact ⟨others, rfl, rest⟩

end

section

variable {markers : Markers} {before : Text}

/-- An end marker on a line before the last has two line feeds behind it. -/
theorem two_le_lineFeeds_drop {closing : Nat} (nonempty : markers.finish ≠ [])
    (oneLine : '\n' ∉ markers.finish) (ended : IsEnded before)
    (stands : StandsAt markers.finish before closing)
    (inside : lineAt before closing ≠ lineFeeds before) :
    2 ≤ lineFeeds (before.drop (closing + markers.finish.length)) := by
  let marker := (before.drop closing).take markers.finish.length
  let after := before.drop (closing + markers.finish.length)
  have whole : before = before.take closing ++ (marker ++ after) := by
    simp [marker, after, ← List.drop_drop]
  have folds : Folds marker markers.finish := stands.2
  have lineFeedless : '\n' ∉ marker := fun member => oneLine (folds.lineFeed_mem member)
  have behindEnded : IsEnded (marker ++ after) := IsEnded.of_append (whole ▸ ended)
  have feed : '\n' ∈ after := by
    rcases behindEnded with empty | feed
    · have lengths := folds.length_eq
      rw [(List.append_eq_nil_iff.mp empty).1] at lengths
      exact absurd (List.length_eq_zero_iff.mp lengths.symm) nonempty
    · exact (List.mem_append.mp (List.mem_of_getLast? feed)).resolve_left lineFeedless
  have positive : 0 < lineFeeds after := List.count_pos_iff.mpr feed
  have total : lineFeeds before = lineFeeds (before.take closing) + lineFeeds after := by
    rw [congrArg lineFeeds whole, lineFeeds_append, lineFeeds_append,
      lineFeeds_eq_zero lineFeedless, Nat.zero_add]
  rw [lineAt] at inside
  change 2 ≤ lineFeeds after
  omega

theorem settles_of_decomposes (context : Text) {before : Text} {spans : List Span}
    (decomposes : Decomposes markers (context ++ before) context.length spans none)
    (complete : ∀ span ∈ spans,
      2 ≤ lineFeeds ((context ++ before).drop (span.closing + markers.finish.length))) :
    Settles markers before := by
  cases isCut : cut markers before with
  | nothing => exact .quiet isCut
  | unclosed lead capture =>
      rcases unclosed_of_cut context isCut with ⟨unclosed, other, -⟩
      cases (decomposes.unique other).2
  | closed pieces =>
      rcases decomposes.exists_tail isCut with ⟨others, rfl, rest⟩
      rcases List.forall_mem_cons.mp complete with ⟨here, behind⟩
      rw [drop_of_cut context isCut] at here
      rw [← consumed_append_of_cut isCut, ← List.append_assoc] at rest behind
      exact .block isCut here (settles_of_decomposes _ rest behind)
termination_by before.length
decreasing_by exact length_after_cut isCut

/-- Settled lines decompose into blocks alone. -/
theorem Settled.exists_decomposes (settled : Settled markers before) :
    ∃ spans, Decomposes markers before 0 spans none := by
  rcases occurrencesFrom_decomposes markers before [] with ⟨spans, unclosed, decomposes, reported⟩
  cases unclosed with
  | none => exact ⟨spans, decomposes⟩
  | some unclosed =>
      have found : unclosed.occurrence before ∈ occurrences markers before := by
        change _ ∈ occurrencesFrom markers (Place.behind []) before
        rw [reported]
        exact List.mem_append_right _ List.mem_cons_self
      exact absurd found (settled.closed _ _)

theorem Settled.settles (settled : Settled markers before) (nonempty : markers.finish ≠ [])
    (oneLine : '\n' ∉ markers.finish) : Settles markers before := by
  rcases settled.exists_decomposes with ⟨spans, decomposes⟩
  apply settles_of_decomposes [] decomposes
  intro span member
  have some_span : spans ≠ [] := List.ne_nil_of_mem member
  have isLast := List.getLast?_eq_some_getLast some_span
  have complete := two_le_lineFeeds_drop nonempty oneLine settled.ended
    (decomposes.standsAt_closing _ (List.getLast_mem some_span))
    (settled.inside spans none decomposes _ isLast)
  have reflexive : Std.Refl fun first second : Span => first.closing ≤ second.closing :=
    ⟨fun span => Nat.le_refl span.closing⟩
  have inOrder : span.closing ≤ (spans.getLast some_span).closing :=
    decomposes.pairwise_closing.rel_getLast member
  have behind := List.drop_sublist_drop_left before
    (Nat.add_le_add_right inOrder markers.finish.length)
  exact Nat.le_trans complete (behind.count_le '\n')

/-- The occurrences of a source behind settled lines are those of the lines, and its own further
down. -/
theorem occurrences_append_of_settled (settled : Settled markers before)
    (startOnOneLine : '\n' ∉ markers.start) (finishNonempty : markers.finish ≠ [])
    (finishOnOneLine : '\n' ∉ markers.finish) (source : Text) :
    occurrences markers (before ++ source) =
      occurrences markers before ++
        (occurrences markers source).map (Occurrence.below (lineFeeds before)) := by
  have found := occurrencesFrom_append_of_settles startOnOneLine settled.ended
    (settled.settles finishNonempty finishOnOneLine) [] source
  rwa [List.nil_append, Place.behind_ended settled.ended, occurrencesFrom_below] at found

end

end Scenarist.Comment
