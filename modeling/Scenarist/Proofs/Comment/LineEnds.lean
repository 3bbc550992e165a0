import Scenarist.Proofs.Comment.Concatenation
import Scenarist.Proofs.Comment.LineCleaning
import Scenarist.Proofs.Text.LineEnds

/-! # Comments whose lines end with carriage returns

A carriage return at the end of a line is not taken off at once. Each part that
reads a line hands it on, or stops before it, until cleaning takes it off or the
line turns out to be blank. So the occurrences of a source are the same with and
without carriage returns, up to those in the texts of its blocks. -/

namespace Scenarist.Comment

open Text

/-! ## Declarations -/

/-- A part that takes something off the beginning of a line leaves a carriage return at its
end alone. -/
def KeepsReturn (part : Text → Option Text) : Prop :=
  ∀ line, part (returned line) = (part line).map returned

theorem KeepsReturn.skip {part : Text → Option Text} (keeps : KeepsReturn part) (line : Text) :
    skip part (returned line) = returned (skip part line) := by
  rw [Comment.skip, keeps line, Comment.skip]
  cases part line <;> rfl

theorem KeepsReturn.bind {part next : Text → Option Text} (keeps : KeepsReturn part)
    (nextKeeps : KeepsReturn next) : KeepsReturn fun line => part line >>= next := by
  intro line
  simp only [keeps line]
  cases part line with
  | none => rfl
  | some rest => exact nextKeeps rest

theorem KeepsReturn.orElse {part other : Text → Option Text} (keeps : KeepsReturn part)
    (otherKeeps : KeepsReturn other) : KeepsReturn fun line => part line <|> other line := by
  intro line
  simp only [keeps line, otherKeeps line]
  cases part line <;> rfl

theorem keepsReturn_strip {beginning : Text} (returnless : '\r' ∉ beginning) :
    KeepsReturn (strip beginning) := by
  intro line
  induction beginning generalizing line with
  | nil => rfl
  | cons expected beginning induction =>
      rcases List.ne_and_not_mem_of_not_mem_cons returnless with ⟨different, othersReturnless⟩
      cases line with
      | nil => simp [returned, strip, different]
      | cons head line =>
          have others := induction othersReturnless line
          simp only [returned, List.cons_append, strip] at others ⊢
          split
          · exact others
          · rfl

theorem dropWhile_returned {drops : Char → Bool} (kept : drops '\r' = false) (line : Text) :
    (returned line).dropWhile drops = returned (line.dropWhile drops) := by
  induction line with
  | nil => simp [returned, kept]
  | cons head line induction =>
      rw [returned, List.cons_append, List.dropWhile_cons, List.dropWhile_cons]
      split
      · exact induction
      · rfl

theorem takeWhile_returned {keeps : Char → Bool} (ends : keeps '\r' = false) (line : Text) :
    (returned line).takeWhile keeps = line.takeWhile keeps := by
  induction line with
  | nil => simp [returned, ends]
  | cons head line induction =>
      rw [returned, List.cons_append, List.takeWhile_cons, List.takeWhile_cons]
      split
      · exact congrArg (List.cons head) induction
      · rfl

theorem dropBlanks_returned (line : Text) :
    dropBlanks (returned line) = returned (dropBlanks line) :=
  dropWhile_returned rfl line

theorem keepsReturn_spaced : KeepsReturn spaced := by
  intro line
  cases line with
  | nil => rfl
  | cons head rest =>
      simp only [returned, List.cons_append, spaced]
      split
      · exact congrArg some (dropBlanks_returned rest)
      · rfl

theorem keepsReturn_afterClosing : KeepsReturn afterClosing := by
  intro line
  induction line with
  | nil => rfl
  | cons head rest induction =>
      simp only [returned, List.cons_append, afterClosing] at induction ⊢
      split
      · rfl
      · exact induction

theorem keepsReturn_parenthesised : KeepsReturn parenthesised := by
  intro line
  cases line with
  | nil => rfl
  | cons head rest =>
      simp only [returned, List.cons_append, parenthesised]
      split
      · exact keepsReturn_afterClosing rest
      · rfl

theorem keepsReturn_visibility : KeepsReturn visibility := by
  refine (keepsReturn_strip (by decide)).bind ?_
  intro line
  simp only [keepsReturn_parenthesised.skip]
  exact keepsReturn_spaced _

theorem keepsReturn_asynchronous : KeepsReturn asynchronous :=
  (keepsReturn_strip (by decide)).bind keepsReturn_spaced

theorem keepsReturn_functionKeyword : KeepsReturn functionKeyword := by
  have isFunc : KeepsReturn (strip "func") := keepsReturn_strip (by decide)
  have isFn : KeepsReturn (strip "fn") := keepsReturn_strip (by decide)
  have isDef : KeepsReturn (strip "def") := keepsReturn_strip (by decide)
  exact (isFunc.orElse (isFn.orElse isDef)).bind keepsReturn_spaced

theorem keepsReturn_receiver : KeepsReturn receiver := by
  refine keepsReturn_parenthesised.bind ?_
  intro line
  exact congrArg some (dropBlanks_returned line)

theorem boundName_returned (line : Text) : boundName (returned line) = boundName line := by
  cases line with
  | nil => rfl
  | cons head rest =>
      have whole : returned (head :: rest) = head :: returned rest := rfl
      rw [whole, boundName, boundName, takeWhile_returned rfl, dropWhile_returned rfl,
        dropBlanks_returned]
      split
      · cases dropBlanks (rest.dropWhile continuesName) with
        | nil => rfl
        | cons next others => rfl
      · rfl

theorem nameInLine_returned (line : Text) : nameInLine (returned line) = nameInLine line := by
  simp only [nameInLine, dropBlanks_returned, keepsReturn_visibility.skip,
    keepsReturn_asynchronous.skip, keepsReturn_functionKeyword _, Option.bind_eq_bind]
  cases functionKeyword (skip asynchronous (skip visibility (dropBlanks line))) with
  | none => rfl
  | some rest =>
      simp only [Option.map_some, Option.bind_some, keepsReturn_receiver.skip, boundName_returned]

theorem declaredName_withReturns (text : Text) :
    declaredName (withReturns text) = declaredName text := by
  have first : ∀ text, declaredName text = ((lines text).map nameInLine).head?.join := by
    intro text
    rw [declaredName, List.head?_map]
    cases (lines text).head? <;> rfl
  rw [first, first, map_lines_withReturns nameInLine_returned]

/-! ## Previews -/

theorem trimEnd_returned (line : Text) : trimEnd (returned line) = trimEnd line := by
  have space : isSpace '\r' = true := rfl
  simp [trimEnd, dropEndWhile, returned, space]

theorem preview_withReturns (text : Text) : preview (withReturns text) = preview text := by
  let view : Text → Text := fun line => trimEnd (line.dropWhile isCommentMark)
  have blind : ∀ line, view (returned line) = view line := by
    intro line
    simp only [view, dropWhile_returned (show isCommentMark '\r' = false from rfl),
      trimEnd_returned]
  rw [preview, preview, map_lines_withReturns blind]

/-! ## Cleaning -/

theorem keepsReturn_afterToken : KeepsReturn afterToken := by
  intro line
  have marked : ∀ body, documentationMark (returned body) = returned (documentationMark body) := by
    intro body
    cases body with
    | nil => rfl
    | cons head rest =>
        simp only [returned, List.cons_append, documentationMark]
        split <;> rfl
  rw [afterToken, dropBlanks_returned, keepsReturn_strip (by decide), afterToken, Option.map_map,
    Option.map_map]
  congr 1
  funext body
  exact marked body

theorem withoutTokens_returned (line : Text) :
    withoutTokens (returned line) = returned (withoutTokens line) := by
  have kept := keepsReturn_afterToken line
  fun_induction withoutTokens line with
  | case1 line tokenless =>
      rw [tokenless] at kept
      exact withoutTokens_eq_self kept
  | case2 line rest found induction =>
      rw [found] at kept
      rw [withoutTokens_of_afterToken kept]
      exact induction (keepsReturn_afterToken rest)

theorem expandTabs_returned (line : Text) :
    expandTabs (returned line) = returned (expandTabs line) := by
  rw [returned, expandTabs, List.flatMap_append]
  rfl

theorem withoutReturns_returned (line : Text) :
    withoutReturns (returned line) = withoutReturns line := by
  simp [withoutReturns, dropEndWhile, returned]

theorem withoutSpacer_returned (line : Text) :
    line = [' '] ∨ withoutSpacer (returned line) = returned (withoutSpacer line) := by
  cases line with
  | nil => exact .inr rfl
  | cons first line =>
      by_cases space : first = ' '
      · subst space
        cases line with
        | nil => exact .inl rfl
        | cons next rest =>
            right
            simp only [returned, List.cons_append, withoutSpacer]
            split <;> rfl
      · right
        have kept : ∀ rest, withoutSpacer (first :: rest) = first :: rest := by
          intro rest
          apply withoutSpacer_eq_self
          intro next others begins
          exact absurd (List.cons.inj begins).1 space
        rw [returned, List.cons_append, kept, kept]
        rfl

/-- With a carriage return a line is cleaned to the same, or is blank as it is without. -/
theorem cleanLine_returned (line : Text) :
    cleanLine (returned line) = cleanLine line ∨
      isBlankText (cleanLine (returned line)) = true ∧ isBlankText (cleanLine line) = true := by
  simp only [cleanLine, withoutTokens_returned, expandTabs_returned]
  rcases withoutSpacer_returned (expandTabs (withoutTokens line)) with single | kept
  · rw [single]
    exact .inr ⟨by decide, by decide⟩
  · rw [kept, withoutReturns_returned]
    exact .inl rfl

theorem filter_cleanLine_returned (content : List Text) :
    ((content.map returned).map cleanLine).filter (fun line => !isBlankText line) =
      (content.map cleanLine).filter fun line => !isBlankText line := by
  induction content with
  | nil => rfl
  | cons line content induction =>
      simp only [List.map_cons, List.filter_cons, induction]
      rcases cleanLine_returned line with same | ⟨returnedBlank, blank⟩
      · rw [same]
      · rw [returnedBlank, blank]
        rfl

theorem clean_withReturns (text : Text) : clean (withReturns text) = clean text := by
  rcases exists_split_withReturns text with ⟨content, last, -, -, -, pieces, returnedPieces⟩
  rw [clean_eq_unlines, clean_eq_unlines, cleanedLines, cleanedLines, pieces, returnedPieces,
    List.map_append, List.map_append, List.filter_append, List.filter_append,
    filter_cleanLine_returned]

theorem withoutNumberSign_returned (line : Text) :
    withoutNumberSign (returned line) = returned (withoutNumberSign line) := by
  rw [withoutNumberSign, dropBlanks_returned, keepsReturn_strip (by decide), withoutNumberSign]
  cases strip ['#'] (dropBlanks line) <;> rfl

theorem withoutNumberSign_suffix (line : Text) : withoutNumberSign line <:+ line := by
  rw [withoutNumberSign]
  cases stripped : strip ['#'] (dropBlanks line) with
  | none => exact List.suffix_refl line
  | some rest =>
      rw [strip_eq_some_iff] at stripped
      have behindSign : rest <:+ dropBlanks line := ⟨['#'], stripped.symm⟩
      exact behindSign.trans (List.dropWhile_suffix _)

theorem stripNumberSigns_withReturns (text : Text) :
    stripNumberSigns (withReturns text) = withReturns (stripNumberSigns text) := by
  apply mapLines_withReturns _ withoutNumberSign_returned
  intro line lineFeedless
  exact not_mem_of_suffix (withoutNumberSign_suffix line) lineFeedless

/-! ## Blocks -/

/-- The same pieces of the source with carriage returns. -/
def Pieces.withReturns (pieces : Pieces) : Pieces where
  before := Text.withReturns pieces.before
  startLine := Text.withReturns pieces.startLine
  text := Text.withReturns pieces.text
  endMarker := Text.withReturns pieces.endMarker
  after := Text.withReturns pieces.after

def Cut.withReturns : Cut → Cut
  | .nothing => .nothing
  | .unclosed before capture => .unclosed (Text.withReturns before) capture
  | .closed pieces => .closed pieces.withReturns

/-- The same occurrence in the source with carriage returns. -/
def Occurrence.withReturns : Occurrence → Occurrence
  | .block marked => .block { marked with text := Text.withReturns marked.text }
  | .unterminated line capture => .unterminated line capture

/-- Neither marker holds a character of a line's end. -/
structure Markers.WithinLine (markers : Markers) : Prop where
  start : Text.WithinLine markers.start
  finish : Text.WithinLine markers.finish

theorem upToLineFeed_withReturns (text : Text) :
    upToLineFeed (withReturns text) = withReturns (upToLineFeed text) := by
  induction text with
  | nil => rfl
  | cons head rest induction =>
      by_cases feed : head = '\n'
      · subst feed
        rfl
      · rw [withReturns_cons feed, upToLineFeed, if_neg feed, upToLineFeed, if_neg feed, induction,
          withReturns_cons feed]

variable {markers : Markers}

theorem cut_withReturns (withinLine : markers.WithinLine) (source : Text) :
    cut markers (withReturns source) = (cut markers source).withReturns := by
  rw [cut, find?_withReturns withinLine.start, cut]
  cases find? markers.start source with
  | none => rfl
  | some opening =>
      have marked : withReturns opening.found ++ withReturns opening.after =
          withReturns (opening.found ++ opening.after) := (withReturns_append ..).symm
      simp only [Option.map_some, Found.withReturns, marked, afterLineFeed_withReturns,
        upToLineFeed_withReturns]
      cases afterLineFeed (opening.found ++ opening.after) with
      | none => rfl
      | some body =>
          simp only [Option.map_some, find?_withReturns withinLine.finish, preview_withReturns]
          cases find? markers.finish body <;> rfl

theorem lastLine_withReturns (text : Text) : lastLine (withReturns text) = lastLine text := by
  rcases exists_unlines_append text with ⟨content, last, areLines, lastFeedless, rfl, -⟩
  rw [withReturns_unlines_append areLines lastFeedless, lastLine_append, lastLine_append,
    lastLine_unlines, lastLine_unlines]

theorem Place.after_withReturns (place : Place) (text : Text) :
    place.after (withReturns text) = place.after text := by
  by_cases feed : '\n' ∈ text
  · have returnedFeed : '\n' ∈ withReturns text := by
      have counted : 0 < lineFeeds (withReturns text) := by
        rw [lineFeeds_withReturns]
        exact List.count_pos_iff.mpr feed
      exact List.count_pos_iff.mp counted
    simp [Place.after, feed, returnedFeed, lineFeeds_withReturns, lastLine_withReturns]
  · rw [withReturns_of_not_mem feed]

theorem block_withReturns (place : Place) (pieces : Pieces) :
    Occurrence.block (pieces.withReturns.block place) =
      (Occurrence.block (pieces.block place)).withReturns := by
  have named : (afterLineFeed (Text.withReturns pieces.after) >>= declaredName) =
      (afterLineFeed pieces.after >>= declaredName) := by
    rw [afterLineFeed_withReturns]
    cases afterLineFeed pieces.after with
    | none => rfl
    | some rest => exact declaredName_withReturns rest
  simp only [Occurrence.withReturns, Pieces.block, Pieces.withReturns, Place.after_withReturns,
    named]

theorem occurrencesFrom_withReturns (withinLine : markers.WithinLine) (place : Place)
    (source : Text) :
    occurrencesFrom markers place (withReturns source) =
      (occurrencesFrom markers place source).map Occurrence.withReturns := by
  have sameCut := cut_withReturns withinLine source
  fun_induction occurrencesFrom markers place source with
  | case1 place source isNothing =>
      rw [isNothing] at sameCut
      exact occurrencesFrom_of_nothing sameCut
  | case2 place source before capture isUnclosed =>
      rw [isUnclosed] at sameCut
      rw [occurrencesFrom_of_unclosed sameCut, Place.after_withReturns, List.map_singleton,
        Occurrence.withReturns]
  | case3 place source pieces isClosed induction =>
      rw [isClosed] at sameCut
      have consumed : pieces.withReturns.consumed = withReturns pieces.consumed := by
        simp [Pieces.consumed, Pieces.withReturns]
      rw [occurrencesFrom_of_closed sameCut, block_withReturns, consumed, Place.after_withReturns,
        List.map_cons]
      congr 1
      exact induction (cut_withReturns withinLine pieces.after)

end Scenarist.Comment
