import Scenarist.Proofs.Comment.Decomposition
import Scenarist.Proofs.Text.LineSearch

/-! # Sources with more text before them

The blocks of a source are found again, in the same order, when other lines are
put before it. Only a start marker that these lines leave open can get in the
way: it is closed by the first end marker of the source, so the start markers
before that one are lost. -/

namespace Scenarist.Comment

open Text

variable {markers : Markers} {place : Place} {source : Text}

/-! ## Reading one cut off -/

theorem occurrencesFrom_of_nothing (isNothing : cut markers source = .nothing) :
    occurrencesFrom markers place source = [] := by
  rw [occurrencesFrom]
  split
  · rfl
  · next other => simp [isNothing] at other
  · next other => simp [isNothing] at other

theorem occurrencesFrom_of_unclosed {before capture : Text}
    (isUnclosed : cut markers source = .unclosed before capture) :
    occurrencesFrom markers place source =
      [.unterminated (place.after before).line capture] := by
  rw [occurrencesFrom]
  split
  · next other => simp [isUnclosed] at other
  · next other =>
      rw [isUnclosed] at other
      cases other
      rfl
  · next other => simp [isUnclosed] at other

theorem occurrencesFrom_of_closed {pieces : Pieces}
    (isClosed : cut markers source = .closed pieces) :
    occurrencesFrom markers place source =
      .block (pieces.block place) ::
        occurrencesFrom markers (place.after pieces.consumed) pieces.after := by
  rw [occurrencesFrom]
  split
  · next other => simp [isClosed] at other
  · next other => simp [isClosed] at other
  · next other =>
      rw [isClosed] at other
      cases other
      rfl

/-! ## Text in which no start marker begins -/

/-- The same cut of a text with more before it. -/
def Cut.behind (lead : Text) : Cut → Cut
  | .nothing => .nothing
  | .unclosed before capture => .unclosed (lead ++ before) capture
  | .closed pieces => .closed { pieces with before := lead ++ pieces.before }

section

variable {lead : Text}

theorem cut_append (passed : find? markers.start (lead ++ source) =
      (find? markers.start source).map (Found.behind lead)) :
    cut markers (lead ++ source) = (cut markers source).behind lead := by
  simp only [cut, passed]
  cases find? markers.start source with
  | none => rfl
  | some opening =>
      simp only [Option.map_some, Found.behind]
      cases afterLineFeed (opening.found ++ opening.after) with
      | none => rfl
      | some body =>
          cases closes : find? markers.finish body with
          | none => simp [closes, Cut.behind]
          | some closing => simp [closes, Cut.behind]

theorem occurrencesFrom_append (passed : find? markers.start (lead ++ source) =
      (find? markers.start source).map (Found.behind lead)) (context : Text) :
    occurrencesFrom markers (Place.behind context) (lead ++ source) =
      occurrencesFrom markers (Place.behind (context ++ lead)) source := by
  have shifted := cut_append passed
  cases isCut : cut markers source with
  | nothing =>
      rw [isCut] at shifted
      rw [occurrencesFrom_of_nothing shifted, occurrencesFrom_of_nothing isCut]
  | unclosed before capture =>
      rw [isCut] at shifted
      rw [occurrencesFrom_of_unclosed shifted, occurrencesFrom_of_unclosed isCut]
      simp [Place.after_behind]
  | closed pieces =>
      rw [isCut] at shifted
      rw [occurrencesFrom_of_closed shifted, occurrencesFrom_of_closed isCut]
      simp [Pieces.block, Pieces.consumed, Place.after_behind]

end

/-! ## Lines before a source -/

/-- Whether an end marker was found for a start marker. -/
def Occurrence.isClosed : Occurrence → Bool
  | .block _ => true
  | .unterminated _ _ => false

/-- The line of the start marker. -/
def Occurrence.line (occurrence : Occurrence) : Nat :=
  match occurrence with
  | .block marked => marked.line
  | .unterminated line _ => line

/-- The first end marker of a source ends before any start marker begins. -/
def ClosesFirst (markers : Markers) (source : Text) : Prop :=
  ∃ closing, find? markers.finish source = some closing ∧
    ∀ position, position < (closing.before ++ closing.found).length →
      ¬StandsAt markers.start source position

theorem marked_followedBy {opening : Found} {line body : Text}
    (marked : opening.found ++ opening.after = line ++ '\n' :: body) (source : Text) :
    (opening.followedBy source).found ++ (opening.followedBy source).after =
      line ++ '\n' :: (body ++ source) := by
  simp only [Found.followedBy, ← List.append_assoc, marked]
  simp

theorem cut_append_of_closed {before : Text} {pieces : Pieces}
    (isClosed : cut markers before = .closed pieces) (source : Text) :
    cut markers (before ++ source) = .closed { pieces with after := pieces.after ++ source } := by
  have searches := cuts markers before
  rw [isClosed] at searches
  cases searches with
  | @closed opening closing line body found marked lineFeedless closes =>
      exact cut_eq_closed (find?_append_of_some found source) (marked_followedBy marked source)
        lineFeedless (find?_append_of_some closes source)

/-- What stands behind a start marker on ended lines has a line feed. -/
theorem lineFeed_mem_marked {before : Text} {opening : Found} (nonempty : markers.start ≠ [])
    (ended : IsEnded before) (found : find? markers.start before = some opening) :
    '\n' ∈ opening.found ++ opening.after := by
  have leftmost := leftmost_of_find? found
  rw [leftmost.whole] at ended
  rcases ended.of_append with empty | feed
  · have lengths := leftmost.folds.length_eq
    rw [(List.append_eq_nil_iff.mp empty).1] at lengths
    exact absurd (List.length_eq_zero_iff.mp lengths.symm) nonempty
  · exact List.mem_of_getLast? feed

/-- The start marker that ended lines leave open is closed by the source behind them. -/
theorem occurrencesFrom_append_of_unclosed {before lead capture : Text}
    (nonempty : markers.start ≠ []) (oneLine : '\n' ∉ markers.finish) (ended : IsEnded before)
    (isUnclosed : cut markers before = .unclosed lead capture)
    (closesFirst : ClosesFirst markers source) (context : Text) : ∃ block,
    occurrencesFrom markers (Place.behind context) (before ++ source) =
      .block block :: occurrencesFrom markers (Place.behind (context ++ before)) source := by
  have searches := cuts markers before
  rw [isUnclosed] at searches
  cases searches with
  | withoutBody found lineless => exact absurd (lineFeed_mem_marked nonempty ended found) lineless
  | @withoutEnd opening line body found marked lineFeedless missed =>
      rcases closesFirst with ⟨closing, closes, absent⟩
      have bodyEnded : IsEnded body := by
        rw [(leftmost_of_find? found).whole, marked, List.append_cons] at ended
        exact ended.of_append.of_append
      have closesBehind : find? markers.finish (body ++ source) = some (closing.behind body) := by
        rw [find?_ended_append oneLine bodyEnded ((find?_eq_none_iff ..).mp missed), closes]
        rfl
      have isClosed : cut markers (before ++ source) = .closed ⟨opening.before, line ++ ['\n'],
          body ++ closing.before, closing.found, closing.after⟩ :=
        cut_eq_closed (find?_append_of_some found source) (marked_followedBy marked source)
          lineFeedless closesBehind
      have whole := (leftmost_of_find? closes).whole
      rw [← List.append_assoc] at whole
      have passed := find?_append_of_not_standsAt (whole ▸ absent)
      have resumed := occurrencesFrom_append passed (context ++ before)
      rw [← whole] at resumed
      refine ⟨Pieces.block (Place.behind context) ⟨opening.before, line ++ ['\n'],
        body ++ closing.before, closing.found, closing.after⟩, ?_⟩
      rw [occurrencesFrom_of_closed isClosed, resumed, Place.after_behind]
      simp [Pieces.consumed, (leftmost_of_find? found).whole, marked]

/-- Behind ended lines the occurrences of a source are found as from a place of its own, if the
lines leave no start marker open or the source closes it first. -/
theorem occurrencesFrom_append_of_ended {before : Text} (nonempty : markers.start ≠ [])
    (startOnOneLine : '\n' ∉ markers.start) (finishOnOneLine : '\n' ∉ markers.finish)
    (context : Text) (ended : IsEnded before)
    (settled : (∀ occurrence ∈ occurrencesFrom markers (Place.behind context) before,
      occurrence.isClosed = true) ∨ ClosesFirst markers source) :
    ∃ earlier, occurrencesFrom markers (Place.behind context) (before ++ source) =
      earlier ++ occurrencesFrom markers (Place.behind (context ++ before)) source := by
  generalize placed : Place.behind context = place at settled ⊢
  fun_induction occurrencesFrom markers place before generalizing context with
  | case1 place before isNothing =>
      have searches := cuts markers before
      rw [isNothing] at searches
      cases searches with
      | nothing missed =>
          have passed := find?_ended_append startOnOneLine ended
            ((find?_eq_none_iff ..).mp missed) source
          exact ⟨[], by rw [← placed, occurrencesFrom_append passed, List.nil_append]⟩
  | case2 place before lead capture isUnclosed =>
      rcases settled with allClosed | closesFirst
      · have closed := allClosed _ List.mem_cons_self
        cases closed
      · rcases occurrencesFrom_append_of_unclosed nonempty finishOnOneLine ended isUnclosed
          closesFirst context with ⟨block, found⟩
        exact ⟨[.block block], by rw [← placed, found, List.singleton_append]⟩
  | case3 place before pieces isClosed induction =>
      have consumed := consumed_append_of_cut isClosed
      have afterSettled := settled.imp_left fun allClosed occurrence member =>
        allClosed occurrence (List.mem_cons_of_mem _ member)
      rw [← consumed] at ended
      rcases induction (context ++ pieces.consumed) ended.of_append
        (by rw [← placed, Place.after_behind]) afterSettled with ⟨earlier, found⟩
      let extended : Pieces := { pieces with after := pieces.after ++ source }
      refine ⟨.block (extended.block place) :: earlier, ?_⟩
      rw [occurrencesFrom_of_closed (cut_append_of_closed isClosed source), ← consumed,
        ← List.append_assoc, List.cons_append, ← found]
      rfl

/-! ## Counting lines from another place -/

/-- The same place some lines further down. -/
def Place.below (lines : Nat) (place : Place) : Place :=
  { place with line := place.line + lines }

/-- The same occurrence some lines further down. -/
def Occurrence.below (lines : Nat) : Occurrence → Occurrence
  | .block marked => .block { marked with line := marked.line + lines }
  | .unterminated line capture => .unterminated (line + lines) capture

theorem Place.after_below (lines : Nat) (place : Place) (text : Text) :
    (place.below lines).after text = (place.after text).below lines := by
  simp only [Place.after, Place.below, Place.mk.injEq, and_true]
  omega

theorem occurrencesFrom_below (lines : Nat) :
    occurrencesFrom markers (place.below lines) source =
      (occurrencesFrom markers place source).map (Occurrence.below lines) := by
  fun_induction occurrencesFrom markers place source with
  | case1 place source isNothing =>
      rw [occurrencesFrom_of_nothing isNothing]
      rfl
  | case2 place source before capture isUnclosed =>
      rw [occurrencesFrom_of_unclosed isUnclosed, Place.after_below]
      rfl
  | case3 place source pieces isClosed induction =>
      rw [occurrencesFrom_of_closed isClosed, Place.after_below, induction, List.map_cons]
      simp only [Occurrence.below, Pieces.block, Place.after_below]
      rfl

theorem Place.behind_ended {before : Text} (ended : IsEnded before) :
    Place.behind before = Place.below (lineFeeds before) {} := by
  rcases ended.exists_unlines with ⟨content, -, rfl⟩
  simp [Place.behind, Place.below, lastLine_unlines]

/-! ## What is found behind ended lines -/

/-- A start marker of the source begins before its first end marker is over. -/
def OpensFirst (markers : Markers) (source : Text) : Prop :=
  ∃ opening closing, StandsAt markers.start source opening ∧
    FirstFrom (StandsAt markers.finish source) 0 closing ∧
      opening < closing + markers.finish.length

theorem closesFirst_of_not_opensFirst (contains : Contains markers.finish source)
    (notFirst : ¬OpensFirst markers source) : ClosesFirst markers source := by
  cases closes : find? markers.finish source with
  | none => exact absurd contains ((find?_eq_none_iff ..).mp closes)
  | some closing =>
      refine ⟨closing, closes, ?_⟩
      intro position before stands
      have isFirst := firstFrom_of_find? [] closes
      have markerLength := (leftmost_of_find? closes).folds.length_eq
      rw [List.length_append, markerLength] at before
      exact notFirst ⟨position, _, stands, isFirst, by simpa using before⟩

/-- Without an end marker there is no block. -/
theorem not_isClosed_of_not_contains (endless : ¬Contains markers.finish source) :
    ∀ occurrence ∈ occurrencesFrom markers place source, occurrence.isClosed = false := by
  intro occurrence member
  cases isCut : cut markers source with
  | nothing =>
      rw [occurrencesFrom_of_nothing isCut] at member
      cases member
  | unclosed before capture =>
      rw [occurrencesFrom_of_unclosed isCut] at member
      rw [List.mem_singleton.mp member]
      rfl
  | closed pieces =>
      have searches := cuts markers source
      rw [isCut] at searches
      cases searches with
      | @closed opening closing line body found marked _ closes =>
          exfalso
          apply endless
          rw [(leftmost_of_find? found).whole, marked, List.append_cons, ← List.append_assoc]
          exact Contains.append_left ⟨_, (leftmost_of_find? closes).standsAt⟩ _

end Scenarist.Comment
