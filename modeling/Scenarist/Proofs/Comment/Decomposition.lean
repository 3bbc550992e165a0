import Scenarist.Comment.Block
import Scenarist.Proofs.Text.Lines
import Scenarist.Proofs.Text.Searching

/-! # The decomposition of a source into blocks

Which blocks a source has is said by positions alone: each start marker is the
first one after the block before it, and each block ends at the first end marker
behind the line of its start marker. There is one such decomposition, and the
occurrences found in a source are read off it. -/

namespace Scenarist.Comment

open Text

/-- Where a terminated block opens, where its text begins and where its end marker
stands. -/
structure Span where
  opening : Nat
  body : Nat
  closing : Nat
deriving DecidableEq, Repr

/-- A start marker that nothing closes. The text behind its line may be missing. -/
structure Unclosed where
  opening : Nat
  body : Option Nat
deriving DecidableEq, Repr

/-- The decomposition of a source from a position on. -/
inductive Decomposes (markers : Markers) (source : Text) :
    Nat → List Span → Option Unclosed → Prop
  | finished {position : Nat} :
      NowhereFrom (StandsAt markers.start source) position →
      Decomposes markers source position [] none
  | withoutBody {position opening : Nat} :
      FirstFrom (StandsAt markers.start source) position opening →
      NowhereFrom (FeedAt source) opening →
      Decomposes markers source position [] (some ⟨opening, none⟩)
  | withoutEnd {position opening feed : Nat} :
      FirstFrom (StandsAt markers.start source) position opening →
      FirstFrom (FeedAt source) opening feed →
      NowhereFrom (StandsAt markers.finish source) (feed + 1) →
      Decomposes markers source position [] (some ⟨opening, some (feed + 1)⟩)
  | block {position opening feed closing : Nat} {spans : List Span}
        {unclosed : Option Unclosed} :
      FirstFrom (StandsAt markers.start source) position opening →
      FirstFrom (FeedAt source) opening feed →
      FirstFrom (StandsAt markers.finish source) (feed + 1) closing →
      Decomposes markers source (closing + markers.finish.length) spans unclosed →
      Decomposes markers source position (⟨opening, feed + 1, closing⟩ :: spans) unclosed

/-! What is reported of a span, and of a start marker that nothing closes, is
read off the source. -/

def lineAt (source : Text) (position : Nat) : Nat :=
  1 + lineFeeds (source.take position)

namespace Span

def text (source : Text) (span : Span) : Text :=
  slice source span.body span.closing

def block (markers : Markers) (source : Text) (span : Span) : Block where
  line := lineAt source span.opening
  text := span.text source
  identifier :=
    afterLineFeed (source.drop (span.closing + markers.finish.length)) >>= declaredName
  lead := trim (lastLine (source.take span.opening))

end Span

def Unclosed.occurrence (source : Text) (unclosed : Unclosed) : Occurrence :=
  .unterminated (lineAt source unclosed.opening)
    (match unclosed.body with
      | none => []
      | some body => preview (source.drop body))

/-- The occurrences of a decomposition, the unclosed one last. -/
def report (markers : Markers) (source : Text) (spans : List Span)
    (unclosed : Option Unclosed) : List Occurrence :=
  spans.map (fun span => .block (span.block markers source)) ++
    unclosed.toList.map fun marker => marker.occurrence source

/-- The stretches before each start marker, and behind the last block. -/
def gaps (markers : Markers) (source : Text) (unclosed : Option Unclosed) :
    Nat → List Span → List (Nat × Nat)
  | position, [] => [(position, (unclosed.map Unclosed.opening).getD source.length)]
  | position, span :: spans =>
    (position, span.opening) ::
      gaps markers source unclosed (span.closing + markers.finish.length) spans

/-! ## There is one decomposition -/

theorem Decomposes.unique {markers : Markers} {source : Text} {position : Nat}
    {first second : List Span} {firstUnclosed secondUnclosed : Option Unclosed}
    (isFirst : Decomposes markers source position first firstUnclosed)
    (isSecond : Decomposes markers source position second secondUnclosed) :
    second = first ∧ secondUnclosed = firstUnclosed := by
  induction isFirst generalizing second secondUnclosed with
  | finished nowhere =>
      cases isSecond with
      | finished => exact ⟨rfl, rfl⟩
      | withoutBody opens => exact absurd nowhere opens.not_nowhereFrom
      | withoutEnd opens => exact absurd nowhere opens.not_nowhereFrom
      | block opens => exact absurd nowhere opens.not_nowhereFrom
  | withoutBody opens lineless =>
      cases isSecond with
      | finished nowhere => exact absurd nowhere opens.not_nowhereFrom
      | withoutBody otherOpens => simp [opens.unique otherOpens]
      | withoutEnd otherOpens feeds =>
          cases opens.unique otherOpens
          exact absurd lineless feeds.not_nowhereFrom
      | block otherOpens feeds =>
          cases opens.unique otherOpens
          exact absurd lineless feeds.not_nowhereFrom
  | withoutEnd opens feeds endless =>
      cases isSecond with
      | finished nowhere => exact absurd nowhere opens.not_nowhereFrom
      | withoutBody otherOpens lineless =>
          cases opens.unique otherOpens
          exact absurd lineless feeds.not_nowhereFrom
      | withoutEnd otherOpens otherFeeds =>
          cases opens.unique otherOpens
          simp [feeds.unique otherFeeds]
      | block otherOpens otherFeeds closes =>
          cases opens.unique otherOpens
          cases feeds.unique otherFeeds
          exact absurd endless closes.not_nowhereFrom
  | block opens feeds closes _ induction =>
      cases isSecond with
      | finished nowhere => exact absurd nowhere opens.not_nowhereFrom
      | withoutBody otherOpens lineless =>
          cases opens.unique otherOpens
          exact absurd lineless feeds.not_nowhereFrom
      | withoutEnd otherOpens otherFeeds endless =>
          cases opens.unique otherOpens
          cases feeds.unique otherFeeds
          exact absurd endless closes.not_nowhereFrom
      | block otherOpens otherFeeds otherCloses otherRest =>
          cases opens.unique otherOpens
          cases feeds.unique otherFeeds
          cases closes.unique otherCloses
          rcases induction otherRest with ⟨sameSpans, sameUnclosed⟩
          exact ⟨by rw [sameSpans], sameUnclosed⟩

/-! ## Places

Reading on from a place is reading on from the text before it. -/

/-- The place at which the text before it ends. -/
def Place.behind (before : Text) : Place where
  line := 1 + lineFeeds before
  lead := lastLine before

theorem lastLine_append (first second : Text) :
    lastLine (first ++ second) =
      if '\n' ∈ second then lastLine second else lastLine first ++ second := by
  rw [lastLine, List.reverse_append]
  by_cases feed : '\n' ∈ second
  · have shorter : ((second.reverse.takeWhile fun character => character ≠ '\n').length ≠
        second.reverse.length) := by
      intro sameLength
      have begins : _ <+: second.reverse :=
        List.takeWhile_prefix fun character => character ≠ '\n'
      have whole := begins.eq_of_length sameLength
      have kept := List.all_eq_true.mp (List.all_takeWhile (l := second.reverse)) '\n'
        (whole ▸ List.mem_reverse.mpr feed)
      simp at kept
    rw [List.takeWhile_append, if_neg shorter, if_pos feed, lastLine]
  · have feedless : ∀ character ∈ second.reverse, decide (character ≠ '\n') = true := by
      intro character member
      have different : character ≠ '\n' := by
        intro equal
        subst equal
        exact feed (List.mem_reverse.mp member)
      simpa using different
    rw [List.takeWhile_append_of_pos feedless, if_neg feed, lastLine, List.reverse_append,
      List.reverse_reverse]

theorem lastLine_unlines (content : List Text) : lastLine (unlines content) = [] := by
  rcases List.eq_nil_or_concat content with rfl | ⟨before, line, rfl⟩
  · rfl
  · simp [lastLine]

theorem Place.after_behind (before text : Text) :
    (Place.behind before).after text = Place.behind (before ++ text) := by
  simp [Place.after, Place.behind, lastLine_append, lineFeeds_append, Nat.add_assoc]

/-! ## The occurrences follow the decomposition -/

/-- The span of a block whose pieces are cut off at a position. -/
def Pieces.span (position : Nat) (pieces : Pieces) : Span where
  opening := position + pieces.before.length
  body := position + pieces.before.length + pieces.startLine.length
  closing := position + pieces.before.length + pieces.startLine.length + pieces.text.length

/-- What cutting answers, with the searches that led to the answer. -/
inductive Cuts (markers : Markers) (source : Text) : Cut → Prop
  | nothing :
      find? markers.start source = none →
      Cuts markers source .nothing
  | withoutBody {opening : Found} :
      find? markers.start source = some opening →
      '\n' ∉ opening.found ++ opening.after →
      Cuts markers source (.unclosed opening.before [])
  | withoutEnd {opening : Found} {line body : Text} :
      find? markers.start source = some opening →
      opening.found ++ opening.after = line ++ '\n' :: body → '\n' ∉ line →
      find? markers.finish body = none →
      Cuts markers source (.unclosed opening.before (preview body))
  | closed {opening closing : Found} {line body : Text} :
      find? markers.start source = some opening →
      opening.found ++ opening.after = line ++ '\n' :: body → '\n' ∉ line →
      find? markers.finish body = some closing →
      Cuts markers source
        (.closed ⟨opening.before, line ++ ['\n'], closing.before, closing.found, closing.after⟩)

theorem upToLineFeed_append_cons {line : Text} (lineFeedless : '\n' ∉ line) (rest : Text) :
    upToLineFeed (line ++ '\n' :: rest) = line ++ ['\n'] := by
  induction line with
  | nil => rfl
  | cons head line induction =>
      rcases List.ne_and_not_mem_of_not_mem_cons lineFeedless with ⟨different, lineFeedless⟩
      simp [upToLineFeed, Ne.symm different, induction lineFeedless]

theorem cuts (markers : Markers) (source : Text) : Cuts markers source (cut markers source) := by
  simp only [cut]
  split
  · next missed => exact .nothing missed
  · next opening found =>
      split
      · next lineless =>
          exact .withoutBody found ((afterLineFeed_eq_none_iff _).mp lineless)
      · next body bodyFound =>
          rcases (afterLineFeed_eq_some_iff _ _).mp bodyFound with ⟨line, lineFeedless, marked⟩
          split
          · next missed => exact .withoutEnd found marked lineFeedless missed
          · next closing closes =>
              rw [marked, upToLineFeed_append_cons lineFeedless]
              exact .closed found marked lineFeedless closes

/-- Searches that succeed give the pieces of a block. -/
theorem cut_eq_closed {markers : Markers} {source line body : Text} {opening closing : Found}
    (found : find? markers.start source = some opening)
    (marked : opening.found ++ opening.after = line ++ '\n' :: body) (lineFeedless : '\n' ∉ line)
    (closes : find? markers.finish body = some closing) :
    cut markers source = .closed
      ⟨opening.before, line ++ ['\n'], closing.before, closing.found, closing.after⟩ := by
  have behind : afterLineFeed (line ++ '\n' :: body) = some body :=
    (afterLineFeed_eq_some_iff _ _).mpr ⟨line, lineFeedless, rfl⟩
  simp only [cut, found, marked, behind, closes, upToLineFeed_append_cons lineFeedless]

theorem Unclosed.occurrence_of_lead (before lead rest capture : Text) (body : Option Nat)
    (captured : capture = match body with
      | none => []
      | some body => preview ((before ++ (lead ++ rest)).drop body)) :
    Unclosed.occurrence (before ++ (lead ++ rest)) ⟨before.length + lead.length, body⟩ =
      .unterminated (Place.behind (before ++ lead)).line capture := by
  rw [captured]
  simp [Unclosed.occurrence, lineAt, Place.behind, ← List.append_assoc, ← List.length_append]

section

variable {markers : Markers} {source : Text}

theorem finished_of_cut (before : Text) (isNothing : cut markers source = .nothing) :
    Decomposes markers (before ++ source) before.length [] none := by
  have searches := cuts markers source
  rw [isNothing] at searches
  cases searches with
  | nothing missed => exact .finished (nowhereFrom_of_find? before missed)

/-! The line of a start marker ends at the first line feed behind the marker. -/

theorem whole_of_marked {sought line body : Text} {opening : Found} (before : Text)
    (found : find? sought source = some opening)
    (marked : opening.found ++ opening.after = line ++ '\n' :: body) :
    before ++ source = before ++ opening.before ++ (line ++ '\n' :: body) := by
  rw [(leftmost_of_find? found).whole, marked, List.append_assoc]

theorem firstFrom_of_marked {sought line body : Text} {opening : Found} (before : Text)
    (found : find? sought source = some opening)
    (marked : opening.found ++ opening.after = line ++ '\n' :: body)
    (lineFeedless : '\n' ∉ line) :
    FirstFrom (FeedAt (before ++ source)) (before.length + opening.before.length)
      (before.length + opening.before.length + line.length) := by
  rw [whole_of_marked before found marked, ← List.length_append]
  exact firstFrom_lineFeed (before ++ opening.before) body lineFeedless

/-- The text before the body of a block. -/
theorem body_of_marked {sought line body : Text} {opening : Found} (before : Text)
    (found : find? sought source = some opening)
    (marked : opening.found ++ opening.after = line ++ '\n' :: body) :
    ∃ above, before ++ source = above ++ body ∧
      above.length = before.length + opening.before.length + line.length + 1 := by
  refine ⟨before ++ opening.before ++ (line ++ ['\n']), ?_, ?_⟩
  · simp [whole_of_marked before found marked]
  · simp [Nat.add_assoc]

theorem unclosed_of_cut {lead capture : Text} (before : Text)
    (isUnclosed : cut markers source = .unclosed lead capture) :
    ∃ unclosed : Unclosed,
      Decomposes markers (before ++ source) before.length [] (some unclosed) ∧
        unclosed.occurrence (before ++ source) =
          .unterminated (Place.behind (before ++ lead)).line capture := by
  have searches := cuts markers source
  rw [isUnclosed] at searches
  cases searches with
  | @withoutBody opening found lineless =>
      have opens := firstFrom_of_find? before found
      have whole := (leftmost_of_find? found).whole
      have nowhere := nowhereFrom_lineFeed (before ++ opening.before) lineless
      rw [List.append_assoc, ← whole, List.length_append] at nowhere
      refine ⟨_, .withoutBody opens nowhere, ?_⟩
      rw [whole, Unclosed.occurrence_of_lead]
      rfl
  | @withoutEnd opening line body found marked lineFeedless missed =>
      have opens := firstFrom_of_find? before found
      have feeds := firstFrom_of_marked before found marked lineFeedless
      rcases body_of_marked before found marked with ⟨above, context, aboveLength⟩
      have endless := nowhereFrom_of_find? above missed
      rw [← context, aboveLength] at endless
      refine ⟨_, .withoutEnd opens feeds endless, ?_⟩
      have captured : preview body = preview ((before ++ source).drop above.length) := by
        rw [context, List.drop_left]
      rw [aboveLength, (leftmost_of_find? found).whole] at captured
      rw [(leftmost_of_find? found).whole]
      exact Unclosed.occurrence_of_lead before opening.before _ _ (some _) captured

/-- What a cut consumes and what it leaves make up the source. -/
theorem consumed_append_of_cut {pieces : Pieces} (isClosed : cut markers source = .closed pieces) :
    pieces.consumed ++ pieces.after = source := by
  rw [← source_of_cut isClosed]
  simp [Pieces.source, Pieces.consumed]

theorem closed_of_cut {pieces : Pieces} {spans : List Span} {unclosed : Option Unclosed}
    (before : Text) (isClosed : cut markers source = .closed pieces)
    (rest : Decomposes markers (before ++ source) (before ++ pieces.consumed).length
      spans unclosed) :
    Decomposes markers (before ++ source) before.length
      (pieces.span before.length :: spans) unclosed := by
  have searches := cuts markers source
  rw [isClosed] at searches
  cases searches with
  | @closed opening closing line body found marked lineFeedless closes =>
      have opens := firstFrom_of_find? before found
      have feeds := firstFrom_of_marked before found marked lineFeedless
      rcases body_of_marked before found marked with ⟨above, context, aboveLength⟩
      have ends := firstFrom_of_find? above closes
      rw [← context, aboveLength] at ends
      have markerLength := (leftmost_of_find? closes).folds.length_eq
      have consumedLength :
          (before ++ Pieces.consumed ⟨opening.before, line ++ ['\n'], closing.before,
            closing.found, closing.after⟩).length =
          before.length + opening.before.length + line.length + 1 + closing.before.length +
            markers.finish.length := by
        simp only [Pieces.consumed, List.length_append, List.length_singleton, ← markerLength]
        omega
      rw [consumedLength] at rest
      have decomposes := Decomposes.block opens feeds ends rest
      simpa [Pieces.span, Nat.add_assoc] using decomposes

theorem length_endMarker_of_cut {pieces : Pieces}
    (isClosed : cut markers source = .closed pieces) :
    pieces.endMarker.length = markers.finish.length := by
  have searches := cuts markers source
  rw [isClosed] at searches
  cases searches with
  | closed _ _ _ closes => exact (leftmost_of_find? closes).folds.length_eq

theorem slice_append (before piece after : Text) :
    slice (before ++ (piece ++ after)) before.length (before.length + piece.length) = piece := by
  rw [slice, ← List.append_assoc, ← List.length_append, List.take_left, List.drop_left]

/-- What stands behind the end marker of the first block. -/
theorem drop_of_cut {pieces : Pieces} (before : Text)
    (isClosed : cut markers source = .closed pieces) :
    (before ++ source).drop ((pieces.span before.length).closing + markers.finish.length) =
      pieces.after := by
  rw [← source_of_cut isClosed, ← length_endMarker_of_cut isClosed]
  simp only [Pieces.span, Pieces.source, ← List.append_assoc, ← List.length_append, List.drop_left]

theorem block_of_cut {pieces : Pieces} (before : Text)
    (isClosed : cut markers source = .closed pieces) :
    (pieces.span before.length).block markers (before ++ source) =
      pieces.block (Place.behind before) := by
  have opened : (before ++ source).take (before.length + pieces.before.length) =
      before ++ pieces.before := by
    rw [← source_of_cut isClosed, Pieces.source, ← List.append_assoc, ← List.length_append,
      List.take_left]
  have text : (pieces.span before.length).text (before ++ source) = pieces.text := by
    have sliced := slice_append (before ++ pieces.before ++ pieces.startLine) pieces.text
      (pieces.endMarker ++ pieces.after)
    simp only [List.length_append, List.append_assoc] at sliced
    rw [← source_of_cut isClosed]
    simpa [Span.text, Pieces.span, Pieces.source, Nat.add_assoc] using sliced
  rw [Pieces.block, Place.after_behind, Span.block, text, drop_of_cut before isClosed]
  simp only [Pieces.span, lineAt, opened, Place.behind]

/-- From any place on, the occurrences are those of the decomposition from there. -/
theorem occurrencesFrom_decomposes (markers : Markers) (source before : Text) :
    ∃ spans unclosed, Decomposes markers (before ++ source) before.length spans unclosed ∧
      occurrencesFrom markers (Place.behind before) source =
        report markers (before ++ source) spans unclosed := by
  generalize placed : Place.behind before = place
  fun_induction occurrencesFrom markers place source generalizing before with
  | case1 place source isNothing =>
      exact ⟨[], none, finished_of_cut before isNothing, rfl⟩
  | case2 place source lead capture isUnclosed =>
      rcases unclosed_of_cut before isUnclosed with ⟨unclosed, decomposes, occurrence⟩
      refine ⟨[], some unclosed, decomposes, ?_⟩
      simp [report, occurrence, ← placed, Place.after_behind]
  | case3 place source pieces isClosed induction =>
      have context : (before ++ pieces.consumed) ++ pieces.after = before ++ source := by
        rw [List.append_assoc, consumed_append_of_cut isClosed]
      have moved : Place.behind (before ++ pieces.consumed) = place.after pieces.consumed := by
        rw [← placed, Place.after_behind]
      rcases induction (before ++ pieces.consumed) moved with ⟨spans, unclosed, rest, reported⟩
      rw [context] at rest reported
      refine ⟨_, unclosed, closed_of_cut before isClosed rest, ?_⟩
      rw [reported, ← placed, ← block_of_cut before isClosed]
      rfl

end

/-! ## What lies in a span and between two -/

/-- The parts of a span in their order: the start marker on its line, the body, the end
marker. No end marker stands in the body. -/
structure Span.WellPlaced (markers : Markers) (source : Text) (span : Span) : Prop where
  markerBeforeBody : span.opening + markers.start.length < span.body
  bodyBeforeEnd : span.body ≤ span.closing
  endInside : span.closing + markers.finish.length ≤ source.length
  endless : ¬Contains markers.finish (span.text source)

section

variable {markers : Markers} {source : Text}

/-- A start marker on one line stands before the first line feed behind it. -/
theorem markerBeforeBody_of_firstFrom {opening feed : Nat}
    (opens : StandsAt markers.start source opening)
    (feeds : FirstFrom (FeedAt source) opening feed) (oneLine : '\n' ∉ markers.start) :
    opening + markers.start.length < feed + 1 := by
  apply Nat.lt_succ_of_le
  apply Nat.not_lt.mp
  intro inside
  have reached := feeds.reached
  have here : ((source.drop opening).take markers.start.length)[feed - opening]? =
      some '\n' := by
    rw [List.getElem?_take_of_lt (by omega), List.getElem?_drop, Nat.add_sub_cancel' reached]
    exact feeds.here
  exact oneLine (opens.2.lineFeed_mem (List.mem_of_getElem? here))

theorem Decomposes.wellPlaced {position : Nat} {spans : List Span} {unclosed : Option Unclosed}
    (decomposes : Decomposes markers source position spans unclosed)
    (finishNonempty : markers.finish ≠ []) (oneLine : '\n' ∉ markers.start) :
    ∀ span ∈ spans, span.WellPlaced markers source := by
  induction decomposes with
  | finished => simp
  | withoutBody => simp
  | withoutEnd => simp
  | block opens feeds closes _ induction =>
      intro span member
      rcases List.mem_cons.mp member with rfl | member
      · exact ⟨markerBeforeBody_of_firstFrom opens.here feeds oneLine, closes.reached,
          closes.here.add_length_le, closes.not_contains_slice finishNonempty⟩
      · exact induction span member

theorem Decomposes.gaps_free {position : Nat} {spans : List Span} {unclosed : Option Unclosed}
    (decomposes : Decomposes markers source position spans unclosed)
    (startNonempty : markers.start ≠ []) (inside : position ≤ source.length) :
    ∀ gap ∈ gaps markers source unclosed position spans,
      ¬Contains markers.start (slice source gap.1 gap.2) := by
  induction decomposes with
  | finished nowhere =>
      intro gap member
      rw [List.mem_singleton.mp member]
      exact nowhere.not_contains_slice inside
  | withoutBody opens =>
      intro gap member
      rw [List.mem_singleton.mp member]
      exact opens.not_contains_slice startNonempty
  | withoutEnd opens =>
      intro gap member
      rw [List.mem_singleton.mp member]
      exact opens.not_contains_slice startNonempty
  | block opens feeds closes _ induction =>
      intro gap member
      rcases List.mem_cons.mp member with rfl | member
      · exact opens.not_contains_slice startNonempty
      · exact induction closes.here.add_length_le gap member

end

/-- The occurrences found in a source are those of its one decomposition. Its spans are well
placed, and no start marker stands in the text before, between and behind them. -/
theorem occurrences_eq_report (markers : Markers) (source : Text)
    (startNonempty : markers.start ≠ []) (finishNonempty : markers.finish ≠ [])
    (startOnOneLine : '\n' ∉ markers.start) :
    ∃ spans unclosed, Decomposes markers source 0 spans unclosed ∧
      (∀ otherSpans otherUnclosed, Decomposes markers source 0 otherSpans otherUnclosed →
        otherSpans = spans ∧ otherUnclosed = unclosed) ∧
      occurrences markers source = report markers source spans unclosed ∧
      (∀ span ∈ spans, span.WellPlaced markers source) ∧
      ∀ gap ∈ gaps markers source unclosed 0 spans,
        ¬Contains markers.start (slice source gap.1 gap.2) := by
  rcases occurrencesFrom_decomposes markers source [] with ⟨spans, unclosed, decomposes, reported⟩
  refine ⟨spans, unclosed, decomposes, ?_, reported, ?_, ?_⟩
  · intro otherSpans otherUnclosed other
    exact decomposes.unique other
  · exact decomposes.wellPlaced finishNonempty startOnOneLine
  · exact decomposes.gaps_free startNonempty (Nat.zero_le _)

/-- With a block whose markers differ in case from the expected ones, and an unclosed one. -/
theorem occurrences_eq_report_unclosed :
    let source : Text := "// [Gherkin] a\n// b\n// [END]\nfn t() // [gherkin]\nlost"
    ({} : Markers).start ≠ [] ∧ ({} : Markers).finish ≠ [] ∧ '\n' ∉ ({} : Markers).start ∧
      ∃ spans unclosed, Decomposes {} source 0 spans unclosed ∧
        (∀ otherSpans otherUnclosed, Decomposes {} source 0 otherSpans otherUnclosed →
          otherSpans = spans ∧ otherUnclosed = unclosed) ∧
        occurrences {} source = report {} source spans unclosed ∧
        (∀ span ∈ spans, span.WellPlaced {} source) ∧
        ∀ gap ∈ gaps {} source unclosed 0 spans,
          ¬Contains ({} : Markers).start (slice source gap.1 gap.2) := by
  refine ⟨by decide, by decide, by decide, ?_⟩
  exact occurrences_eq_report {} _ (by decide) (by decide) (by decide)

end Scenarist.Comment
