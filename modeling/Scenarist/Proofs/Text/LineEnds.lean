import Scenarist.Proofs.Text.LineSearch
import Scenarist.Proofs.Text.Trimming

/-! # Line ends with carriage returns

Some sources end their lines with a carriage return and a line feed. Reading
lines drops the carriage return again, and a text that holds neither character
is found at the same places. -/

namespace Scenarist.Text

/-- The text with a carriage return before each line feed. -/
def withReturns (text : Text) : Text :=
  text.flatMap fun character => if character = '\n' then ['\r', '\n'] else [character]

example : withReturns "a\n\r\nb" = "a\r\n\r\r\nb" := by decide

@[simp] theorem withReturns_nil : withReturns [] = [] := rfl

@[simp] theorem withReturns_append (first second : Text) :
    withReturns (first ++ second) = withReturns first ++ withReturns second :=
  List.flatMap_append

theorem withReturns_lineFeed (rest : Text) :
    withReturns ('\n' :: rest) = '\r' :: '\n' :: withReturns rest := rfl

theorem withReturns_cons {head : Char} (different : head ≠ '\n') (rest : Text) :
    withReturns (head :: rest) = head :: withReturns rest := by
  simp [withReturns, different]

theorem withReturns_of_not_mem {text : Text} (lineFeedless : '\n' ∉ text) :
    withReturns text = text := by
  induction text with
  | nil => rfl
  | cons head rest induction =>
      rcases List.ne_and_not_mem_of_not_mem_cons lineFeedless with ⟨different, restLineFeedless⟩
      rw [withReturns_cons different.symm, induction restLineFeedless]

/-! ## Lines -/

/-- A line with a carriage return at its end. -/
def returned (line : Text) : Text :=
  line ++ ['\r']

theorem lineFeed_not_mem_returned {line : Text} (lineFeedless : '\n' ∉ line) :
    '\n' ∉ returned line := by
  simp [returned, lineFeedless]

theorem areLines_returned {content : List Text} (areLines : AreLines content) :
    AreLines (content.map returned) := by
  intro line member
  rcases List.mem_map.mp member with ⟨source, inContent, rfl⟩
  exact lineFeed_not_mem_returned (areLines source inContent)

theorem withReturns_unlines_append {content : List Text} {last : Text}
    (areLines : AreLines content) (lastLine : '\n' ∉ last) :
    withReturns (unlines content ++ last) = unlines (content.map returned) ++ last := by
  induction content with
  | nil => exact withReturns_of_not_mem lastLine
  | cons line content induction =>
      have others := induction fun other member => areLines other (List.mem_cons_of_mem line member)
      rw [unlines_cons, List.append_assoc, List.cons_append, withReturns_append,
        withReturns_lineFeed, others, withReturns_of_not_mem (areLines line List.mem_cons_self),
        List.map_cons, unlines_cons]
      simp [returned]

/-- All pieces but the last get a carriage return. -/
theorem exists_split_withReturns (text : Text) : ∃ content last,
    AreLines content ∧ '\n' ∉ last ∧ text = unlines content ++ last ∧
      split '\n' text = content ++ [last] ∧
        split '\n' (withReturns text) = content.map returned ++ [last] := by
  rcases exists_unlines_append text with ⟨content, last, areLines, lastLine, whole, pieces⟩
  refine ⟨content, last, areLines, lastLine, whole, pieces, ?_⟩
  rw [whole, withReturns_unlines_append areLines lastLine,
    split_unlines_append (areLines_returned areLines), split_of_not_mem lastLine]

theorem dropReturn_returned (line : Text) : dropReturn (returned line) = line := by
  simp [dropReturn, returned]

theorem eq_or_returned_dropReturn (line : Text) :
    line = dropReturn line ∨ line = returned (dropReturn line) := by
  unfold dropReturn
  split
  · next ends =>
      rcases List.getLast?_eq_some_iff.mp ends with ⟨kept, rfl⟩
      exact .inr (by simp [returned])
  · exact .inl rfl

theorem closedLines_append (content : List Text) (last : Text) :
    closedLines (content ++ [last]) = content.map dropReturn ++ closedLines [last] := by
  induction content with
  | nil => rfl
  | cons line content induction =>
      cases content with
      | nil => rfl
      | cons next content =>
          have unfolded : closedLines (line :: (next :: (content ++ [last]))) =
              dropReturn line :: closedLines (next :: (content ++ [last])) := by
            cases content <;> rfl
          rw [List.cons_append, List.cons_append, unfolded, ← List.cons_append, induction]
          rfl

/-- What does not look at a carriage return at the end of a line sees the same lines. -/
theorem map_lines_withReturns {α : Type} {view : Text → α}
    (blind : ∀ line, view (returned line) = view line) (text : Text) :
    (lines (withReturns text)).map view = (lines text).map view := by
  have dropped : ∀ line, view (dropReturn line) = view line := by
    intro line
    rcases eq_or_returned_dropReturn line with same | ends
    · rw [← same]
    · rw [ends, dropReturn_returned, blind]
  rcases exists_split_withReturns text with ⟨content, last, -, -, -, pieces, returnedPieces⟩
  rw [lines, lines, pieces, returnedPieces, closedLines_append, closedLines_append]
  simp [dropReturn_returned, dropped]

theorem mapLines_withReturns {change : Text → Text}
    (keepsLines : ∀ line, '\n' ∉ line → '\n' ∉ change line)
    (keepsReturn : ∀ line, change (returned line) = returned (change line)) (text : Text) :
    mapLines change (withReturns text) = withReturns (mapLines change text) := by
  rcases exists_split_withReturns text with
    ⟨content, last, areLines, lastLine, -, pieces, returnedPieces⟩
  have changedLines : AreLines (content.map change) := by
    intro line member
    rcases List.mem_map.mp member with ⟨source, inContent, rfl⟩
    exact keepsLines source (areLines source inContent)
  have commutes : (content.map returned).map change = (content.map change).map returned := by
    simp [Function.comp_def, keepsReturn]
  rw [mapLines, mapLines, pieces, returnedPieces, List.map_append, List.map_append,
    List.map_singleton, join_concat, join_concat,
    withReturns_unlines_append changedLines (keepsLines last lastLine), commutes]

/-! ## Line feeds -/

theorem lineFeeds_withReturns (text : Text) : lineFeeds (withReturns text) = lineFeeds text := by
  induction text with
  | nil => rfl
  | cons head rest induction =>
      by_cases feed : head = '\n'
      · subst feed
        have skipped : lineFeeds ('\r' :: '\n' :: withReturns rest) =
            lineFeeds ('\n' :: withReturns rest) := List.count_cons_of_ne (by decide)
        rw [withReturns_lineFeed, skipped, lineFeeds_cons, lineFeeds_cons, induction]
      · rw [withReturns_cons feed, lineFeeds, lineFeeds, List.count_cons_of_ne feed,
          List.count_cons_of_ne feed]
        exact induction

theorem afterLineFeed_withReturns (text : Text) :
    afterLineFeed (withReturns text) = (afterLineFeed text).map withReturns := by
  induction text with
  | nil => rfl
  | cons head rest induction =>
      by_cases feed : head = '\n'
      · subst feed
        rfl
      · rw [withReturns_cons feed, afterLineFeed, if_neg feed, afterLineFeed, if_neg feed,
          induction]

/-! ## Searching -/

/-- The text holds neither of the characters that end lines. -/
def WithinLine (text : Text) : Prop :=
  '\n' ∉ text ∧ '\r' ∉ text

instance (text : Text) : Decidable (WithinLine text) :=
  inferInstanceAs (Decidable ('\n' ∉ text ∧ '\r' ∉ text))

/-- The same place of the text with carriage returns. -/
def Found.withReturns (place : Found) : Found where
  before := Text.withReturns place.before
  found := Text.withReturns place.found
  after := Text.withReturns place.after

variable {sought : Text}

theorem sameLetter_of_withinLine {character mark : Char} (ends : mark ∈ (['\n', '\r'] : Text))
    (different : character ≠ mark) : sameLetter mark character = false := by
  have folded : mark.toLower = mark ∧ mark.isLower = false := by
    simp only [List.mem_cons, List.not_mem_nil, or_false] at ends
    rcases ends with rfl | rfl <;> decide
  simp only [sameLetter, decide_eq_false_iff_not, folded.1]
  intro same
  exact different (eq_of_toLower_eq folded.2 same.symm)

theorem stripFolded_withReturns (withinLine : WithinLine sought) (text : Text) :
    stripFolded sought (withReturns text) =
      (stripFolded sought text).map fun (taken, left) => (withReturns taken, withReturns left) := by
  induction sought generalizing text with
  | nil => simp [stripFolded]
  | cons expected sought induction =>
      rcases List.ne_and_not_mem_of_not_mem_cons withinLine.1 with ⟨notFeed, soughtFeedless⟩
      rcases List.ne_and_not_mem_of_not_mem_cons withinLine.2 with ⟨notReturn, soughtReturnless⟩
      cases text with
      | nil => rfl
      | cons head rest =>
          by_cases feed : head = '\n'
          · subst feed
            have feedDiffers := sameLetter_of_withinLine (by simp) notFeed.symm
            have returnDiffers := sameLetter_of_withinLine (by simp) notReturn.symm
            simp [withReturns_lineFeed, stripFolded, feedDiffers, returnDiffers]
          · rw [withReturns_cons feed, stripFolded, stripFolded,
              induction ⟨soughtFeedless, soughtReturnless⟩]
            split
            · simp [Function.comp_def, withReturns_cons feed]
            · rfl

theorem neverBegins_of_withinLine (withinLine : WithinLine sought) :
    NeverBegins sought ['\r', '\n'] := by
  intro character member first isFirst lower
  have inSought : first ∈ sought := List.mem_of_head? isFirst
  have different : first ≠ character := by
    intro equal
    subst equal
    simp only [List.mem_cons, List.not_mem_nil, or_false] at member
    rcases member with rfl | rfl
    · exact withinLine.2 inSought
    · exact withinLine.1 inSought
  have unlike := sameLetter_of_withinLine (by simpa [or_comm] using member) different
  simp [sameLetter, lower] at unlike

theorem find?_nil (text : Text) : find? [] text = some ⟨[], [], text⟩ := by
  cases text <;> rfl

theorem find?_withReturns (withinLine : WithinLine sought) (text : Text) :
    find? sought (withReturns text) = (find? sought text).map Found.withReturns := by
  by_cases empty : sought = []
  · rw [empty, find?_nil, find?_nil]
    rfl
  · induction text with
    | nil =>
        have missed : find? sought [] = none := by
          cases sought with
          | nil => exact absurd rfl empty
          | cons first others => rfl
        rw [withReturns_nil, missed]
        rfl
    | cons head rest induction =>
        by_cases feed : head = '\n'
        · subst feed
          have never := neverBegins_of_withinLine withinLine
          have neverFeed : NeverBegins sought ['\n'] := fun character member =>
            never character (List.mem_cons_of_mem _ member)
          have skipped : find? sought ('\r' :: '\n' :: withReturns rest) =
              (find? sought (withReturns rest)).map (Found.behind ['\r', '\n']) :=
            find?_append_of_neverBegins empty never (withReturns rest)
          have passed : find? sought ('\n' :: rest) =
              (find? sought rest).map (Found.behind ['\n']) :=
            find?_append_of_neverBegins empty neverFeed rest
          rw [withReturns_lineFeed, skipped, passed, induction, Option.map_map, Option.map_map]
          rfl
        · have stripped := stripFolded_withReturns withinLine (head :: rest)
          rw [withReturns_cons feed] at stripped ⊢
          rw [find?, find?, stripped]
          cases stripFolded sought (head :: rest) with
          | some answer => rfl
          | none =>
              simp only [Option.map_none, induction, Option.map_map]
              congr 1
              funext place
              simp [Found.withReturns, withReturns_cons feed]

end Scenarist.Text
