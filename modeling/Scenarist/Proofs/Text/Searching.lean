import Scenarist.Text.Line
import Scenarist.Text.Search

/-! # Where a text stands in another

A place in a text is a position, counted in characters from the beginning. What
a search answers is said in terms of positions, so that the answers of searches
begun at different places of one text can be compared. -/

namespace Scenarist.Text

/-! ## Positions -/

/-- Equal up to the case of ASCII letters. -/
def Folds (first second : Text) : Prop :=
  first.map Char.toLower = second.map Char.toLower

/-- The characters from one position up to another. -/
def slice (text : Text) (first last : Nat) : Text :=
  (text.take last).drop first

/-- The sought text begins at a position, in any case. -/
def StandsAt (sought text : Text) (position : Nat) : Prop :=
  position ≤ text.length ∧ Folds ((text.drop position).take sought.length) sought

def Contains (sought text : Text) : Prop :=
  ∃ position, StandsAt sought text position

def FeedAt (text : Text) (position : Nat) : Prop :=
  text[position]? = some '\n'

/-- The first position at or after a start where something is the case. -/
structure FirstFrom (holds : Nat → Prop) (start position : Nat) : Prop where
  reached : start ≤ position
  here : holds position
  notBefore : ∀ earlier, start ≤ earlier → earlier < position → ¬holds earlier

def NowhereFrom (holds : Nat → Prop) (start : Nat) : Prop :=
  ∀ position, start ≤ position → ¬holds position

theorem FirstFrom.unique {holds : Nat → Prop} {start first second : Nat}
    (isFirst : FirstFrom holds start first) (isSecond : FirstFrom holds start second) :
    first = second := by
  rcases Nat.lt_trichotomy first second with less | equal | greater
  · exact absurd isFirst.here (isSecond.notBefore first isFirst.reached less)
  · exact equal
  · exact absurd isSecond.here (isFirst.notBefore second isSecond.reached greater)

theorem FirstFrom.not_nowhereFrom {holds : Nat → Prop} {start position : Nat}
    (isFirst : FirstFrom holds start position) : ¬NowhereFrom holds start :=
  fun nowhere => nowhere position isFirst.reached isFirst.here

/-- What holds nowhere before a place, and holds at it, holds there first. -/
theorem firstFrom_of_shift {holds shifted : Nat → Prop} {start position : Nat}
    (shift : ∀ offset, holds (start + offset) ↔ shifted offset) (here : shifted position)
    (notBefore : ∀ earlier, earlier < position → ¬shifted earlier) :
    FirstFrom holds start (start + position) := by
  refine ⟨Nat.le_add_right start position, (shift position).mpr here, ?_⟩
  intro earlier reached before there
  have offset : start + (earlier - start) = earlier := by omega
  rw [← offset, shift] at there
  exact notBefore (earlier - start) (by omega) there

theorem nowhereFrom_of_shift {holds shifted : Nat → Prop} {start : Nat}
    (shift : ∀ offset, holds (start + offset) ↔ shifted offset)
    (nowhere : ∀ offset, ¬shifted offset) : NowhereFrom holds start := by
  intro position reached there
  have offset : start + (position - start) = position := by omega
  rw [← offset, shift] at there
  exact nowhere (position - start) there

/-! ## Standing at a position -/

theorem Folds.length_eq {first second : Text} (folds : Folds first second) :
    first.length = second.length := by
  simpa using congrArg List.length folds

/-- Only a letter stands for another character. -/
theorem eq_of_toLower_eq {character mark : Char} (notLetter : mark.isLower = false)
    (lower : character.toLower = mark) : character = mark := by
  unfold Char.toLower at lower
  split at lower
  · next isUpper =>
      have code : character.val + 32 = mark.val := congrArg Char.val lower
      have atLeast : 65 ≤ character.val := isUpper.1
      have atMost : character.val ≤ 90 := isUpper.2
      have isLower : mark.isLower = true := by
        apply Bool.and_eq_true_iff.mpr
        simp only [decide_eq_true_eq]
        grind
      rw [notLetter] at isLower
      cases isLower
  · exact lower

theorem Folds.lineFeed_mem {first second : Text} (folds : Folds first second)
    (member : '\n' ∈ first) : '\n' ∈ second := by
  have folded : '\n' ∈ first.map Char.toLower := List.mem_map.mpr ⟨'\n', member, rfl⟩
  rw [folds] at folded
  rcases List.mem_map.mp folded with ⟨character, characterMember, lower⟩
  exact eq_of_toLower_eq rfl lower ▸ characterMember

theorem standsAt_append (sought before text : Text) (offset : Nat) :
    StandsAt sought (before ++ text) (before.length + offset) ↔
      StandsAt sought text offset := by
  simp [StandsAt, List.drop_length_add_append]

theorem feedAt_append (before text : Text) (offset : Nat) :
    FeedAt (before ++ text) (before.length + offset) ↔ FeedAt text offset := by
  simp [FeedAt, List.getElem?_append_right]

theorem standsAt_cons_succ (sought text : Text) (head : Char) (position : Nat) :
    StandsAt sought (head :: text) (position + 1) ↔ StandsAt sought text position := by
  simp [StandsAt]

theorem standsAt_zero (sought text : Text) :
    StandsAt sought text 0 ↔ Folds (text.take sought.length) sought := by
  simp [StandsAt]

theorem StandsAt.add_length_le {sought text : Text} {position : Nat}
    (stands : StandsAt sought text position) : position + sought.length ≤ text.length := by
  rcases stands with ⟨inside, folds⟩
  have lengths := folds.length_eq
  simp only [List.length_take, List.length_drop] at lengths
  omega

/-- A text that stands in a slice stands at the same place of the whole. -/
theorem StandsAt.of_slice {sought text : Text} {first last position : Nat}
    (stands : StandsAt sought (slice text first last) position) (ordered : first ≤ last)
    (inside : last ≤ text.length) :
    StandsAt sought text (first + position) ∧ first + position + sought.length ≤ last := by
  have bound := stands.add_length_le
  rcases stands with ⟨-, folds⟩
  simp only [slice, List.length_drop, List.length_take] at bound
  have fits : sought.length ≤ last - first - position := by omega
  refine ⟨⟨by omega, ?_⟩, by omega⟩
  simpa [slice, List.drop_take, List.take_take, Nat.min_eq_left fits] using folds

/-- Before the first place where a nonempty text stands it is not contained. -/
theorem FirstFrom.not_contains_slice {sought text : Text} {start position : Nat}
    (isFirst : FirstFrom (StandsAt sought text) start position) (nonempty : sought ≠ []) :
    ¬Contains sought (slice text start position) := by
  intro contains
  rcases contains with ⟨offset, stands⟩
  have positive : 0 < sought.length := List.length_pos_iff.mpr nonempty
  rcases stands.of_slice isFirst.reached isFirst.here.1 with ⟨stands, bound⟩
  exact isFirst.notBefore (start + offset) (Nat.le_add_right start offset) (by omega) stands

theorem NowhereFrom.not_contains_slice {sought text : Text} {start : Nat}
    (nowhere : NowhereFrom (StandsAt sought text) start) (inside : start ≤ text.length) :
    ¬Contains sought (slice text start text.length) := by
  intro contains
  rcases contains with ⟨offset, stands⟩
  exact nowhere (start + offset) (Nat.le_add_right start offset)
    (stands.of_slice inside (Nat.le_refl _)).1

/-! ## The search -/

theorem stripFolded_eq_some_iff (sought text taken left : Text) :
    stripFolded sought text = some (taken, left) ↔ text = taken ++ left ∧ Folds taken sought := by
  induction sought generalizing text taken with
  | nil =>
      simp only [stripFolded, Folds, List.map_nil, List.map_eq_nil_iff, Option.some.injEq,
        Prod.mk.injEq]
      constructor
      · intro taking
        rcases taking with ⟨rfl, rfl⟩
        exact ⟨rfl, rfl⟩
      · intro begins
        rcases begins with ⟨whole, rfl⟩
        exact ⟨rfl, whole⟩
  | cons expected sought induction =>
      cases text with
      | nil =>
          simp only [stripFolded, reduceCtorEq, false_iff, not_and]
          intro whole folds
          have empty := (List.append_eq_nil_iff.mp whole.symm).1
          simp [empty, Folds] at folds
      | cons head rest =>
          cases taken with
          | nil => simp [stripFolded, Folds]
          | cons first taken =>
              have step := induction rest taken
              by_cases same : head.toLower = expected.toLower
              · simp only [stripFolded, sameLetter, same, decide_true, if_true,
                  Option.map_eq_some_iff, Prod.mk.injEq, Prod.exists, List.cons.injEq]
                simp only [Folds, List.map_cons, List.cons.injEq, List.cons_append]
                constructor
                · intro stripped
                  rcases stripped with ⟨_, _, found, ⟨rfl, rfl⟩, rfl⟩
                  rcases step.mp found with ⟨whole, folds⟩
                  exact ⟨⟨rfl, whole⟩, same, folds⟩
                · intro begins
                  rcases begins with ⟨⟨rfl, whole⟩, -, folds⟩
                  exact ⟨taken, left, step.mpr ⟨whole, folds⟩, ⟨rfl, rfl⟩, rfl⟩
              · simp only [stripFolded, sameLetter, same, decide_false, Bool.false_eq_true,
                  if_false, reduceCtorEq, false_iff, not_and, Folds, List.map_cons,
                  List.cons.injEq, List.cons_append]
                intro begins folded
                rcases begins with ⟨rfl, -⟩
                exact absurd folded same

theorem stripFolded_eq_none_iff (sought text : Text) :
    stripFolded sought text = none ↔ ¬StandsAt sought text 0 := by
  rw [standsAt_zero, Option.eq_none_iff_forall_ne_some]
  constructor
  · intro unmatched folds
    refine unmatched (text.take sought.length, text.drop sought.length) ?_
    exact (stripFolded_eq_some_iff ..).mpr ⟨by simp, folds⟩
  · intro absent answer stripped
    rcases answer with ⟨taken, left⟩
    rcases (stripFolded_eq_some_iff ..).mp stripped with ⟨whole, folds⟩
    apply absent
    rw [whole, ← folds.length_eq]
    simpa using folds

/-- A successful search cuts the text at the leftmost place. -/
structure Leftmost (sought text : Text) (place : Found) : Prop where
  whole : text = place.before ++ (place.found ++ place.after)
  folds : Folds place.found sought
  notBefore : ∀ position, position < place.before.length → ¬StandsAt sought text position

theorem leftmost_of_find? {sought text : Text} {place : Found}
    (found : find? sought text = some place) : Leftmost sought text place := by
  fun_induction find? sought text generalizing place with
  | case1 text taken left stripped =>
      cases found
      rcases (stripFolded_eq_some_iff ..).mp stripped with ⟨whole, folds⟩
      exact ⟨whole, folds, by simp⟩
  | case2 => cases found
  | case3 head rest unmatched induction =>
      rcases Option.map_eq_some_iff.mp found with ⟨inner, innerFound, rfl⟩
      have leftmost := induction innerFound
      refine ⟨by simp [← leftmost.whole], leftmost.folds, ?_⟩
      intro position before
      cases position with
      | zero => exact (stripFolded_eq_none_iff ..).mp unmatched
      | succ position =>
          rw [standsAt_cons_succ]
          exact leftmost.notBefore position (by simpa using before)

theorem find?_eq_none_iff (sought text : Text) :
    find? sought text = none ↔ ¬Contains sought text := by
  fun_induction find? sought text with
  | case1 text taken left stripped =>
      simp only [reduceCtorEq, false_iff, Classical.not_not]
      refine ⟨0, Classical.not_not.mp fun absent => ?_⟩
      rw [(stripFolded_eq_none_iff ..).mpr absent] at stripped
      cases stripped
  | case2 unmatched =>
      simp only [true_iff]
      intro contains
      rcases contains with ⟨position, stands⟩
      have atZero : position = 0 := Nat.le_zero.mp stands.1
      exact (stripFolded_eq_none_iff ..).mp unmatched (atZero ▸ stands)
  | case3 head rest unmatched induction =>
      rw [Option.map_eq_none_iff, induction]
      constructor
      · intro absent contains
        rcases contains with ⟨position, stands⟩
        cases position with
        | zero => exact (stripFolded_eq_none_iff ..).mp unmatched stands
        | succ position => exact absent ⟨position, (standsAt_cons_succ ..).mp stands⟩
      · intro absent contains
        rcases contains with ⟨position, stands⟩
        exact absent ⟨position + 1, (standsAt_cons_succ ..).mpr stands⟩

instance (sought text : Text) : Decidable (Contains sought text) :=
  decidable_of_iff (find? sought text ≠ none) (by rw [Ne, find?_eq_none_iff, Classical.not_not])

theorem Leftmost.standsAt {sought text : Text} {place : Found}
    (leftmost : Leftmost sought text place) : StandsAt sought text place.before.length := by
  refine ⟨by simp [leftmost.whole], ?_⟩
  rw [leftmost.whole, ← leftmost.folds.length_eq]
  simpa using leftmost.folds

/-! ## Searches begun inside a text -/

theorem firstFrom_of_find? {sought text : Text} {place : Found} (before : Text)
    (found : find? sought text = some place) :
    FirstFrom (StandsAt sought (before ++ text)) before.length
      (before.length + place.before.length) := by
  have leftmost := leftmost_of_find? found
  exact firstFrom_of_shift (standsAt_append sought before text) leftmost.standsAt
    leftmost.notBefore

theorem nowhereFrom_of_find? {sought text : Text} (before : Text)
    (missed : find? sought text = none) :
    NowhereFrom (StandsAt sought (before ++ text)) before.length := by
  apply nowhereFrom_of_shift (standsAt_append sought before text)
  exact fun offset stands => (find?_eq_none_iff ..).mp missed ⟨offset, stands⟩

theorem afterLineFeed_eq_some_iff (text rest : Text) :
    afterLineFeed text = some rest ↔ ∃ line, '\n' ∉ line ∧ text = line ++ '\n' :: rest := by
  induction text with
  | nil => simp [afterLineFeed]
  | cons head tail induction =>
      by_cases feed : head = '\n'
      · subst feed
        simp only [afterLineFeed, if_true, Option.some.injEq]
        constructor
        · intro equal
          subst equal
          exact ⟨[], by simp, rfl⟩
        · intro begins
          rcases begins with ⟨line, lineFeedless, whole⟩
          cases line with
          | nil => exact (List.cons.inj whole).2
          | cons first line =>
              have first := (List.cons.inj whole).1
              simp [← first] at lineFeedless
      · simp only [afterLineFeed, feed, if_false, induction]
        constructor
        · intro begins
          rcases begins with ⟨line, lineFeedless, rfl⟩
          exact ⟨head :: line, by simp [lineFeedless, Ne.symm feed], rfl⟩
        · intro begins
          rcases begins with ⟨line, lineFeedless, whole⟩
          cases line with
          | nil => exact absurd (List.cons.inj whole).1 feed
          | cons first line =>
              exact ⟨line, fun member => lineFeedless (List.mem_cons_of_mem first member),
                (List.cons.inj whole).2⟩

theorem afterLineFeed_eq_none_iff (text : Text) : afterLineFeed text = none ↔ '\n' ∉ text := by
  induction text with
  | nil => simp [afterLineFeed]
  | cons head tail induction =>
      by_cases feed : head = '\n'
      · simp [afterLineFeed, feed]
      · simp [afterLineFeed, feed, induction, Ne.symm feed]

theorem firstFrom_lineFeed {line : Text} (before rest : Text) (lineFeedless : '\n' ∉ line) :
    FirstFrom (FeedAt (before ++ (line ++ '\n' :: rest))) before.length
      (before.length + line.length) := by
  apply firstFrom_of_shift (feedAt_append before (line ++ '\n' :: rest))
  · simp [FeedAt]
  · intro earlier inLine there
    rw [FeedAt, List.getElem?_append_left inLine] at there
    exact lineFeedless (List.mem_of_getElem? there)

theorem nowhereFrom_lineFeed {text : Text} (before : Text) (lineFeedless : '\n' ∉ text) :
    NowhereFrom (FeedAt (before ++ text)) before.length := by
  apply nowhereFrom_of_shift (feedAt_append before text)
  exact fun offset there => lineFeedless (List.mem_of_getElem? there)

end Scenarist.Text
