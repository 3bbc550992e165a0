import Scenarist.Proofs.Comment.LineCleaning

/-! # Normal forms of cleaned text

A text is in normal form if cleaning has nothing left to do on it. That is said
here without the passes, by what each line must and must not look like. Cleaning
reaches the normal form and stays there. -/

namespace Scenarist.Comment

open Text

/-- A line that says something and carries no trace of the comment it stood in. A single
space at its beginning would be the one that parts a token from the text. -/
structure NormalLine (line : Text) : Prop where
  spoken : isBlankText line = false
  tabless : '\t' ∉ line
  returnless : line.getLast? ≠ some '\r'
  tokenless : ¬['/', '/'] <+: line.dropWhile fun character => character = ' '
  spacerless : ∀ next rest, line = ' ' :: next :: rest → next = ' '

/-- A text that is empty, or ends with a line feed, and has normal lines only. -/
structure Normal (text : Text) : Prop where
  closed : text = [] ∨ text.getLast? = some '\n'
  normalLines : ∀ line ∈ (split '\n' text).dropLast, NormalLine line

theorem normalLine_iff (line : Text) : NormalLine line ↔
    isBlankText line = false ∧ '\t' ∉ line ∧ line.getLast? ≠ some '\r' ∧
      ¬['/', '/'] <+: (line.dropWhile fun character => character = ' ') ∧
        (line.head? = some ' ' → line.tail.head?.all (· = ' ') = true) := by
  have spacer : (∀ next rest, line = ' ' :: next :: rest → next = ' ') ↔
      (line.head? = some ' ' → line.tail.head?.all (· = ' ') = true) := by
    cases line with
    | nil => simp
    | cons head line => cases line <;> simp
  rw [← spacer]
  constructor
  · intro normal
    rcases normal with ⟨spoken, tabless, returnless, tokenless, spacerless⟩
    exact ⟨spoken, tabless, returnless, tokenless, spacerless⟩
  · intro conditions
    rcases conditions with ⟨spoken, tabless, returnless, tokenless, spacerless⟩
    exact ⟨spoken, tabless, returnless, tokenless, spacerless⟩

instance (line : Text) : Decidable (NormalLine line) :=
  decidable_of_iff' _ (normalLine_iff line)

theorem normal_iff (text : Text) : Normal text ↔
    (text = [] ∨ text.getLast? = some '\n') ∧
      ∀ line ∈ (split '\n' text).dropLast, NormalLine line := by
  constructor
  · intro normal
    exact ⟨normal.closed, normal.normalLines⟩
  · intro conditions
    exact ⟨conditions.1, conditions.2⟩

instance (text : Text) : Decidable (Normal text) :=
  decidable_of_iff' _ (normal_iff text)

example : Normal "Scenario: a\n  Given b\n" := by decide
example : ¬Normal " Given b\n" := by decide

/-! A normal text is the same as a list of normal lines. -/

theorem normal_unlines {content : List Text} (areLines : AreLines content)
    (normalLines : ∀ line ∈ content, NormalLine line) : Normal (unlines content) := by
  constructor
  · exact isEnded_unlines content
  · rw [split_unlines areLines, List.dropLast_concat]
    exact normalLines

theorem Normal.exists_unlines {text : Text} (normal : Normal text) : ∃ content,
    AreLines content ∧ (∀ line ∈ content, NormalLine line) ∧ text = unlines content := by
  rcases IsEnded.exists_unlines normal.closed with ⟨content, areLines, rfl⟩
  have normalLines := normal.normalLines
  rw [split_unlines areLines, List.dropLast_concat] at normalLines
  exact ⟨content, areLines, normalLines, rfl⟩

/-! ## Behind the indentation of a normal line -/

theorem token_not_isPrefix {gap : Text} (spaces : ∀ character ∈ gap, isSpace character = true)
    {head : Char} (visible : isSpace head = false) (notSlash : head ≠ '/') (rest : Text) :
    ¬['/', '/'] <+: (gap ++ head :: rest).dropWhile fun character => character = ' ' := by
  intro token
  rw [List.dropWhile_append] at token
  split at token
  · have notSpace : head ≠ ' ' := by
      rintro rfl
      cases visible
    rw [List.dropWhile_cons_of_neg (by simpa using notSpace), List.cons_prefix_cons] at token
    exact notSlash token.1.symm
  · cases left : gap.dropWhile fun character => character = ' ' with
    | nil => simp_all
    | cons first others =>
        rw [left, List.cons_append, List.cons_prefix_cons] at token
        have space := spaces first ((List.dropWhile_suffix _).subset (left ▸ List.mem_cons_self))
        rw [← token.1] at space
        cases space

/-- A single space never indents a normal line, for it would be a spacer. -/
theorem NormalLine.indentation_spacerless {line rest : Text} (normal : NormalLine line)
    (indented : indentation line = ' ' :: rest) : ∃ more, rest = ' ' :: more := by
  have whole := indentation_append_trimStart line
  rw [indented, List.cons_append] at whole
  cases rest with
  | nil =>
      cases kept : trimStart line with
      | nil =>
          have blank := List.all_eq_true.mpr (List.dropWhile_eq_nil_iff.mp kept)
          rw [← isBlankText, normal.spoken] at blank
          cases blank
      | cons first others =>
          have visible : isSpace first = false := head?_dropWhile_kept (congrArg List.head? kept)
          rw [kept] at whole
          rw [normal.spacerless first others whole.symm] at visible
          cases visible
  | cons second more =>
      rw [normal.spacerless second (more ++ trimStart line) whole.symm]
      exact ⟨more, rfl⟩

/-- Behind the indentation of a normal line anything may stand that begins visibly and not with a
slash, holds no tab and ends in no carriage return. -/
theorem NormalLine.indentation_append {line rest : Text} {head : Char} (normal : NormalLine line)
    (visible : isSpace head = false) (notSlash : head ≠ '/') (tabless : '\t' ∉ head :: rest)
    (returnless : (head :: rest).getLast? ≠ some '\r') :
    NormalLine (indentation line ++ head :: rest) where
  spoken := by
    rw [isBlankText, List.all_append, List.all_cons, visible, Bool.false_and, Bool.and_false]
  tabless := List.not_mem_append
    (fun tab => normal.tabless ((List.takeWhile_prefix isSpace).subset tab)) tabless
  returnless := by
    rw [List.getLast?_append]
    simpa using returnless
  tokenless := token_not_isPrefix (List.all_eq_true.mp List.all_takeWhile) visible notSlash rest
  spacerless := by
    intro next others begins
    cases indent : indentation line with
    | nil =>
        rw [indent, List.nil_append] at begins
        rw [(List.cons.inj begins).1] at visible
        cases visible
    | cons first more =>
        rw [indent, List.cons_append] at begins
        rcases List.cons.inj begins with ⟨isSpace, behind⟩
        rcases normal.indentation_spacerless (isSpace ▸ indent) with ⟨others, rfl⟩
        exact (List.cons.inj behind).1.symm

/-! ## Cleaning reaches the normal form -/

theorem dropWhile_space_eq_dropBlanks {line : Text} (tabless : '\t' ∉ line) :
    (line.dropWhile fun character => character = ' ') = dropBlanks line := by
  induction line with
  | nil => rfl
  | cons head rest induction =>
      rcases List.ne_and_not_mem_of_not_mem_cons tabless with ⟨different, restTabless⟩
      by_cases space : head = ' '
      · simpa [dropBlanks, isBlank, space] using induction restTabless
      · simp [dropBlanks, isBlank, space, Ne.symm different]

theorem token_free_of_expanded {line : Text} (tokenless : afterToken line = none) :
    ¬['/', '/'] <+: dropBlanks (withoutSpacer (expandTabs line)) := by
  rw [dropBlanks_withoutSpacer, dropBlanks_expandTabs]
  intro begins
  exact (afterToken_eq_none_iff line).mp tokenless (token_isPrefix_of_expandTabs begins)

theorem normalLine_cleanLine {line : Text} (spoken : isBlankText (cleanLine line) = false) :
    NormalLine (cleanLine line) := by
  have cut : cleanLine line <+: withoutSpacer (expandTabs (withoutTokens line)) :=
    dropEndWhile_isPrefix _
  have tabless : '\t' ∉ cleanLine line := by
    intro member
    exact not_mem_of_suffix (withoutSpacer_suffix _) (not_mem_expandTabs _) (cut.subset member)
  refine ⟨spoken, tabless, ?_, ?_, ?_⟩
  · intro ends
    have kept := getLast?_dropEndWhile_kept ends
    simp at kept
  · intro begins
    rw [dropWhile_space_eq_dropBlanks tabless] at begins
    exact token_free_of_expanded (afterToken_withoutTokens line)
      (begins.trans (dropWhile_isPrefix cut))
  · intro next rest equal
    have member : next ∈ cleanLine line := by simp [equal]
    have notTab : next ≠ '\t' := fun tab => tabless (tab ▸ member)
    rw [equal] at cut
    rcases cut with ⟨after, whole⟩
    have blank : isBlank next = true := isBlank_of_withoutSpacer whole.symm
    simpa [isBlank, notTab] using blank

theorem normal_clean (text : Text) : Normal (clean text) := by
  rw [clean_eq_unlines]
  apply normal_unlines (cleanedLines_areLines text)
  intro line member
  rcases List.mem_filter.mp member with ⟨mapped, spoken⟩
  rcases List.mem_map.mp mapped with ⟨source, -, rfl⟩
  exact normalLine_cleanLine (by simpa using spoken)

/-! ## Cleaning leaves the normal form alone -/

theorem NormalLine.afterToken_eq_none {line : Text} (normal : NormalLine line) :
    afterToken line = none := by
  rw [afterToken_eq_none_iff, ← dropWhile_space_eq_dropBlanks normal.tabless]
  exact normal.tokenless

theorem NormalLine.withoutReturns_eq_self {line : Text} (normal : NormalLine line) :
    withoutReturns line = line := by
  apply dropEndWhile_eq_self
  intro last ends
  have different : last ≠ '\r' := fun equal => normal.returnless (equal ▸ ends)
  simpa using different

theorem NormalLine.cleanLine_eq_self {line : Text} (normal : NormalLine line) :
    cleanLine line = line := by
  rw [cleanLine, withoutTokens_eq_self normal.afterToken_eq_none,
    expandTabs_eq_self normal.tabless, withoutSpacer_eq_self, normal.withoutReturns_eq_self]
  intro next rest equal
  simp [normal.spacerless next rest equal, isBlank]

theorem cleanLine_nil : cleanLine [] = [] := by
  rw [cleanLine, withoutTokens_eq_self rfl]
  rfl

theorem filter_spoken {content : List Text} (normalLines : ∀ line ∈ content, NormalLine line) :
    (content.filter fun line => !isBlankText line) = content := by
  apply List.filter_eq_self.mpr
  intro line member
  simp [(normalLines line member).spoken]

theorem Normal.clean_eq_self {text : Text} (normal : Normal text) : clean text = text := by
  rcases normal.exists_unlines with ⟨content, areLines, normalLines, rfl⟩
  have unchanged : content.map cleanLine = content := by
    have same : ∀ line ∈ content, cleanLine line = id line :=
      fun line member => (normalLines line member).cleanLine_eq_self
    rw [List.map_congr_left same, List.map_id]
  rw [clean_eq_unlines, cleanedLines, split_unlines areLines, List.map_append, unchanged,
    List.filter_append, filter_spoken normalLines]
  simp [cleanLine_nil, isBlankText]

/-- Cleaning ends in a normal form, and the normal forms are its fixed points. A second
cleaning therefore changes nothing, and every normal form is the cleaned form of a text. -/
theorem clean_normalises (text : Text) :
    Normal (clean text) ∧ (clean text = text ↔ Normal text) ∧
      clean (clean text) = clean text ∧ ((∃ source, clean source = text) ↔ Normal text) := by
  refine ⟨normal_clean text, ⟨?_, Normal.clean_eq_self⟩, (normal_clean text).clean_eq_self,
    ⟨?_, fun normal => ⟨text, normal.clean_eq_self⟩⟩⟩
  · intro fixed
    exact fixed ▸ normal_clean text
  · intro cleaned
    rcases cleaned with ⟨source, rfl⟩
    exact normal_clean source

end Scenarist.Comment
