import Scenarist.Proofs.Comment.NormalForm

/-! # Line comments

A text is written as a comment by two slashes before each line, with a space
between them and a line that has no indentation of its own. Cleaning takes the
slashes, the space and the indentation before the slashes away again, so normal
lines come back as they were. -/

namespace Scenarist.Comment

open Text

/-- A line behind the space that parts it from a token. An indented line needs none. -/
def setOff (line : Text) : Text :=
  if line.head? = some ' ' then line else ' ' :: line

/-- A line as a comment writes it. -/
def commentLine (indent line : Text) : Text :=
  indent ++ ('/' :: '/' :: setOff line)

variable {indent : Text}

theorem afterToken_comment (blank : ∀ character ∈ indent, isBlank character = true)
    (rest : Text) :
    afterToken (indent ++ ('/' :: '/' :: rest)) = some (documentationMark rest) := by
  rw [afterToken, dropBlanks_append blank, dropBlanks_of_not_blank rfl]
  simp [strip]

theorem documentationMark_setOff (line : Text) : documentationMark (setOff line) = setOff line := by
  cases line with
  | nil => rfl
  | cons head rest =>
      by_cases space : head = ' '
      · simp [setOff, space, documentationMark]
      · simp [setOff, space, documentationMark]

theorem withoutTokens_commentLine (blank : ∀ character ∈ indent, isBlank character = true)
    (line : Text) : withoutTokens (commentLine indent line) = withoutTokens (setOff line) := by
  apply withoutTokens_of_afterToken
  rw [commentLine, afterToken_comment blank, documentationMark_setOff]

theorem dropBlanks_setOff (line : Text) : dropBlanks (setOff line) = dropBlanks line := by
  unfold setOff
  split
  · rfl
  · have single : ∀ character ∈ [' '], isBlank character = true := by simp [isBlank]
    exact dropBlanks_append single line

theorem NormalLine.withoutSpacer_setOff {line : Text} (normal : NormalLine line) :
    withoutSpacer (setOff line) = line := by
  cases line with
  | nil => exact absurd normal.spoken (by decide)
  | cons head rest =>
      by_cases space : head = ' '
      · have spacerless : withoutSpacer (head :: rest) = head :: rest := by
          apply withoutSpacer_eq_self
          intro next others equal
          simp [normal.spacerless next others equal, isBlank]
        simpa [setOff, space] using spacerless
      · have notTab : head ≠ '\t' := by
          intro equal
          subst equal
          exact normal.tabless List.mem_cons_self
        simp [setOff, space, withoutSpacer, isBlank, notTab]

theorem NormalLine.cleanLine_commentLine {line : Text} (normal : NormalLine line)
    (blank : ∀ character ∈ indent, isBlank character = true) :
    cleanLine (commentLine indent line) = line := by
  have tokenless : afterToken (setOff line) = none := by
    rw [afterToken_eq_none_iff, dropBlanks_setOff, ← afterToken_eq_none_iff]
    exact normal.afterToken_eq_none
  have tabless : '\t' ∉ setOff line := by
    unfold setOff
    split
    · exact normal.tabless
    · simp [normal.tabless]
  rw [cleanLine, withoutTokens_commentLine blank, withoutTokens_eq_self tokenless,
    expandTabs_eq_self tabless, normal.withoutSpacer_setOff, normal.withoutReturns_eq_self]

/-- What stands before an end marker comes out blank. -/
theorem cleanLine_commentLine_nil (blank : ∀ character ∈ indent, isBlank character = true) :
    cleanLine (commentLine indent []) = [' '] := by
  rw [cleanLine, withoutTokens_commentLine blank, withoutTokens_eq_self rfl]
  rfl

/-- Nothing but blanks and slashes is written before a line. -/
theorem commentLine_eq_append (blank : ∀ character ∈ indent, isBlank character = true)
    (line : Text) : ∃ mark, commentLine indent line = mark ++ line ∧
      ∀ character ∈ mark, isBlank character = true ∨ character = '/' := by
  by_cases indented : line.head? = some ' '
  · refine ⟨indent ++ ['/', '/'], by simp [commentLine, setOff, indented], ?_⟩
    intro character member
    rcases List.mem_append.mp member with inIndent | isSlash
    · exact .inl (blank character inIndent)
    · exact .inr (by simpa using isSlash)
  · refine ⟨indent ++ ['/', '/', ' '], by simp [commentLine, setOff, indented], ?_⟩
    intro character member
    rcases List.mem_append.mp member with inIndent | inToken
    · exact .inl (blank character inIndent)
    · simp only [List.mem_cons, List.not_mem_nil, or_false] at inToken
      rcases inToken with rfl | rfl | rfl
      · exact .inr rfl
      · exact .inr rfl
      · exact .inl rfl

theorem lineFeed_not_mem_commentLine (blank : ∀ character ∈ indent, isBlank character = true)
    {line : Text} (lineFeedless : '\n' ∉ line) : '\n' ∉ commentLine indent line := by
  have indentFeedless : '\n' ∉ indent := fun member =>
    absurd (blank '\n' member) (by decide)
  unfold commentLine setOff
  split <;> simp [indentFeedless, lineFeedless]

/-- Cleaning a normal text that is written as a comment gives the text. The comment ends in
the middle of a line, before an end marker. -/
theorem clean_commentLines {content : List Text} (areLines : AreLines content)
    (normalLines : ∀ line ∈ content, NormalLine line)
    (blank : ∀ character ∈ indent, isBlank character = true) :
    clean (unlines (content.map (commentLine indent)) ++ commentLine indent []) =
      unlines content := by
  have commentLines : AreLines (content.map (commentLine indent)) := by
    intro line member
    rcases List.mem_map.mp member with ⟨source, sourceMember, rfl⟩
    exact lineFeed_not_mem_commentLine blank (areLines source sourceMember)
  have lastLine : '\n' ∉ commentLine indent [] := lineFeed_not_mem_commentLine blank (by simp)
  have cleaned : (content.map (commentLine indent)).map cleanLine = content := by
    have same : ∀ line ∈ content, (cleanLine ∘ commentLine indent) line = id line :=
      fun line member => (normalLines line member).cleanLine_commentLine blank
    rw [List.map_map, List.map_congr_left same, List.map_id]
  have blankEnd : isBlankText [' '] = true := by decide
  rw [clean_eq_unlines, cleanedLines, split_unlines_append commentLines,
    split_of_not_mem lastLine, List.map_append, cleaned, List.filter_append,
    filter_spoken normalLines]
  simp [cleanLine_commentLine_nil blank, blankEnd]

end Scenarist.Comment
