import Scenarist.Comment.Cleaning
import Scenarist.Proofs.Text.Lines
import Scenarist.Proofs.Text.Trimming

/-! # Cleaning line by line

The passes work on whole texts, yet none of them lets one line look at another.
Run one after the other they clean each line on its own and drop the lines that
come out blank. -/

namespace Scenarist.Comment

open Text

/-- What all passes together make of one line. -/
def cleanLine (line : Text) : Text :=
  withoutReturns (withoutSpacer (expandTabs (withoutTokens line)))

/-! ## Tokens -/

theorem withoutTokens_eq_self {line : Text} (tokenless : afterToken line = none) :
    withoutTokens line = line := by
  rw [withoutTokens]
  split
  · rfl
  · next rest found =>
      rw [tokenless] at found
      cases found

theorem withoutTokens_of_afterToken {line rest : Text} (found : afterToken line = some rest) :
    withoutTokens line = withoutTokens rest := by
  rw [withoutTokens]
  split
  · next tokenless =>
      rw [tokenless] at found
      cases found
  · next other otherFound =>
      rw [otherFound] at found
      cases found
      rfl

theorem afterToken_suffix {line rest : Text} (found : afterToken line = some rest) :
    rest <:+ line := by
  rcases Option.map_eq_some_iff.mp found with ⟨body, stripped, rfl⟩
  have dropped : dropBlanks line <:+ line := List.dropWhile_suffix _
  have bodySuffix : body <:+ dropBlanks line :=
    ⟨['/', '/'], ((strip_eq_some_iff ['/', '/'] (dropBlanks line) body).mp stripped).symm⟩
  have marked : documentationMark body <:+ body := by
    cases body with
    | nil => exact List.suffix_refl []
    | cons head tail =>
        simp only [documentationMark]
        split
        · exact List.suffix_cons head tail
        · exact List.suffix_refl _
  exact marked.trans (bodySuffix.trans dropped)

theorem withoutTokens_suffix (line : Text) : withoutTokens line <:+ line := by
  fun_induction withoutTokens line with
  | case1 line tokenless => exact List.suffix_refl line
  | case2 line rest found induction => exact induction.trans (afterToken_suffix found)

theorem afterToken_withoutTokens (line : Text) : afterToken (withoutTokens line) = none := by
  fun_induction withoutTokens line with
  | case1 line tokenless => exact tokenless
  | case2 line rest found induction => exact induction

theorem afterToken_eq_none_iff (line : Text) :
    afterToken line = none ↔ ¬['/', '/'] <+: dropBlanks line := by
  rw [afterToken, Option.map_eq_none_iff, Option.eq_none_iff_forall_ne_some]
  constructor
  · intro unmatched begins
    rcases begins with ⟨rest, whole⟩
    exact unmatched rest ((strip_eq_some_iff _ _ _).mpr whole.symm)
  · intro absent rest stripped
    exact absent ⟨rest, ((strip_eq_some_iff _ _ _).mp stripped).symm⟩

/-! ## Tabs -/

@[simp] theorem expandTabs_nil : expandTabs [] = [] := rfl

theorem expandTabs_cons (head : Char) (rest : Text) :
    expandTabs (head :: rest) =
      (if head = '\t' then List.replicate tabWidth ' ' else [head]) ++ expandTabs rest := rfl

theorem not_mem_expandTabs (line : Text) : '\t' ∉ expandTabs line := by
  intro member
  rcases List.mem_flatMap.mp member with ⟨character, -, expanded⟩
  split at expanded
  · have equal := List.eq_of_mem_replicate expanded
    cases equal
  · next different => exact different (List.mem_singleton.mp expanded).symm

theorem expandTabs_eq_self {line : Text} (tabless : '\t' ∉ line) : expandTabs line = line := by
  induction line with
  | nil => rfl
  | cons head rest induction =>
      rcases List.ne_and_not_mem_of_not_mem_cons tabless with ⟨different, restTabless⟩
      rw [expandTabs_cons, if_neg (Ne.symm different), induction restTabless]
      rfl

theorem dropBlanks_expandTabs (line : Text) :
    dropBlanks (expandTabs line) = expandTabs (dropBlanks line) := by
  induction line with
  | nil => rfl
  | cons head rest induction =>
      rw [expandTabs_cons]
      by_cases tab : head = '\t'
      · simpa [tab, dropBlanks, isBlank, tabWidth, List.replicate] using induction
      · by_cases space : head = ' '
        · simpa [space, dropBlanks, isBlank] using induction
        · simp [tab, space, dropBlanks, isBlank, expandTabs_cons]

/-- Spaces written for tabs do not complete a token. -/
theorem token_isPrefix_of_expandTabs {line : Text} (begins : ['/', '/'] <+: expandTabs line) :
    ['/', '/'] <+: line := by
  cases line with
  | nil => simp at begins
  | cons first rest =>
      by_cases tab : first = '\t'
      · simp [expandTabs_cons, tab, tabWidth, List.replicate] at begins
      · cases rest with
        | nil => simp [expandTabs_cons, tab] at begins
        | cons second rest =>
            by_cases nextTab : second = '\t'
            · simp [expandTabs_cons, tab, nextTab, tabWidth, List.replicate] at begins
            · simpa [expandTabs_cons, tab, nextTab] using begins

/-! ## Spacers -/

theorem withoutSpacer_eq_self {line : Text}
    (spacerless : ∀ next rest, line = ' ' :: next :: rest → isBlank next = true) :
    withoutSpacer line = line := by
  unfold withoutSpacer
  split
  · next next rest => rw [if_pos (spacerless next rest rfl)]
  · rfl

theorem withoutSpacer_suffix (line : Text) : withoutSpacer line <:+ line := by
  unfold withoutSpacer
  split
  · split
    · exact List.suffix_refl _
    · exact List.suffix_cons _ _
  · exact List.suffix_refl _

theorem dropBlanks_withoutSpacer (line : Text) :
    dropBlanks (withoutSpacer line) = dropBlanks line := by
  unfold withoutSpacer
  split
  · split
    · rfl
    · simp [dropBlanks, isBlank]
  · rfl

theorem isBlank_of_withoutSpacer {line rest : Text} {next : Char}
    (begins : withoutSpacer line = ' ' :: next :: rest) : isBlank next = true := by
  unfold withoutSpacer at begins
  split at begins
  · next first others =>
      split at begins
      · next blank =>
          cases begins
          exact blank
      · next notBlank =>
          cases begins
          simp [isBlank] at notBlank
  · next other =>
      exact absurd begins (other next rest)

/-! ## The passes together -/

theorem not_mem_of_suffix {character : Char} {piece text : Text} (suffix : piece <:+ text)
    (absent : character ∉ text) : character ∉ piece :=
  fun member => absent (suffix.subset member)

theorem not_mem_withoutTokens (line : Text) (lineFeedless : '\n' ∉ line) :
    '\n' ∉ withoutTokens line :=
  not_mem_of_suffix (withoutTokens_suffix line) lineFeedless

theorem lineFeed_not_mem_expandTabs (line : Text) (lineFeedless : '\n' ∉ line) :
    '\n' ∉ expandTabs line := by
  intro member
  rcases List.mem_flatMap.mp member with ⟨character, lineMember, expanded⟩
  split at expanded
  · have equal := List.eq_of_mem_replicate expanded
    cases equal
  · exact lineFeedless (List.mem_singleton.mp expanded ▸ lineMember)

theorem not_mem_withoutSpacer (line : Text) (lineFeedless : '\n' ∉ line) :
    '\n' ∉ withoutSpacer line :=
  not_mem_of_suffix (withoutSpacer_suffix line) lineFeedless

theorem lineFeed_not_mem_cleanLine {line : Text} (lineFeedless : '\n' ∉ line) :
    '\n' ∉ cleanLine line := by
  have spaced : '\n' ∉ withoutSpacer (expandTabs (withoutTokens line)) :=
    not_mem_withoutSpacer _ (lineFeed_not_mem_expandTabs _
      (not_mem_withoutTokens line lineFeedless))
  exact fun member => spaced ((dropEndWhile_isPrefix _).subset member)

/-- The lines that cleaning leaves. -/
def cleanedLines (text : Text) : List Text :=
  ((split '\n' text).map cleanLine).filter fun line => !isBlankText line

theorem clean_eq_passes (text : Text) :
    clean text = dropBlankLines (stripSpacers (expandTabs (stripTokens text))) := by
  simp only [clean, Pass.all, List.foldl_cons, List.foldl_nil, Pass.apply]

theorem clean_eq_unlines (text : Text) : clean text = unlines (cleanedLines text) := by
  have tabs : ∀ whole : Text, expandTabs whole = mapLines expandTabs whole :=
    fun whole => flatMap_eq_mapLines rfl whole
  have passes : stripSpacers (expandTabs (stripTokens text)) =
      mapLines (fun line => withoutSpacer (expandTabs (withoutTokens line))) text := by
    rw [stripSpacers, stripTokens, tabs, mapLines_mapLines not_mem_withoutTokens,
      mapLines_mapLines]
    exact fun line lineFeedless =>
      lineFeed_not_mem_expandTabs _ (not_mem_withoutTokens line lineFeedless)
  have pieces : split '\n' (stripSpacers (expandTabs (stripTokens text))) =
      (split '\n' text).map fun line => withoutSpacer (expandTabs (withoutTokens line)) := by
    rw [passes]
    apply split_mapLines
    exact fun line lineFeedless => not_mem_withoutSpacer _
      (lineFeed_not_mem_expandTabs _ (not_mem_withoutTokens line lineFeedless))
  rw [clean_eq_passes, dropBlankLines, pieces, List.map_map]
  rfl

theorem cleanedLines_areLines (text : Text) : AreLines (cleanedLines text) := by
  intro line member
  rcases List.mem_map.mp (List.mem_filter.mp member).1 with ⟨source, sourceMember, rfl⟩
  exact lineFeed_not_mem_cleanLine (not_mem_of_mem_split sourceMember)

end Scenarist.Comment
