import Scenarist.Proofs.Comment.LineCleaning

/-! # Lines are cleaned on their own

A text of two parts with a line feed between them is cleaned by cleaning the parts.
Three of the passes keep the line feed where it is, and the last one leaves no trace
of it besides the ends of the lines that say something. So the passes over the whole
text amount to one change of each line, and no line has a part in what another comes
to. -/

namespace Scenarist.Comment

open Text

/-! ## Pass by pass -/

/-- The pass changes what stands before a line feed and what stands behind it, each on its
own. -/
def KeepsLineFeed (pass : Text → Text) : Prop :=
  ∀ first second, pass (first ++ '\n' :: second) = pass first ++ '\n' :: pass second

theorem keepsLineFeed_stripTokens : KeepsLineFeed stripTokens :=
  mapLines_append withoutTokens

theorem keepsLineFeed_expandTabs : KeepsLineFeed expandTabs := by
  intro first second
  rw [expandTabs, List.flatMap_append]
  rfl

theorem keepsLineFeed_stripSpacers : KeepsLineFeed stripSpacers :=
  mapLines_append withoutSpacer

theorem dropBlankLines_append (first second : Text) :
    dropBlankLines (first ++ '\n' :: second) = dropBlankLines first ++ dropBlankLines second := by
  rw [dropBlankLines, split_append, List.map_append, List.filter_append, List.flatMap_append]
  rfl

/-! ## The passes together -/

theorem clean_append (first second : Text) :
    clean (first ++ '\n' :: second) = clean first ++ clean second := by
  rw [clean_eq_passes, keepsLineFeed_stripTokens, keepsLineFeed_expandTabs,
    keepsLineFeed_stripSpacers, dropBlankLines_append, ← clean_eq_passes, ← clean_eq_passes]

/-- What a line comes to: nothing, or a line that says something. -/
def spokenLine (line : Text) : Text :=
  if isBlankText (cleanLine line) then [] else cleanLine line ++ ['\n']

theorem clean_of_line {line : Text} (lineFeedless : '\n' ∉ line) :
    clean line = spokenLine line := by
  rw [clean_eq_unlines, cleanedLines, split_of_not_mem lineFeedless, spokenLine]
  cases blank : isBlankText (cleanLine line) <;> simp [blank]

theorem map_clean_split (text : Text) :
    (split '\n' text).map clean = (split '\n' text).map spokenLine := by
  apply List.map_congr_left
  intro line member
  exact clean_of_line (not_mem_of_mem_split member)

theorem clean_unlines_append (content : List Text) (last : Text) :
    clean (unlines content ++ last) = content.flatMap clean ++ clean last := by
  induction content with
  | nil => rw [unlines_nil, List.flatMap_nil, List.nil_append, List.nil_append]
  | cons line content induction =>
      rw [unlines_cons, List.append_assoc, List.cons_append, clean_append, induction,
        List.flatMap_cons, List.append_assoc]

theorem clean_eq_flatMap (text : Text) : clean text = (split '\n' text).flatMap clean := by
  rcases exists_unlines_append text with ⟨content, last, -, -, whole, pieces⟩
  rw [pieces, List.flatMap_append, List.flatMap_singleton, whole, clean_unlines_append]

/-- Two texts with a line feed between them are cleaned each on its own. One after the other, the
passes change each line and drop those that come out blank, and what a line comes to in a text is
what it comes to by itself. -/
theorem clean_line_by_line (text first second : Text) :
    clean (first ++ '\n' :: second) = clean first ++ clean second ∧
    Pass.all.foldl (fun cleaned pass => pass.apply cleaned) text =
      unlines (((split '\n' text).map cleanLine).filter fun line => !isBlankText line) ∧
    clean text = (split '\n' text).flatMap clean ∧
    (split '\n' text).map clean = (split '\n' text).map spokenLine :=
  ⟨clean_append first second, clean_eq_unlines text, clean_eq_flatMap text, map_clean_split text⟩

end Scenarist.Comment
