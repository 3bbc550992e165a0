import Scenarist.Proofs.Comment.LineCleaning

/-! # Runs of slashes

A token takes two slashes, and a third one with them where it follows. So a run
of slashes at the beginning of a line goes three slashes at a time. Where a
single slash is over at its end, that slash is no token any more and stays. -/

namespace Scenarist.Comment

open Text

def slashes (count : Nat) : Text :=
  List.replicate count '/'

/-- What comes behind a whole run of slashes: nothing, or blanks and then no other slash. -/
structure SetApart (rest : Text) : Prop where
  lineFeedless : '\n' ∉ rest
  parted : ∀ head ∈ rest.head?, isBlank head = true
  slashless : (dropBlanks rest).head? ≠ some '/'

theorem slashes_succ (count : Nat) : slashes (count + 1) = '/' :: slashes count :=
  List.replicate_succ

/-! ## One token of a run -/

/-- Blanks before a token are stripped along with it. -/
theorem afterToken_append {indent : Text}
    (blank : ∀ character ∈ indent, isBlank character = true) (rest : Text) :
    afterToken (indent ++ rest) = afterToken rest := by
  rw [afterToken, dropBlanks_append blank, afterToken]

theorem afterToken_slashes (count : Nat) (rest : Text) :
    afterToken (slashes (count + 2) ++ rest) =
      some (documentationMark (slashes count ++ rest)) := by
  have begins : slashes (count + 2) ++ rest = '/' :: '/' :: (slashes count ++ rest) := by
    rw [slashes_succ, slashes_succ]
    rfl
  have token : strip ['/', '/'] ('/' :: '/' :: (slashes count ++ rest)) =
      some (slashes count ++ rest) := (strip_eq_some_iff ..).mpr rfl
  rw [afterToken, begins, dropBlanks_of_not_blank rfl, token]
  rfl

theorem documentationMark_slashes (count : Nat) (rest : Text) :
    documentationMark (slashes (count + 1) ++ rest) = slashes count ++ rest := by
  rw [slashes_succ]
  rfl

/-- A token takes two slashes of a run, and a third one that follows. -/
theorem withoutTokens_three (count : Nat) (rest : Text) :
    withoutTokens (slashes (count + 3) ++ rest) = withoutTokens (slashes count ++ rest) := by
  rw [withoutTokens_of_afterToken (afterToken_slashes (count + 1) rest), documentationMark_slashes]

namespace SetApart

variable {rest : Text} (setApart : SetApart rest)

include setApart

theorem afterToken_eq_none : afterToken rest = none := by
  rw [afterToken_eq_none_iff]
  intro begins
  rcases begins with ⟨behind, whole⟩
  apply setApart.slashless
  rw [← whole]
  rfl

/-- A slash that is over begins no token, for the rest has none to add. -/
theorem afterToken_slash : afterToken ('/' :: rest) = none := by
  rw [afterToken_eq_none_iff, dropBlanks_of_not_blank rfl]
  intro begins
  rcases begins with ⟨behind, whole⟩
  have next : rest = '/' :: behind := (List.cons.inj whole).2.symm
  have blank := setApart.parted '/' (by rw [next]; rfl)
  cases blank

theorem documentationMark_eq_self : documentationMark rest = rest := by
  cases rest with
  | nil => rfl
  | cons head rest =>
      have blank := setApart.parted head rfl
      rw [documentationMark, if_neg]
      intro mark
      rcases (Bool.or_eq_true ..).mp mark with slash | exclamation
      · rw [of_decide_eq_true slash] at blank
        cases blank
      · rw [of_decide_eq_true exclamation] at blank
        cases blank

/-! ## Whole runs -/

theorem withoutTokens_slashes : ∀ count : Nat,
    withoutTokens (slashes count ++ rest) = slashes (if count % 3 = 1 then 1 else 0) ++ rest
  | 0 => withoutTokens_eq_self setApart.afterToken_eq_none
  | 1 => withoutTokens_eq_self setApart.afterToken_slash
  | 2 => by
      rw [withoutTokens_of_afterToken (afterToken_slashes 0 rest)]
      exact (congrArg withoutTokens setApart.documentationMark_eq_self).trans
        (withoutTokens_eq_self setApart.afterToken_eq_none)
  | count + 3 => by
      rw [withoutTokens_three, withoutTokens_slashes count, Nat.add_mod_right]

end SetApart

theorem lineFeed_not_mem_slashes {indent rest : Text}
    (blank : ∀ character ∈ indent, isBlank character = true) (lineFeedless : '\n' ∉ rest)
    (count : Nat) : '\n' ∉ indent ++ slashes count ++ rest := by
  refine List.not_mem_append (List.not_mem_append ?_ ?_) lineFeedless
  · intro inIndent
    cases blank '\n' inIndent
  · intro inRun
    cases List.eq_of_mem_replicate inRun

theorem stripTokens_of_line {line : Text} (lineFeedless : '\n' ∉ line) :
    stripTokens line = withoutTokens line := by
  rw [stripTokens, mapLines, split_of_not_mem lineFeedless]
  exact List.append_nil _

/-- A run of slashes at the beginning of a line is stripped whole, together with the blanks before
it, unless its length leaves one when it is divided by three: then one slash stays. -/
theorem stripTokens_slashes {indent rest : Text} {count : Nat}
    (blank : ∀ character ∈ indent, isBlank character = true) (setApart : SetApart rest)
    (opens : 2 ≤ count) :
    (count % 3 ≠ 1 → stripTokens (indent ++ slashes count ++ rest) = rest) ∧
      (count % 3 = 1 → stripTokens (indent ++ slashes count ++ rest) = '/' :: rest) := by
  have behindIndent : withoutTokens (indent ++ (slashes count ++ rest)) =
      withoutTokens (slashes count ++ rest) := by
    rcases Nat.exists_eq_add_of_le' opens with ⟨others, rfl⟩
    have token := afterToken_slashes others rest
    rw [withoutTokens_of_afterToken token,
      withoutTokens_of_afterToken ((afterToken_append blank _).trans token)]
  rw [stripTokens_of_line (lineFeed_not_mem_slashes blank setApart.lineFeedless count),
    List.append_assoc, behindIndent, setApart.withoutTokens_slashes]
  constructor
  · intro whole
    rw [if_neg whole]
    rfl
  · intro single
    rw [if_pos single]
    rfl

/-! A title behind a run of six slashes, and a divider of seven. -/

theorem setApart_title : SetApart " Scenario: pay" where
  lineFeedless := by decide
  parted := by
    rintro head ⟨⟩
    rfl
  slashless := by decide

theorem stripTokens_slashes_divider :
    ((∀ character ∈ ("\t " : Text), isBlank character = true) ∧ SetApart " Scenario: pay" ∧
      SetApart [] ∧ 2 ≤ 6 ∧ 2 ≤ 7) ∧
    stripTokens "\t ////// Scenario: pay" = " Scenario: pay" ∧
    stripTokens "\t ///////" = "/" := by
  have blank : ∀ character ∈ ("\t " : Text), isBlank character = true :=
    List.all_eq_true.mp (by decide)
  have nothing : SetApart [] := ⟨by decide, nofun, by decide⟩
  refine ⟨⟨blank, setApart_title, nothing, by decide, by decide⟩, ?_, ?_⟩
  · exact (stripTokens_slashes blank setApart_title (by decide : 2 ≤ 6)).1 (by decide)
  · exact (stripTokens_slashes blank nothing (by decide : 2 ≤ 7)).2 (by decide)

/-- Of four slashes one stays in front of the text. -/
theorem not_stripTokens_slashes_whole :
    stripTokens "//// Scenario: pay" = "/ Scenario: pay" ∧
      ¬∀ (indent rest : Text) (count : Nat), (∀ character ∈ indent, isBlank character = true) →
        SetApart rest → 2 ≤ count → stripTokens (indent ++ slashes count ++ rest) = rest := by
  have left : stripTokens "//// Scenario: pay" = "/ Scenario: pay" :=
    (stripTokens_of_line (by decide)).trans (setApart_title.withoutTokens_slashes 4)
  refine ⟨left, ?_⟩
  intro whole
  have stripped := whole [] " Scenario: pay" 4 isBlank_of_mem_nil setApart_title (by decide)
  exact absurd (left.symm.trans stripped) (by decide)

end Scenarist.Comment
