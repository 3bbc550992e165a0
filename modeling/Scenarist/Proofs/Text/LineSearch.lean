import Scenarist.Proofs.Text.Lines
import Scenarist.Proofs.Text.Searching

/-! # Searching line by line

A text without a line feed never stands across the end of a line. Lines that do
not contain it are passed over as a whole, and so is a beginning that holds none
of its first characters. -/

namespace Scenarist.Text

variable {sought : Text}

/-- The same place of a text with more before it. -/
def Found.behind (before : Text) (place : Found) : Found :=
  { place with before := before ++ place.before }

/-! ## Containment -/

theorem StandsAt.append {text : Text} {position : Nat} (stands : StandsAt sought text position)
    (after : Text) : StandsAt sought (text ++ after) position := by
  have bound := stands.add_length_le
  rcases stands with ⟨inside, folds⟩
  refine ⟨by simp; omega, ?_⟩
  rw [List.drop_append_of_le_length inside, List.take_append_of_le_length (by simp; omega)]
  exact folds

theorem Contains.append_left {text : Text} (contains : Contains sought text) (before : Text) :
    Contains sought (before ++ text) := by
  rcases contains with ⟨position, stands⟩
  exact ⟨before.length + position, (standsAt_append ..).mpr stands⟩

theorem Contains.append_right {text : Text} (contains : Contains sought text) (after : Text) :
    Contains sought (text ++ after) := by
  rcases contains with ⟨position, stands⟩
  exact ⟨position, stands.append after⟩

theorem Contains.unlines {content : List Text} {line : Text} (member : line ∈ content)
    (contains : Contains sought line) : Contains sought (unlines content) := by
  rcases List.append_of_mem member with ⟨before, after, rfl⟩
  rw [unlines_append, unlines_cons]
  exact (contains.append_right _).append_left _

/-- Up to a line feed, a text on one line stands where it stands in the line. -/
theorem StandsAt.of_append_lineFeed {line rest : Text} (oneLine : '\n' ∉ sought)
    (stands : StandsAt sought (line ++ '\n' :: rest) 0) : StandsAt sought line 0 := by
  rw [standsAt_zero] at stands ⊢
  rcases Nat.lt_or_ge line.length sought.length with shorter | fits
  · have member : '\n' ∈ (line ++ '\n' :: rest).take sought.length := by
      rw [List.take_append, List.mem_append]
      right
      have positive : sought.length - line.length = sought.length - line.length - 1 + 1 := by
        omega
      rw [positive, List.take_succ_cons]
      exact List.mem_cons_self
    exact absurd (stands.lineFeed_mem member) oneLine
  · rwa [List.take_append_of_le_length fits] at stands

/-! ## Passing over -/

theorem find?_cons_of_not_standsAt {head : Char} {rest : Text}
    (absent : ¬StandsAt sought (head :: rest) 0) :
    find? sought (head :: rest) = (find? sought rest).map (Found.behind [head]) := by
  rw [find?, (stripFolded_eq_none_iff ..).mpr absent]
  rfl

theorem map_behind_nil (found : Option Found) : found.map (Found.behind []) = found := by
  cases found <;> rfl

theorem map_behind_append (first second : Text) (found : Option Found) :
    (found.map (Found.behind second)).map (Found.behind first) =
      found.map (Found.behind (first ++ second)) := by
  cases found <;> simp [Found.behind]

theorem find?_line_append {line : Text} (oneLine : '\n' ∉ sought)
    (absent : ¬Contains sought line) (rest : Text) :
    find? sought (line ++ '\n' :: rest) =
      (find? sought rest).map (Found.behind (line ++ ['\n'])) := by
  induction line with
  | nil =>
      apply find?_cons_of_not_standsAt
      intro stands
      exact absent ⟨0, StandsAt.of_append_lineFeed oneLine stands⟩
  | cons head line induction =>
      have atHead : ¬StandsAt sought (head :: (line ++ '\n' :: rest)) 0 := by
        intro stands
        exact absent ⟨0, StandsAt.of_append_lineFeed oneLine stands⟩
      have inside := induction fun contains => absent (contains.append_left [head])
      rw [List.cons_append, find?_cons_of_not_standsAt atHead, inside, map_behind_append]
      rfl

theorem find?_unlines_append {content : List Text} (oneLine : '\n' ∉ sought)
    (absent : ∀ line ∈ content, ¬Contains sought line) (rest : Text) :
    find? sought (unlines content ++ rest) =
      (find? sought rest).map (Found.behind (unlines content)) := by
  induction content with
  | nil => exact (map_behind_nil _).symm
  | cons line content induction =>
      have others := induction fun other member => absent other (List.mem_cons_of_mem line member)
      rw [unlines_cons, List.append_assoc, List.cons_append,
        find?_line_append oneLine (absent line List.mem_cons_self), others, map_behind_append]
      simp

theorem find?_ended_append {text : Text} (oneLine : '\n' ∉ sought) (ended : IsEnded text)
    (absent : ¬Contains sought text) (rest : Text) :
    find? sought (text ++ rest) = (find? sought rest).map (Found.behind text) := by
  rcases ended.exists_unlines with ⟨content, -, rfl⟩
  apply find?_unlines_append oneLine
  intro line member contains
  exact absent (contains.unlines member)

/-- Where the sought text begins nowhere before some place, it is searched from there. -/
theorem find?_append_of_not_standsAt {lead rest : Text}
    (absent : ∀ position, position < lead.length → ¬StandsAt sought (lead ++ rest) position) :
    find? sought (lead ++ rest) = (find? sought rest).map (Found.behind lead) := by
  induction lead with
  | nil => exact (map_behind_nil _).symm
  | cons head lead induction =>
      have atHead : ¬StandsAt sought (head :: (lead ++ rest)) 0 := absent 0 (by simp)
      have inside := induction fun position before stands =>
        absent (position + 1) (by simpa using before) ((standsAt_cons_succ ..).mpr stands)
      rw [List.cons_append, find?_cons_of_not_standsAt atHead, inside, map_behind_append]
      rfl

/-- No character of the text can be the first of the sought one. -/
def NeverBegins (sought text : Text) : Prop :=
  ∀ character ∈ text, ∀ first ∈ sought.head?, character.toLower ≠ first.toLower

theorem not_standsAt_of_neverBegins {character : Char} {rest : Text} (nonempty : sought ≠ [])
    (never : ∀ first ∈ sought.head?, character.toLower ≠ first.toLower) :
    ¬StandsAt sought (character :: rest) 0 := by
  cases sought with
  | nil => exact absurd rfl nonempty
  | cons first others =>
      intro stands
      simp only [standsAt_zero, List.length_cons, List.take_succ_cons, Folds, List.map_cons,
        List.cons.injEq] at stands
      exact never first rfl stands.1

theorem find?_append_of_neverBegins {lead : Text} (nonempty : sought ≠ [])
    (never : NeverBegins sought lead) (rest : Text) :
    find? sought (lead ++ rest) = (find? sought rest).map (Found.behind lead) := by
  induction lead with
  | nil => exact (map_behind_nil _).symm
  | cons head lead induction =>
      have atHead : ¬StandsAt sought (head :: (lead ++ rest)) 0 :=
        not_standsAt_of_neverBegins nonempty (never head List.mem_cons_self)
      have inside := induction fun character member =>
        never character (List.mem_cons_of_mem head member)
      rw [List.cons_append, find?_cons_of_not_standsAt atHead, inside, map_behind_append]
      rfl

theorem Contains.of_neverBegins {lead text : Text} (nonempty : sought ≠ [])
    (never : NeverBegins sought lead) (contains : Contains sought (lead ++ text)) :
    Contains sought text := by
  apply Classical.not_not.mp
  intro absent
  have missed := find?_append_of_neverBegins nonempty never text
  rw [(find?_eq_none_iff ..).mpr absent] at missed
  exact (find?_eq_none_iff ..).mp missed contains

theorem find?_self_append {marker : Text} (folds : Folds marker sought) (rest : Text) :
    find? sought (marker ++ rest) = some ⟨[], marker, rest⟩ := by
  unfold find?
  rw [(stripFolded_eq_some_iff ..).mpr ⟨rfl, folds⟩]

/-! ## Finding the same place with more text behind it -/

/-- The same place of a text with more behind it. -/
def Found.followedBy (after : Text) (place : Found) : Found :=
  { place with after := place.after ++ after }

theorem StandsAt.of_append {text after : Text} {position : Nat}
    (stands : StandsAt sought (text ++ after) position)
    (inside : position + sought.length ≤ text.length) : StandsAt sought text position := by
  rcases stands with ⟨-, folds⟩
  refine ⟨by omega, ?_⟩
  rwa [List.drop_append_of_le_length (by omega),
    List.take_append_of_le_length (by rw [List.length_drop]; omega)] at folds

theorem find?_append_of_some {text : Text} {place : Found}
    (found : find? sought text = some place) (after : Text) :
    find? sought (text ++ after) = some (place.followedBy after) := by
  have leftmost := leftmost_of_find? found
  have fits := leftmost.standsAt.add_length_le
  have regrouped : text ++ after =
      place.before ++ (place.found ++ (place.after ++ after)) := by
    rw [leftmost.whole, List.append_assoc, List.append_assoc]
  have absent : ∀ position, position < place.before.length →
      ¬StandsAt sought (place.before ++ (place.found ++ (place.after ++ after))) position := by
    intro position before stands
    rw [← regrouped] at stands
    exact leftmost.notBefore position before (stands.of_append (by omega))
  rw [regrouped, find?_append_of_not_standsAt absent, find?_self_append leftmost.folds]
  simp [Found.behind, Found.followedBy]

end Scenarist.Text
