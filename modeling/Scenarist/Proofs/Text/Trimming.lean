import Mathlib.Data.List.TakeWhile
import Scenarist.Text.Space

/-! # Taking characters off the ends of a text

What is left after characters are taken off one end is a piece of the text that
does not begin, or end, with such a character. A text that does not is left as
it is. -/

namespace Scenarist.Text

variable {drops : Char → Bool}

theorem dropWhile_eq_self {text : Text}
    (kept : ∀ head, text.head? = some head → drops head = false) :
    text.dropWhile drops = text := by
  cases text with
  | nil => rfl
  | cons head rest => simp [kept head rfl]

theorem head?_dropWhile_kept {text : Text} {head : Char}
    (first : (text.dropWhile drops).head? = some head) : drops head = false := by
  have notDropped := List.head?_dropWhile_not drops text
  rw [first] at notDropped
  exact notDropped

theorem dropWhile_isPrefix {first second : Text} (begins : first <+: second) :
    first.dropWhile drops <+: second.dropWhile drops := by
  induction first generalizing second with
  | nil => simp
  | cons head first induction =>
      rcases begins with ⟨after, rfl⟩
      by_cases dropped : drops head = true
      · simpa [dropped] using induction (List.prefix_append first after)
      · simp [dropped]

theorem dropEndWhile_isPrefix (text : Text) : dropEndWhile drops text <+: text := by
  have suffix := List.dropWhile_suffix (l := text.reverse) drops
  exact List.reverse_suffix.mp (by simpa [dropEndWhile] using suffix)

theorem dropEndWhile_eq_self {text : Text}
    (kept : ∀ last, text.getLast? = some last → drops last = false) :
    dropEndWhile drops text = text := by
  rw [dropEndWhile, dropWhile_eq_self, List.reverse_reverse]
  intro last first
  exact kept last (by rwa [List.head?_reverse] at first)

theorem getLast?_dropEndWhile_kept {text : Text} {last : Char}
    (ends : (dropEndWhile drops text).getLast? = some last) : drops last = false := by
  rw [dropEndWhile, List.getLast?_reverse] at ends
  exact head?_dropWhile_kept ends

theorem trim_within (text : Text) : trim text <:+: text :=
  (dropEndWhile_isPrefix _).isInfix.trans (List.dropWhile_suffix isSpace).isInfix

theorem dropEndWhile_append {after : Text} (dropped : ∀ character ∈ after, drops character = true)
    (text : Text) : dropEndWhile drops (text ++ after) = dropEndWhile drops text := by
  rw [dropEndWhile, List.reverse_append, List.dropWhile_append_of_pos, dropEndWhile]
  simpa using dropped

/-- What is taken off the end comes behind what is kept. -/
theorem exists_dropEndWhile_append (text : Text) :
    ∃ after, text = dropEndWhile drops text ++ after ∧
      ∀ character ∈ after, drops character = true := by
  refine ⟨(text.reverse.takeWhile drops).reverse, ?_, ?_⟩
  · rw [dropEndWhile, ← List.reverse_append, List.takeWhile_append_dropWhile, List.reverse_reverse]
  · intro character member
    exact List.mem_takeWhile_imp (List.mem_reverse.mp member)

/-! ## Whitespace at both ends -/

/-- The second text is the first without the whitespace around it. -/
structure Trims (text trimmed : Text) : Prop where
  within : ∃ before after, text = before ++ trimmed ++ after ∧
    ∀ character ∈ before ++ after, isSpace character = true
  first : ∀ head ∈ trimmed.head?, isSpace head = false
  last : ∀ last ∈ trimmed.getLast?, isSpace last = false

theorem trims_trim (text : Text) : Trims text (trim text) where
  within := by
    have cut : ∃ after, trimStart text = trim text ++ after ∧
        ∀ character ∈ after, isSpace character = true := exists_dropEndWhile_append _
    rcases cut with ⟨after, pieces, spacesAfter⟩
    refine ⟨indentation text, after, ?_, ?_⟩
    · calc
        text = indentation text ++ trimStart text := (indentation_append_trimStart text).symm
        _ = indentation text ++ (trim text ++ after) := congrArg (indentation text ++ ·) pieces
        _ = indentation text ++ trim text ++ after := (List.append_assoc ..).symm
    · intro character member
      rcases List.mem_append.mp member with before | behind
      · exact List.mem_takeWhile_imp before
      · exact spacesAfter character behind
  first := by
    intro head first
    have begins : trim text <+: trimStart text := dropEndWhile_isPrefix (trimStart text)
    rcases begins with ⟨after, pieces⟩
    have firstOfAll : (trimStart text).head? = some head := by
      rw [← pieces, List.head?_append, Option.mem_def.mp first]
      rfl
    exact head?_dropWhile_kept firstOfAll
  last := fun _ ends => getLast?_dropEndWhile_kept ends

theorem Trims.eq_trim {text trimmed : Text} (trims : Trims text trimmed) : trimmed = trim text := by
  rcases trims.within with ⟨before, after, rfl, spaces⟩
  have spacesBefore := fun character member => spaces character (List.mem_append_left after member)
  have spacesAfter := fun character member => spaces character (List.mem_append_right before member)
  rw [trim, trimStart, List.append_assoc, List.dropWhile_append_of_pos spacesBefore]
  cases trimmed with
  | nil =>
      have nothing : List.dropWhile isSpace after = [] := List.dropWhile_eq_nil_iff.mpr spacesAfter
      rw [List.nil_append, nothing]
      rfl
  | cons head rest =>
      have kept : List.dropWhile isSpace (head :: rest ++ after) = head :: rest ++ after :=
        dropWhile_eq_self fun first equal => trims.first first equal
      rw [kept, trimEnd, dropEndWhile_append spacesAfter, dropEndWhile_eq_self trims.last]

theorem trims_iff {text trimmed : Text} : Trims text trimmed ↔ trimmed = trim text :=
  ⟨Trims.eq_trim, fun equal => equal ▸ trims_trim text⟩

theorem trim_of_spaceless {text : Text}
    (spaceless : ∀ character ∈ text, isSpace character = false) : trim text = text := by
  have fromStart : trimStart text = text :=
    dropWhile_eq_self fun head first => spaceless head (List.mem_of_head? first)
  rw [trim, fromStart]
  exact dropEndWhile_eq_self fun last ends => spaceless last (List.mem_of_getLast? ends)

theorem isSpace_of_mem_indentation {line : Text} :
    ∀ character ∈ indentation line, isSpace character = true :=
  List.all_eq_true.mp List.all_takeWhile

theorem trim_eq_nil_iff (text : Text) : trim text = [] ↔ isBlankText text = true := by
  rw [isBlankText, List.all_eq_true]
  constructor
  · intro nothing
    rcases (trims_trim text).within with ⟨before, after, whole, spaces⟩
    rw [nothing, List.append_nil] at whole
    exact whole ▸ spaces
  · intro spaces
    have trims : Trims text [] :=
      ⟨⟨text, [], by simp, by simpa using spaces⟩, by simp, by simp⟩
    exact trims.eq_trim.symm

/-- The first character that is no whitespace stays the first. -/
theorem exists_trim_eq_cons {gap : Text} (blank : ∀ character ∈ gap, isSpace character = true)
    {head : Char} (visible : isSpace head = false) (rest : Text) :
    ∃ kept, trim (gap ++ head :: rest) = head :: kept := by
  have fromStart : trimStart (gap ++ head :: rest) = head :: rest := by
    rw [trimStart, List.dropWhile_append_of_pos blank,
      List.dropWhile_cons_of_neg (by simp [visible])]
  rw [trim, fromStart, trimEnd]
  have cut : ∃ after, head :: rest = dropEndWhile isSpace (head :: rest) ++ after ∧
      ∀ character ∈ after, isSpace character = true := exists_dropEndWhile_append (head :: rest)
  rcases cut with ⟨after, whole, spaces⟩
  cases kept : dropEndWhile isSpace (head :: rest) with
  | nil =>
      rw [kept, List.nil_append] at whole
      have isSpaceHead := spaces head (whole ▸ List.mem_cons_self)
      rw [visible] at isSpaceHead
      cases isSpaceHead
  | cons first others =>
      rw [kept, List.cons_append] at whole
      exact ⟨others, by rw [(List.cons.inj whole).1]⟩

/-- Only whitespace is taken off the beginning. -/
theorem trimStart_eq_cons_iff {text rest : Text} {head : Char} (kept : isSpace head = false) :
    trimStart text = head :: rest ↔
      ∃ gap, isBlankText gap = true ∧ text = gap ++ head :: rest := by
  constructor
  · intro trimmed
    refine ⟨indentation text, List.all_takeWhile, ?_⟩
    rw [← trimmed, indentation_append_trimStart]
  · intro padded
    rcases padded with ⟨gap, blank, rfl⟩
    rw [trimStart, List.dropWhile_append_of_pos (List.all_eq_true.mp blank),
      List.dropWhile_cons_of_neg (by simp [kept])]

/-- A cut falls where the first character is that the test refuses. -/
theorem cutWhile_append {taken rest : Text}
    (kept : ∀ character ∈ taken, drops character = true)
    (ends : ∀ head ∈ rest.head?, drops head = false) :
    cutWhile drops (taken ++ rest) = (taken, rest) := by
  have nothing : rest.takeWhile drops = [] ∧ rest.dropWhile drops = rest := by
    cases rest with
    | nil => exact ⟨rfl, rfl⟩
    | cons head rest =>
        have stops := ends head rfl
        simp [stops]
  rw [cutWhile, List.takeWhile_append_of_pos kept, List.dropWhile_append_of_pos kept, nothing.1,
    nothing.2, List.append_nil]

theorem cutWhile_of_all {text : Text}
    (kept : ∀ character ∈ text, drops character = true) : cutWhile drops text = (text, []) := by
  have cut : cutWhile drops (text ++ []) = (text, []) := cutWhile_append kept (by simp)
  rwa [List.append_nil] at cut

/-! ## Blanks -/

theorem isBlank_of_mem_nil : ∀ character ∈ ([] : Text), isBlank character = true := by
  simp

theorem dropBlanks_append {indent : Text}
    (blank : ∀ character ∈ indent, isBlank character = true) (rest : Text) :
    dropBlanks (indent ++ rest) = dropBlanks rest :=
  List.dropWhile_append_of_pos blank

theorem dropBlanks_of_not_blank {head : Char} (notBlank : isBlank head = false) (rest : Text) :
    dropBlanks (head :: rest) = head :: rest := by
  simp [dropBlanks, notBlank]

end Scenarist.Text
