import Mathlib.Data.List.Chain
import Scenarist.Proofs.Text.Lines
import Scenarist.Proofs.Text.Trimming

/-! # Words and the spaces between them

The words of a text are said here without the function that finds them: they are
the runs that whitespace, or an end of the text, bounds on either side. A
flattened text is made of the same words, with one space between each two of
them and no other whitespace. -/

namespace Scenarist.Text

/-- Something, and no whitespace in it. -/
structure IsRun (run : Text) : Prop where
  nonempty : run ≠ []
  spaceless : ∀ character ∈ run, isSpace character = false

/-- The maximal runs of a text, in their order. What stands before and behind them is whitespace,
and what follows a run begins with whitespace unless the text is over. -/
inductive Runs : Text → List Text → Prop
  | finished {gap : Text} : (∀ character ∈ gap, isSpace character = true) → Runs gap []
  | run {gap run rest : Text} {runs : List Text} :
      (∀ character ∈ gap, isSpace character = true) → IsRun run →
      (∀ head ∈ rest.head?, isSpace head = true) → Runs rest runs →
      Runs (gap ++ (run ++ rest)) (run :: runs)

/-! ## The words of a text -/

theorem words_cons_of_isSpace {head : Char} (space : isSpace head = true) (rest : Text) :
    words (head :: rest) = words rest := by
  rw [words.eq_def]
  exact if_pos space

theorem words_append_of_spaces {gap : Text} (spaces : ∀ character ∈ gap, isSpace character = true)
    (rest : Text) : words (gap ++ rest) = words rest := by
  induction gap with
  | nil => rfl
  | cons head gap induction =>
      rcases List.forall_mem_cons.mp spaces with ⟨space, othersSpaces⟩
      rw [List.cons_append, words_cons_of_isSpace space, induction othersSpaces]

theorem words_append_of_isRun {run rest : Text} (isRun : IsRun run)
    (stops : ∀ head ∈ rest.head?, isSpace head = true) :
    words (run ++ rest) = run :: words rest := by
  rcases isRun with ⟨nonempty, spaceless⟩
  induction run with
  | nil => exact absurd rfl nonempty
  | cons head run induction =>
      rcases List.forall_mem_cons.mp spaceless with ⟨headSpaceless, othersSpaceless⟩
      rw [List.cons_append, words.eq_def]
      simp only [headSpaceless, Bool.false_eq_true, if_false]
      cases run with
      | nil =>
          cases rest with
          | nil => rfl
          | cons next rest => simp [stops next rfl]
      | cons next run =>
          have found := induction (List.cons_ne_nil next run) othersSpaceless
          rw [List.cons_append] at found
          simp [othersSpaceless next List.mem_cons_self, found]

namespace Runs

variable {text : Text} {runs : List Text}

theorem eq_words (areRuns : Runs text runs) : runs = words text := by
  induction areRuns with
  | @finished gap spaces =>
      have nothing := words_append_of_spaces spaces []
      rw [List.append_nil] at nothing
      exact nothing.symm
  | run spaces isRun stops _ induction =>
      rw [words_append_of_spaces spaces, words_append_of_isRun isRun stops, ← induction]

theorem isRun_of_mem (areRuns : Runs text runs) : ∀ run ∈ runs, IsRun run := by
  induction areRuns with
  | finished spaces => simp
  | run spaces isRun stops _ induction => exact List.forall_mem_cons.mpr ⟨isRun, induction⟩

/-- Every text is cut into runs: whitespace, a run, and the shorter text from where it ends. -/
theorem exists_runs (text : Text) : ∃ runs, Runs text runs := by
  have whole := indentation_append_trimStart text
  cases start : trimStart text with
  | nil =>
      rw [start, List.append_nil] at whole
      exact ⟨[], .finished (whole ▸ isSpace_of_mem_indentation)⟩
  | cons head rest =>
      have visible : isSpace head = false := head?_dropWhile_kept (congrArg List.head? start)
      let speaks : Char → Bool := fun character => !isSpace character
      have isRun : IsRun (head :: rest.takeWhile speaks) := by
        refine ⟨List.cons_ne_nil _ _, List.forall_mem_cons.mpr ⟨visible, ?_⟩⟩
        intro character member
        simpa [speaks] using List.mem_takeWhile_imp member
      have stops : ∀ next ∈ (rest.dropWhile speaks).head?, isSpace next = true := by
        intro next first
        simpa [speaks] using head?_dropWhile_kept first
      have pieces : indentation text ++
          (head :: rest.takeWhile speaks ++ rest.dropWhile speaks) = text := by
        rw [List.cons_append, List.takeWhile_append_dropWhile, ← start, whole]
      have shorter : (rest.dropWhile speaks).length < text.length := by
        have bound := (List.dropWhile_suffix (l := rest) speaks).length_le
        rw [start] at whole
        rw [← whole, List.length_append, List.length_cons]
        omega
      rcases exists_runs (rest.dropWhile speaks) with ⟨runs, areRuns⟩
      have spaces : ∀ character ∈ indentation text, isSpace character = true :=
        isSpace_of_mem_indentation
      have cut := areRuns.run spaces isRun stops
      rw [pieces] at cut
      exact ⟨_, cut⟩
termination_by text.length

end Runs

theorem runs_words (text : Text) : Runs text (words text) := by
  rcases Runs.exists_runs text with ⟨runs, areRuns⟩
  exact areRuns.eq_words ▸ areRuns

/-- The words of a text are its maximal runs, and nothing else is. -/
theorem runs_iff_eq_words {text : Text} {runs : List Text} : Runs text runs ↔ runs = words text :=
  ⟨Runs.eq_words, fun equal => equal ▸ runs_words text⟩

/-! ## Words with single spaces between them -/

/-- A text whose only whitespace is single spaces between other characters. -/
structure SingleSpaced (text : Text) : Prop where
  spaces : ∀ character ∈ text, isSpace character = true → character = ' '
  first : ∀ head ∈ text.head?, isSpace head = false
  last : ∀ last ∈ text.getLast?, isSpace last = false
  apart : text.IsChain fun first second => isSpace first = false ∨ isSpace second = false

theorem IsRun.singleSpaced {run : Text} (isRun : IsRun run) : SingleSpaced run where
  spaces := by
    intro character member space
    rw [isRun.spaceless character member] at space
    cases space
  first := fun head first => isRun.spaceless head (List.mem_of_head? first)
  last := fun last ends => isRun.spaceless last (List.mem_of_getLast? ends)
  apart := by
    apply List.Pairwise.isChain
    exact List.pairwise_of_forall_mem_list fun first member _ _ =>
      .inl (isRun.spaceless first member)

theorem SingleSpaced.append_space {first second : Text} (firstSpaced : SingleSpaced first)
    (secondSpaced : SingleSpaced second) (firstSome : first ≠ []) (secondSome : second ≠ []) :
    SingleSpaced (first ++ ' ' :: second) where
  spaces := by
    refine List.forall_mem_append.mpr ⟨firstSpaced.spaces, List.forall_mem_cons.mpr ⟨?_, ?_⟩⟩
    · exact fun _ => rfl
    · exact secondSpaced.spaces
  first := by
    intro head begins
    rw [List.head?_append_of_ne_nil _ firstSome] at begins
    exact firstSpaced.first head begins
  last := by
    intro last ends
    rw [List.getLast?_append_of_ne_nil _ (List.cons_ne_nil _ _),
      List.getLast?_cons_of_ne_nil secondSome] at ends
    exact secondSpaced.last last ends
  apart := by
    rw [List.isChain_append, List.isChain_cons]
    refine ⟨firstSpaced.apart, ⟨?_, secondSpaced.apart⟩, ?_⟩
    · exact fun head begins => .inr (secondSpaced.first head begins)
    · exact fun last ends _ _ => .inl (firstSpaced.last last ends)

section

variable {runs : List Text} (areRuns : ∀ run ∈ runs, IsRun run)

include areRuns

theorem join_runs_ne_nil (inhabited : runs ≠ []) : join [' '] runs ≠ [] := by
  cases runs with
  | nil => exact absurd rfl inhabited
  | cons run runs =>
      intro empty
      have within : run <:+: join [' '] (run :: runs) := infix_join_of_mem List.mem_cons_self
      rw [empty] at within
      exact (areRuns run List.mem_cons_self).nonempty (List.infix_nil.mp within)

theorem singleSpaced_join : SingleSpaced (join [' '] runs) := by
  induction runs with
  | nil => exact ⟨by simp [join], by simp [join], by simp [join], .nil⟩
  | cons run runs induction =>
      rcases List.forall_mem_cons.mp areRuns with ⟨isRun, others⟩
      cases runs with
      | nil => simpa [join] using isRun.singleSpaced
      | cons next runs =>
          rw [join_cons_cons]
          exact isRun.singleSpaced.append_space (induction others) isRun.nonempty
            (join_runs_ne_nil others (List.cons_ne_nil next runs))

/-- Words are read back from the text that they are joined to. -/
theorem words_join : words (join [' '] runs) = runs := by
  induction runs with
  | nil => rfl
  | cons run runs induction =>
      rcases List.forall_mem_cons.mp areRuns with ⟨isRun, others⟩
      cases runs with
      | nil =>
          have alone : words (run ++ []) = run :: words [] := words_append_of_isRun isRun (by simp)
          simpa [join, words] using alone
      | cons next runs =>
          have stops : ∀ head ∈ (' ' :: join [' '] (next :: runs)).head?, isSpace head = true := by
            simp [isSpace]
          rw [join_cons_cons, List.singleton_append, words_append_of_isRun isRun stops,
            words_cons_of_isSpace rfl, induction others]

end

/-! ## Flattened texts -/

theorem squeezeFrom_append_of_spaces {gap : Text}
    (spaces : ∀ character ∈ gap, isSpace character = true) (rest : Text) :
    squeezeFrom true (gap ++ rest) = squeezeFrom true rest := by
  induction gap with
  | nil => rfl
  | cons head gap induction =>
      rcases List.forall_mem_cons.mp spaces with ⟨space, othersSpaces⟩
      rw [List.cons_append, squeezeFrom, if_pos space, if_pos rfl, induction othersSpaces]

theorem squeezeFrom_append_of_isRun {run : Text} (isRun : IsRun run) (inRun : Bool) (rest : Text) :
    squeezeFrom inRun (run ++ rest) = run ++ squeezeFrom false rest := by
  rcases isRun with ⟨nonempty, spaceless⟩
  induction run generalizing inRun with
  | nil => exact absurd rfl nonempty
  | cons head run induction =>
      rcases List.forall_mem_cons.mp spaceless with ⟨headSpaceless, othersSpaceless⟩
      have next : squeezeFrom inRun (head :: run ++ rest) =
          head :: squeezeFrom false (run ++ rest) := if_neg (Bool.eq_false_iff.mp headSpaceless)
      rw [next]
      cases run with
      | nil => rfl
      | cons second run =>
          rw [induction false (List.cons_ne_nil second run) othersSpaceless]
          rfl

/-- Behind a space that has been written, squeezing writes the runs with single spaces between
them, and at most whitespace after the last. -/
theorem Runs.squeezeFrom_eq {text : Text} {runs : List Text} (areRuns : Runs text runs) :
    ∃ after, squeezeFrom true text = join [' '] runs ++ after ∧
      ∀ character ∈ after, isSpace character = true := by
  induction areRuns with
  | @finished gap spaces =>
      have nothing := squeezeFrom_append_of_spaces spaces []
      rw [List.append_nil] at nothing
      exact ⟨[], nothing, by simp⟩
  | @run gap run rest runs spaces isRun stops areRuns induction =>
      rw [squeezeFrom_append_of_spaces spaces, squeezeFrom_append_of_isRun isRun]
      cases rest with
      | nil =>
          rw [areRuns.eq_words]
          exact ⟨[], by simp [squeezeFrom, words, join], by simp⟩
      | cons head rest =>
          have space := stops head rfl
          have written : squeezeFrom false (head :: rest) =
              ' ' :: squeezeFrom true (head :: rest) := by
            rw [squeezeFrom, squeezeFrom, if_pos space, if_pos space]
            rfl
          rcases induction with ⟨after, squeezed, spacesAfter⟩
          rw [written, squeezed]
          cases runs with
          | nil =>
              refine ⟨' ' :: after, by simp [join], List.forall_mem_cons.mpr ⟨rfl, spacesAfter⟩⟩
          | cons next runs =>
              refine ⟨after, ?_, spacesAfter⟩
              rw [join_cons_cons]
              simp

/-- At the beginning of a text its first whitespace may be written as a space. -/
theorem exists_squeeze_eq (text : Text) : ∃ before,
    squeeze text = before ++ squeezeFrom true text ∧
      ∀ character ∈ before, isSpace character = true := by
  cases text with
  | nil => exact ⟨[], rfl, by simp⟩
  | cons head rest =>
      rw [squeeze, squeezeFrom, squeezeFrom]
      split
      · exact ⟨[' '], rfl, by simp [isSpace]⟩
      · exact ⟨[], rfl, by simp⟩

theorem flatten_eq_join_words (text : Text) : flatten text = join [' '] (words text) := by
  have spaced := singleSpaced_join (runs_words text).isRun_of_mem
  rcases (runs_words text).squeezeFrom_eq with ⟨after, squeezed, spacesAfter⟩
  rcases exists_squeeze_eq text with ⟨before, whole, spacesBefore⟩
  rw [squeezed, ← List.append_assoc] at whole
  have trims : Trims (squeeze text) (join [' '] (words text)) :=
    ⟨⟨before, after, whole, List.forall_mem_append.mpr ⟨spacesBefore, spacesAfter⟩⟩,
      spaced.first, spaced.last⟩
  exact trims.eq_trim.symm

theorem singleSpaced_flatten (text : Text) : SingleSpaced (flatten text) := by
  rw [flatten_eq_join_words]
  exact singleSpaced_join (runs_words text).isRun_of_mem

theorem flatten_flatten (text : Text) : flatten (flatten text) = flatten text := by
  rw [flatten_eq_join_words (flatten text), flatten_eq_join_words text,
    words_join (runs_words text).isRun_of_mem]

end Scenarist.Text
