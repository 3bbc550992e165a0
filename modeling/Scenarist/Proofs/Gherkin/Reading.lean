import Scenarist.Gherkin.Reader
import Scenarist.Proofs.Text.Lines
import Scenarist.Proofs.Text.Trimming

/-! # What readers take

A reader at a place either takes a part, with a result, or refuses. What a
compound reader does there follows from what its parts do. Whatever it takes, it
takes from the beginning: the text it leaves is an end of the text it found. -/

namespace Scenarist.Gherkin.Reader

open Text

variable {α β : Type} {reader other : Reader α} {cursor next last : Cursor} {value : α}

/-! ## One part after the other -/

theorem bind_of_reads (reads : reader cursor = some (value, next)) (others : α → Reader β) :
    (reader >>= others) cursor = others value next := by
  change (reader cursor).bind _ = _
  rw [reads]
  rfl

theorem bind_of_refuses (refuses : reader cursor = none) (others : α → Reader β) :
    (reader >>= others) cursor = none := by
  change (reader cursor).bind _ = _
  rw [refuses]
  rfl

theorem bind_eq_some_iff {others : α → Reader β} {result : β} :
    (reader >>= others) cursor = some (result, last) ↔
      ∃ value next, reader cursor = some (value, next) ∧
        others value next = some (result, last) := by
  cases answer : reader cursor with
  | none => simp [bind_of_refuses answer]
  | some taken =>
      rcases taken with ⟨value, next⟩
      rw [bind_of_reads answer]
      constructor
      · intro reads
        exact ⟨value, next, rfl, reads⟩
      · intro found
        rcases found with ⟨_, _, same, reads⟩
        cases same
        exact reads

theorem pure_apply (value : α) (cursor : Cursor) :
    (pure value : Reader α) cursor = some (value, cursor) := rfl

theorem seqRight_eq_bind (reader : Reader α) (behind : Reader β) :
    (reader *> behind) = reader >>= fun _ => behind := rfl

theorem seqRight_of_refuses (refuses : reader cursor = none) (behind : Reader β) :
    (reader *> behind) cursor = none := by
  rw [seqRight_eq_bind, bind_of_refuses refuses]

/-! ## Choices -/

theorem orElse_apply (reader other : Reader α) (cursor : Cursor) :
    (reader <|> other) cursor = (reader cursor).orElse fun _ => other cursor := rfl

theorem orElse_of_reads (reads : reader cursor = some (value, next)) :
    (reader <|> other) cursor = some (value, next) := by
  rw [orElse_apply, reads]
  rfl

theorem orElse_of_refuses (refuses : reader cursor = none) :
    (reader <|> other) cursor = other cursor := by
  rw [orElse_apply, refuses]
  rfl

theorem orElse_eq_some (reads : (reader <|> other) cursor = some (value, next)) :
    reader cursor = some (value, next) ∨
      reader cursor = none ∧ other cursor = some (value, next) := by
  cases answer : reader cursor with
  | none => exact .inr ⟨rfl, by rwa [orElse_of_refuses answer] at reads⟩
  | some taken =>
      rcases taken with ⟨taken, left⟩
      exact .inl (by rwa [orElse_of_reads answer] at reads)

theorem optional_of_reads (reads : reader cursor = some (value, next)) :
    optional reader cursor = some (some value, next) := by
  apply orElse_of_reads
  rw [map_eq_pure_bind, bind_of_reads reads, pure_apply]

theorem optional_of_refuses (refuses : reader cursor = none) :
    optional reader cursor = some (none, cursor) := by
  rw [optional, orElse_of_refuses, pure_apply]
  rw [map_eq_pure_bind, bind_of_refuses refuses]

theorem refusing_of_reads (reads : reader cursor = some (value, next)) :
    refusing reader cursor = none := by
  rw [refusing, reads]

theorem refusing_of_refuses (refuses : reader cursor = none) :
    refusing reader cursor = some ((), cursor) := by
  rw [refusing, refuses]

/-! ## Pieces of the text -/

theorem expecting_append (beginning rest : Text) (line : Nat) :
    expecting beginning ⟨line, beginning ++ rest⟩ =
      some ((), ⟨line + lineFeeds beginning, rest⟩) := by
  rw [expecting, (strip_eq_some_iff ..).mpr rfl]
  rfl

theorem expecting_of_not_head {first : Char} {beginning : Text}
    (different : ∀ head ∈ cursor.rest.head?, head ≠ first) :
    expecting (first :: beginning) cursor = none := by
  rcases cursor with ⟨line, rest⟩
  cases rest with
  | nil => rfl
  | cons head rest => simp [expecting, strip, different head rfl]

theorem rest_of_expecting {beginning : Text}
    (reads : expecting beginning cursor = some ((), next)) :
    cursor.rest = beginning ++ next.rest := by
  rcases Option.map_eq_some_iff.mp reads with ⟨rest, stripped, answer⟩
  cases answer
  exact (strip_eq_some_iff ..).mp stripped

theorem taking_cutWhile {keeps : Char → Bool} {taken rest : Text} (feed : keeps '\n' = false)
    (kept : ∀ character ∈ taken, keeps character = true)
    (ends : ∀ head ∈ rest.head?, keeps head = false) (line : Nat) :
    taking (cutWhile keeps) ⟨line, taken ++ rest⟩ = some (taken, ⟨line, rest⟩) := by
  have lineFeedless : '\n' ∉ taken := by
    intro member
    rw [kept '\n' member] at feed
    cases feed
  simp [taking, cutWhile_append kept ends, lineFeeds_eq_zero lineFeedless]

theorem taken_of_taking {keeps : Char → Bool} {taken : Text}
    (reads : taking (cutWhile keeps) cursor = some (taken, next)) :
    cursor.rest = taken ++ next.rest ∧ ∀ character ∈ taken, keeps character = true := by
  cases reads
  exact ⟨List.takeWhile_append_dropWhile.symm, List.all_eq_true.mp List.all_takeWhile⟩

theorem nonempty_of_reads {reader : Reader Text} {text : Text} (spoken : text ≠ [])
    (reads : reader cursor = some (text, next)) :
    nonempty reader cursor = some (text, next) := by
  have notEmpty : ¬text.isEmpty = true := by simpa using spoken
  rw [nonempty, bind_of_reads reads, if_neg notEmpty, pure_apply]

theorem nonempty_of_empty {reader : Reader Text} (reads : reader cursor = some ([], next)) :
    nonempty reader cursor = none := by
  rw [nonempty, bind_of_reads reads]
  rfl

theorem reads_of_nonempty {reader : Reader Text} {text : Text}
    (reads : nonempty reader cursor = some (text, next)) :
    text ≠ [] ∧ reader cursor = some (text, next) := by
  rcases bind_eq_some_iff.mp reads with ⟨taken, behind, taking, reads⟩
  by_cases empty : taken.isEmpty = true
  · rw [if_pos empty] at reads
    cases reads
  · rw [if_neg empty] at reads
    cases reads
    exact ⟨by simpa using empty, taking⟩

/-! ## Repetition -/

theorem repeated_of_refuses (refuses : reader cursor = none) :
    repeated reader cursor = ([], cursor) := by
  rw [repeated, refuses]

theorem repeated_of_reads (reads : reader cursor = some (value, next))
    (shorter : next.rest.length < cursor.rest.length) :
    repeated reader cursor =
      (value :: (repeated reader next).1, (repeated reader next).2) := by
  rw [repeated, reads]
  simp [shorter]

theorem many_apply (reader : Reader α) (cursor : Cursor) :
    many reader cursor = some ((repeated reader cursor).1, (repeated reader cursor).2) := rfl

theorem many_of_refuses (refuses : reader cursor = none) :
    many reader cursor = some ([], cursor) := by
  rw [many, repeated_of_refuses refuses]

/-- A repetition that gets anywhere has taken at least one part. -/
theorem manyOne_of_progress (progress : (repeated reader cursor).2 ≠ cursor) :
    manyOne reader cursor = some ((repeated reader cursor).1, (repeated reader cursor).2) := by
  cases answer : reader cursor with
  | none =>
      rw [repeated_of_refuses answer] at progress
      exact absurd rfl progress
  | some taken =>
      rcases taken with ⟨value, next⟩
      by_cases shorter : next.rest.length < cursor.rest.length
      · rw [manyOne, bind_of_reads answer, repeated_of_reads answer shorter]
        rfl
      · rw [repeated, answer] at progress
        simp [shorter] at progress

theorem separatedOne_of_reads {separator : Reader β}
    (reads : reader cursor = some (value, next)) :
    separatedOne separator reader cursor =
      some (value :: (repeated (separator *> reader) next).1,
        (repeated (separator *> reader) next).2) := by
  rw [separatedOne, bind_of_reads reads]
  rfl

theorem separated_of_reads {separator : Reader β} (reads : reader cursor = some (value, next)) :
    separated separator reader cursor =
      some (value :: (repeated (separator *> reader) next).1,
        (repeated (separator *> reader) next).2) :=
  orElse_of_reads (separatedOne_of_reads reads)

theorem separated_of_refuses {separator : Reader β} (refuses : reader cursor = none) :
    separated separator reader cursor = some ([], cursor) := by
  rw [separated, separatedOne, orElse_of_refuses (bind_of_refuses refuses _), pure_apply]

theorem separated_cases {separator : Reader β} {values : List α}
    (reads : separated separator reader cursor = some (values, last)) :
    (values = [] ∧ last = cursor) ∨ ∃ first next, reader cursor = some (first, next) ∧
      values = first :: (repeated (separator *> reader) next).1 ∧
        last = (repeated (separator *> reader) next).2 := by
  cases answer : reader cursor with
  | none =>
      rw [separated_of_refuses answer] at reads
      cases reads
      exact .inl ⟨rfl, rfl⟩
  | some taken =>
      rcases taken with ⟨first, next⟩
      rw [separated_of_reads answer] at reads
      cases reads
      exact .inr ⟨first, next, rfl, rfl, rfl⟩

/-! ## What is left is an end of the text

A reader inherits this from its parts, so it is kept as a class. -/

/-- What the reader leaves of a text is an end of it. -/
class LeavesEnd (reader : Reader α) : Prop where
  suffix : ∀ {cursor : Cursor} {value : α} {next : Cursor},
    reader cursor = some (value, next) → next.rest <:+ cursor.rest

open LeavesEnd (suffix)

instance : LeavesEnd (pure value : Reader α) where
  suffix reads := by
    cases reads
    exact List.suffix_rfl

instance : LeavesEnd (failure : Reader α) where
  suffix reads := by cases reads

instance : LeavesEnd here where
  suffix reads := by
    cases reads
    exact List.suffix_rfl

instance : LeavesEnd (get : Reader Cursor) where
  suffix reads := by
    cases reads
    exact List.suffix_rfl

instance : LeavesEnd atEnd where
  suffix reads := by
    rw [atEnd] at reads
    split at reads
    · cases reads
      exact List.suffix_rfl
    · cases reads

instance : LeavesEnd (refusing reader) where
  suffix reads := by
    rw [refusing] at reads
    split at reads
    · cases reads
      exact List.suffix_rfl
    · cases reads

instance (beginning : Text) : LeavesEnd (expecting beginning) where
  suffix reads := by
    rw [rest_of_expecting reads]
    exact List.suffix_append beginning _

theorem leavesEnd_taking {cut : Text → Text × Text}
    (divides : ∀ text, (cut text).2 <:+ text) : LeavesEnd (taking cut) where
  suffix reads := by
    cases reads
    exact divides _

instance (keeps : Char → Bool) : LeavesEnd (taking (cutWhile keeps)) :=
  leavesEnd_taking fun _ => List.dropWhile_suffix keeps

theorem LeavesEnd.bind {others : α → Reader β} (leavesEnd : LeavesEnd reader)
    (othersLeaveEnd : ∀ value, LeavesEnd (others value)) : LeavesEnd (reader >>= others) where
  suffix reads := by
    rcases bind_eq_some_iff.mp reads with ⟨value, next, first, second⟩
    exact ((othersLeaveEnd value).suffix second).trans (leavesEnd.suffix first)

instance {others : α → Reader β} [LeavesEnd reader] [∀ value, LeavesEnd (others value)] :
    LeavesEnd (reader >>= others) :=
  LeavesEnd.bind inferInstance inferInstance

instance {behind : Reader β} [LeavesEnd reader] [LeavesEnd behind] :
    LeavesEnd (reader *> behind) :=
  inferInstanceAs (LeavesEnd (reader >>= fun _ => behind))

instance (change : α → β) [LeavesEnd reader] : LeavesEnd (change <$> reader) := by
  rw [map_eq_pure_bind]
  infer_instance

instance [LeavesEnd reader] [LeavesEnd other] : LeavesEnd (reader <|> other) where
  suffix reads := by
    rcases orElse_eq_some reads with first | ⟨-, second⟩
    · exact suffix first
    · exact suffix second

instance [LeavesEnd reader] : LeavesEnd (optional reader) := by
  unfold optional
  infer_instance

theorem repeated_suffix (reader : Reader α) [LeavesEnd reader] (cursor : Cursor) :
    (repeated reader cursor).2.rest <:+ cursor.rest := by
  fun_induction Reader.repeated reader cursor with
  | case1 cursor refuses => exact List.suffix_rfl
  | case2 cursor value next reads shorter values last answer induction =>
      rw [answer] at induction
      exact induction.trans (suffix reads)
  | case3 cursor => exact List.suffix_rfl

instance [LeavesEnd reader] : LeavesEnd (many reader) where
  suffix {cursor values last} reads := by
    have whole : repeated reader cursor = (values, last) := Option.some.inj reads
    have suffix := repeated_suffix reader cursor
    rwa [whole] at suffix

instance [LeavesEnd reader] : LeavesEnd (manyOne reader) := by
  unfold manyOne
  infer_instance

instance {separator : Reader β} [LeavesEnd separator] [LeavesEnd reader] :
    LeavesEnd (separatedOne separator reader) := by
  unfold separatedOne
  infer_instance

instance {separator : Reader β} [LeavesEnd separator] [LeavesEnd reader] :
    LeavesEnd (separated separator reader) := by
  unfold separated
  infer_instance

instance {condition : Prop} [Decidable condition] [LeavesEnd reader] [LeavesEnd other] :
    LeavesEnd (if condition then reader else other) := by
  split <;> infer_instance

instance {reader : Reader Text} [LeavesEnd reader] : LeavesEnd (nonempty reader) := by
  unfold nonempty
  infer_instance

end Scenarist.Gherkin.Reader
