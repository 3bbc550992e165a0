import Mathlib.Data.List.Basic

/-! # Attempts

Attempts are made one after the other, and the first that fails is the answer
to all of them. So the answer is known from the failures, in their order, and
from the results. -/

namespace Scenarist.Attempts

variable {ε α β : Type}

def failure? : Except ε α → Option ε
  | .ok _ => none
  | .error failure => some failure

def failures (attempts : List (Except ε α)) : List ε :=
  attempts.filterMap failure?

def results (attempts : List (Except ε α)) : List α :=
  attempts.filterMap Except.toOption

/-- A result, or the first of the failures if there are any. -/
def unlessFailed (result : α) : List ε → Except ε α
  | [] => .ok result
  | failure :: _ => .error failure

/-! ## The failures and the results of a list -/

@[simp] theorem failures_nil : failures ([] : List (Except ε α)) = [] := rfl

@[simp] theorem failures_cons_ok (value : α) (attempts : List (Except ε α)) :
    failures (.ok value :: attempts) = failures attempts := rfl

@[simp] theorem failures_cons_error (failure : ε) (attempts : List (Except ε α)) :
    failures (.error failure :: attempts) = failure :: failures attempts := rfl

@[simp] theorem failures_append (first second : List (Except ε α)) :
    failures (first ++ second) = failures first ++ failures second :=
  List.filterMap_append

@[simp] theorem results_nil : results ([] : List (Except ε α)) = [] := rfl

@[simp] theorem results_cons_ok (value : α) (attempts : List (Except ε α)) :
    results (.ok value :: attempts) = value :: results attempts := rfl

@[simp] theorem results_cons_error (failure : ε) (attempts : List (Except ε α)) :
    results (.error failure :: attempts) = results attempts := rfl

@[simp] theorem results_append (first second : List (Except ε α)) :
    results (first ++ second) = results first ++ results second :=
  List.filterMap_append

theorem failures_eq_nil_iff (attempts : List (Except ε α)) :
    failures attempts = [] ↔ ∀ attempt ∈ attempts, ∃ value, attempt = .ok value := by
  induction attempts with
  | nil => simp
  | cons attempt attempts induction => cases attempt <;> simp [induction]

/-- Where nothing failed, the results are all there is. -/
theorem eq_map_ok_iff (attempts : List (Except ε α)) (values : List α) :
    attempts = values.map .ok ↔ failures attempts = [] ∧ results attempts = values := by
  induction attempts generalizing values with
  | nil => cases values <;> simp
  | cons attempt attempts induction =>
      cases attempt with
      | error failure => cases values <;> simp
      | ok value => cases values <;> simp [induction, and_left_comm]

/-! ## The answer -/

section

variable {result : α} {failed : List ε}

theorem unlessFailed_eq_ok_iff {value : α} :
    unlessFailed result failed = .ok value ↔ failed = [] ∧ result = value := by
  cases failed <;> simp [unlessFailed]

theorem unlessFailed_eq_error_iff {failure : ε} :
    unlessFailed result failed = .error failure ↔ failed.head? = some failure := by
  cases failed <;> simp [unlessFailed]

@[simp] theorem unlessFailed_nil : unlessFailed result ([] : List ε) = .ok result := rfl

theorem mapError_unlessFailed (change : ε → β) :
    (unlessFailed result failed).mapError change = unlessFailed result (failed.map change) := by
  cases failed <;> rfl

theorem map_unlessFailed (change : α → β) :
    (unlessFailed result failed).map change = unlessFailed (change result) failed := by
  cases failed <;> rfl

/-- A list of results succeeds in two parts if neither part has failures. -/
theorem unlessFailed_eq_ok_iff_parts {whole first last values : List α}
    {failed firstFailed lastFailed : List ε} (joined : whole = first ++ last)
    (fails : failed = [] ↔ firstFailed = [] ∧ lastFailed = []) :
    unlessFailed whole failed = .ok values ↔
      ∃ one other, unlessFailed first firstFailed = .ok one ∧
        unlessFailed last lastFailed = .ok other ∧ values = one ++ other := by
  simp only [unlessFailed_eq_ok_iff, fails, joined]
  constructor
  · rintro ⟨⟨noFirst, noLast⟩, rfl⟩
    exact ⟨first, last, ⟨noFirst, rfl⟩, ⟨noLast, rfl⟩, rfl⟩
  · rintro ⟨_, _, ⟨noFirst, rfl⟩, ⟨noLast, rfl⟩, rfl⟩
    exact ⟨⟨noFirst, noLast⟩, rfl⟩

/-- What follows can only fail later. -/
theorem unlessFailed_bind {next : α → Except ε β} {last : β} {later : List ε}
    (goesOn : next result = unlessFailed last later) :
    (unlessFailed result failed >>= next) = unlessFailed last (failed ++ later) := by
  cases failed with
  | nil => exact goesOn
  | cons failure others => rfl

end

/-- The failures of single attempts are those of all, in order. -/
theorem mapM_of_unlessFailed {attempt : α → Except ε β} {value : α → β} {failed : α → List ε}
    (each : ∀ item, attempt item = unlessFailed (value item) (failed item)) (items : List α) :
    items.mapM attempt = unlessFailed (items.map value) (items.flatMap failed) := by
  induction items with
  | nil => rfl
  | cons item items induction =>
      rw [List.mapM_cons, each, induction]
      exact unlessFailed_bind (map_unlessFailed (List.cons (value item)))

theorem mapM_eq_unlessFailed (attempt : α → Except ε β) (items : List α) :
    items.mapM attempt =
      unlessFailed (results (items.map attempt)) (failures (items.map attempt)) := by
  induction items with
  | nil => rfl
  | cons item items induction =>
      rw [List.mapM_cons, List.map_cons, induction]
      cases attempt item with
      | error failure => rfl
      | ok value =>
          rw [results_cons_ok, failures_cons_ok]
          exact map_unlessFailed (List.cons value)

/-- Attempts in groups fail with the first failure of the first group that has one. -/
theorem mapM_mapM_eq_unlessFailed (attempt : α → Except ε β) (groups : List (List α)) :
    (groups.mapM fun group => group.mapM attempt) =
      unlessFailed (groups.map fun group => results (group.map attempt))
        (failures (groups.flatten.map attempt)) := by
  rw [mapM_of_unlessFailed fun group => mapM_eq_unlessFailed attempt group]
  congr 1
  rw [failures, List.map_flatten, List.filterMap_flatten, List.map_map, List.flatMap_def]
  rfl

end Scenarist.Attempts
