import Scenarist.Pattern.Reading

/-! # What patterns take

The ends of a match are listed by preference, and only one for each place. For
a pattern that can take a text in one way only, neither the order nor the
dropped ends matter: it is enough to know what each part can take, and that no
place is lost. -/

namespace Scenarist.Pattern

open Text

/-- What a part of a pattern can take, seen from the text it leaves, and what it captures
then. -/
abbrev Fit :=
  (taken left : Text) → (captured : List (Nat × Text)) → Prop

/-- The ends of a part, from one state: each takes what fits, and all that fits is taken. -/
structure Ends (fit : Fit) (state : State) (ends : List State) : Prop where
  sound : ∀ next ∈ ends, ∃ taken captured, state.rest = taken ++ next.rest ∧
    next.groups = captured ++ state.groups ∧ fit taken next.rest captured
  complete : ∀ taken left captured, state.rest = taken ++ left → fit taken left captured →
    ∃ next ∈ ends, next.rest = left

def Takes (step : Step) (fit : Fit) : Prop :=
  ∀ state, Ends fit state (step state)

namespace Fit

def nothing : Fit :=
  fun taken _ captured => taken = [] ∧ captured = []

def single (set : CharSet) : Fit :=
  fun taken _ captured => (∃ character, set.contains character = true ∧ taken = [character]) ∧
    captured = []

/-- Any number of characters of the set. -/
def run (set : CharSet) : Fit :=
  fun taken _ captured => (∀ character ∈ taken, set.contains character = true) ∧ captured = []

def someRun (set : CharSet) : Fit :=
  fun taken left captured => taken ≠ [] ∧ run set taken left captured

/-- The expected text, and nothing behind it. -/
def word (expected : Text) : Fit :=
  fun taken left captured => (taken = expected ∧ left = []) ∧ captured = []

def optional (fit : Fit) : Fit :=
  fun taken left captured => fit taken left captured ∨ nothing taken left captured

def before (first second : Fit) : Fit :=
  fun taken left captured => ∃ beginning behind captures more, taken = beginning ++ behind ∧
    captured = more ++ captures ∧ first beginning (behind ++ left) captures ∧
      second behind left more

def capture (group : Nat) (fit : Fit) : Fit :=
  fun taken left captured => ∃ inner, captured = (group, taken) :: inner ∧ fit taken left inner

end Fit

variable {fit other : Fit} {state : State} {ends : List State} {step next : Step}

theorem Ends.congr (holds : Ends fit state ends)
    (same : ∀ taken left captured, fit taken left captured ↔ other taken left captured) :
    Ends other state ends := by
  have equal : fit = other := by
    funext taken left captured
    exact propext (same taken left captured)
  exact equal ▸ holds

theorem Takes.congr (takes : Takes step fit)
    (same : ∀ taken left captured, fit taken left captured ↔ other taken left captured) :
    Takes step other :=
  fun state => (takes state).congr same

/-! ## One end for each place -/

theorem mem_of_mem_distinctFrom {states : List State} {seen : List Nat}
    (member : state ∈ distinctFrom seen states) : state ∈ states := by
  induction states generalizing seen with
  | nil => cases member
  | cons first states induction =>
      rw [distinctFrom] at member
      split at member
      · exact List.mem_cons_of_mem first (induction member)
      · rcases List.mem_cons.mp member with rfl | inOthers
        · exact List.mem_cons_self
        · exact List.mem_cons_of_mem first (induction inOthers)

theorem exists_mem_distinctFrom {states : List State} {seen : List Nat} (member : state ∈ states)
    (unseen : state.left ∉ seen) : ∃ kept ∈ distinctFrom seen states, kept.left = state.left := by
  induction states generalizing seen with
  | nil => cases member
  | cons first states induction =>
      rw [distinctFrom]
      by_cases same : state.left = first.left
      · have firstUnseen : ¬seen.contains first.left = true := by simpa [← same] using unseen
        rw [if_neg firstUnseen]
        exact ⟨first, List.mem_cons_self, same.symm⟩
      · have inOthers : state ∈ states := by
          rcases List.mem_cons.mp member with rfl | inOthers
          · exact absurd rfl same
          · exact inOthers
        split
        · exact induction inOthers unseen
        · rcases induction inOthers (List.not_mem_cons_of_ne_of_not_mem same unseen) with
            ⟨kept, isKept, place⟩
          exact ⟨kept, List.mem_cons_of_mem first isKept, place⟩

/-- Of two ends at one place only one is listed, and it leaves the same text. -/
theorem Ends.distinct (holds : Ends fit state ends) : Ends fit state (distinct ends) where
  sound := fun next member => holds.sound next (mem_of_mem_distinctFrom member)
  complete := by
    intro taken left captured whole fits
    rcases holds.complete taken left captured whole fits with ⟨next, member, rfl⟩
    rcases exists_mem_distinctFrom member List.not_mem_nil with ⟨kept, isKept, place⟩
    refine ⟨kept, isKept, ?_⟩
    rcases holds.sound kept (mem_of_mem_distinctFrom isKept) with ⟨keptTaken, -, keptWhole, -⟩
    rw [whole] at keptWhole
    exact (List.append_inj' keptWhole place.symm).2.symm

theorem mem_preferring {greedy : Bool} {longer : List State} {next : State} :
    next ∈ preferring greedy longer state ↔ next ∈ longer ∨ next = state := by
  cases greedy <;> simp [preferring, or_comm]

theorem Ends.preferring (greedy : Bool) (holds : Ends fit state ends) :
    Ends fit.optional state (preferring greedy ends state) where
  sound := by
    intro next member
    rcases mem_preferring.mp member with inLonger | rfl
    · rcases holds.sound next inLonger with ⟨taken, captured, whole, groups, fits⟩
      exact ⟨taken, captured, whole, groups, .inl fits⟩
    · exact ⟨[], [], rfl, rfl, .inr ⟨rfl, rfl⟩⟩
  complete := by
    intro taken left captured whole fits
    rcases fits with fits | ⟨rfl, -⟩
    · rcases holds.complete taken left captured whole fits with ⟨next, member, leaves⟩
      exact ⟨next, mem_preferring.mpr (.inl member), leaves⟩
    · exact ⟨state, mem_preferring.mpr (.inr rfl), whole⟩

/-! ## Parts in a row -/

theorem takes_stay : Takes (fun state => [state]) .nothing := by
  intro state
  constructor
  · intro next member
    rw [List.mem_singleton.mp member]
    exact ⟨[], [], rfl, rfl, rfl, rfl⟩
  · rintro taken left captured whole ⟨rfl, -⟩
    exact ⟨state, List.mem_singleton_self state, whole⟩

theorem Takes.followedBy (first : Takes step fit) (second : Takes next other) :
    Takes (followedBy step next) (fit.before other) := by
  intro state
  apply Ends.distinct
  constructor
  · intro last member
    rcases List.mem_flatMap.mp member with ⟨middle, inFirst, inSecond⟩
    rcases (first state).sound middle inFirst with ⟨beginning, captures, whole, groups, fits⟩
    rcases (second middle).sound last inSecond with ⟨behind, more, rest, moreGroups, behindFits⟩
    refine ⟨beginning ++ behind, more ++ captures, ?_, ?_, beginning, behind, captures, more,
      rfl, rfl, rest ▸ fits, behindFits⟩
    · rw [whole, rest, List.append_assoc]
    · rw [moreGroups, groups, List.append_assoc]
  · rintro taken left captured whole ⟨beginning, behind, captures, more, rfl, rfl, fits, behindFits⟩
    rw [List.append_assoc] at whole
    rcases (first state).complete beginning _ captures whole fits with ⟨middle, inFirst, rest⟩
    rcases (second middle).complete behind left more rest behindFits with ⟨last, inSecond, leaves⟩
    exact ⟨last, List.mem_flatMap.mpr ⟨middle, inFirst, inSecond⟩, leaves⟩

theorem Fit.nothing_before (taken left : Text) (captured : List (Nat × Text)) :
    nothing.before fit taken left captured ↔ fit taken left captured := by
  constructor
  · rintro ⟨-, behind, -, more, rfl, rfl, ⟨rfl, rfl⟩, fits⟩
    simpa using fits
  · intro fits
    exact ⟨[], taken, [], captured, rfl, (List.append_nil _).symm, ⟨rfl, rfl⟩, fits⟩

theorem Fit.before_nothing (taken left : Text) (captured : List (Nat × Text)) :
    fit.before nothing taken left captured ↔ fit taken left captured := by
  constructor
  · rintro ⟨beginning, -, captures, -, rfl, rfl, fits, ⟨rfl, rfl⟩⟩
    simpa using fits
  · intro fits
    exact ⟨taken, [], captured, [], (List.append_nil _).symm, rfl, fits, ⟨rfl, rfl⟩⟩

theorem Fit.optional_someRun (set : CharSet) (taken left : Text) (captured : List (Nat × Text)) :
    optional (someRun set) taken left captured ↔ run set taken left captured := by
  constructor
  · rintro (⟨-, fits⟩ | ⟨rfl, rfl⟩)
    · exact fits
    · exact ⟨by simp, rfl⟩
  · intro fits
    cases taken with
    | nil => exact .inr ⟨rfl, fits.2⟩
    | cons head taken => exact .inl ⟨by simp, fits⟩

namespace CharSet

theorem contains_single (expected character : Char) :
    (single expected).contains character = true ↔ character = expected := by
  simp only [single, contains, Bool.and_eq_true, decide_eq_true_eq]
  constructor
  · intro both
    exact Char.le_antisymm both.2 both.1
  · rintro rfl
    exact ⟨Char.le_refl _, Char.le_refl _⟩

end CharSet

namespace Node

theorem ends_atom (set : CharSet) (state : State) : (atom set).ends state =
    match state.rest with
    | [] => []
    | head :: rest => if set.contains head then [{ state with atStart := false, rest }] else [] :=
  rfl

theorem ends_start (state : State) :
    start.ends state = if state.atStart then [state] else [] := rfl

theorem ends_finish (state : State) :
    finish.ends state = if state.rest.isEmpty then [state] else [] := rfl

theorem ends_capture (group : Nat) (inner : Node) (state : State) :
    (capture group inner).ends state = (inner.ends state).map fun last =>
      { last with groups := (group, state.rest.take (state.left - last.left)) :: last.groups } :=
  rfl

theorem ends_seq (first second : Node) :
    (seq first second).ends = followedBy first.ends second.ends := rfl

theorem ends_unlimited (inner : Node) (least : Nat) (greedy : Bool) :
    (repetition inner least none greedy).ends =
      unlimited greedy inner.canBeEmpty inner.ends least := rfl

theorem ends_limited (inner : Node) (least most : Nat) (greedy : Bool) :
    (repetition inner least (some most) greedy).ends =
      limited greedy inner.ends least most := rfl

/-! ## Rows, groups and optional parts -/

theorem takes_ends_seq {first second : Node} (firstTakes : Takes first.ends fit)
    (secondTakes : Takes second.ends other) : Takes (seq first second).ends (fit.before other) := by
  rw [ends_seq]
  exact firstTakes.followedBy secondTakes

theorem takes_ends_capture {inner : Node} (group : Nat) (takes : Takes inner.ends fit) :
    Takes (capture group inner).ends (fit.capture group) := by
  intro state
  rw [ends_capture]
  constructor
  · intro next member
    rcases List.mem_map.mp member with ⟨last, inEnds, rfl⟩
    rcases (takes state).sound last inEnds with ⟨taken, captured, whole, groups, fits⟩
    have cut : state.rest.take (state.left - last.left) = taken := by
      simp [State.left, whole]
    refine ⟨taken, (group, taken) :: captured, whole, ?_, captured, rfl, fits⟩
    rw [cut, groups]
    rfl
  · rintro taken left captured whole ⟨inner, -, fits⟩
    rcases (takes state).complete taken left inner whole fits with ⟨last, inEnds, leaves⟩
    exact ⟨_, List.mem_map_of_mem inEnds, leaves⟩

theorem takes_ends_optional {inner : Node} (greedy : Bool) (takes : Takes inner.ends fit) :
    Takes (repetition inner 0 (some 1) greedy).ends fit.optional := by
  have once : Takes (followedBy inner.ends (upTo greedy inner.ends 0)) fit :=
    (takes.followedBy takes_stay).congr Fit.before_nothing
  have atMostOnce : Takes (upTo greedy inner.ends 1) fit.optional :=
    fun state => (once state).preferring greedy
  rw [ends_limited]
  exact (takes_stay.followedBy atMostOnce).congr Fit.nothing_before

/-! ## Characters of a set -/

theorem takes_ends_atom (set : CharSet) : Takes (atom set).ends (.single set) := by
  intro state
  rw [ends_atom]
  constructor
  · intro next member
    split at member
    · cases member
    · next head rest whole =>
        split at member
        · next inSet =>
            rw [List.mem_singleton.mp member]
            exact ⟨[head], [], whole, rfl, ⟨head, inSet, rfl⟩, rfl⟩
        · cases member
  · rintro taken left captured whole ⟨⟨character, inSet, rfl⟩, -⟩
    rw [whole]
    simp [inSet]

theorem left_lt_of_mem_ends_atom {set : CharSet} {state next : State}
    (member : next ∈ (atom set).ends state) : next.left < state.left := by
  rcases (takes_ends_atom set state).sound next member with ⟨-, -, whole, -, ⟨head, -, rfl⟩, -⟩
  simp [State.left, whole]

theorem ends_atom_cases (set : CharSet) (state : State) :
    (atom set).ends state = [] ∨ ∃ head rest, state.rest = head :: rest ∧
      set.contains head = true ∧
        (atom set).ends state = [{ state with atStart := false, rest }] := by
  rw [ends_atom]
  split
  · exact .inl rfl
  · next head rest whole =>
      split
      · next inSet => exact .inr ⟨head, rest, whole, inSet, rfl⟩
      · exact .inl rfl

/-- The longer runs of a set are those that go on behind its first character. -/
theorem ends_someRun (set : CharSet) (state : State) (visit : State → List Nat → Visit)
    (seen : List Nat) (visits : ∀ next ∈ (atom set).ends state,
      Ends (.run set) next (visit next seen).found) :
    Ends (.someRun set) state (visitAll visit ((atom set).ends state) seen).found := by
  rcases ends_atom_cases set state with stuck | ⟨head, rest, whole, inSet, steps⟩
  · have takes := (takes_ends_atom set state).complete
    rw [stuck] at takes ⊢
    refine ⟨by simp [visitAll], ?_⟩
    rintro taken left captured cut ⟨spoken, fits, -⟩
    cases taken with
    | nil => exact absurd rfl spoken
    | cons first taken =>
        have inSet := fits first List.mem_cons_self
        rcases takes [first] (taken ++ left) [] cut ⟨⟨first, inSet, rfl⟩, rfl⟩ with
          ⟨next, member, -⟩
        cases member
  · rw [steps] at visits ⊢
    have behind := visits _ (List.mem_singleton_self _)
    constructor
    · intro next member
      rcases behind.sound next member with ⟨taken, captured, cut, groups, fits, rfl⟩
      refine ⟨head :: taken, [], ?_, groups, by simp, ?_, rfl⟩
      · rw [whole, List.cons_append, ← cut]
      · exact List.forall_mem_cons.mpr ⟨inSet, fits⟩
    · rintro taken left captured cut ⟨spoken, fits, -⟩
      cases taken with
      | nil => exact absurd rfl spoken
      | cons first taken =>
          rw [whole] at cut
          have others := (List.forall_mem_cons.mp fits).2
          exact behind.complete taken left [] (List.cons.inj cut).2 ⟨others, rfl⟩

/-! A run is visited from its longest text on, so no place has been seen before. -/

theorem ends_visitFrom_atom (set : CharSet) (greedy : Bool) {fuel : Nat} {state : State}
    {seen : List Nat} (enough : state.left < fuel) (unseen : ∀ place ∈ seen, state.left < place) :
    Ends (.run set) state (visitFrom greedy (atom set).ends fuel state seen).found := by
  induction fuel generalizing state seen with
  | zero => exact absurd enough (Nat.not_lt_zero _)
  | succ fuel induction =>
      have isNew : ¬seen.contains state.left = true := by
        intro isSeen
        exact Nat.lt_irrefl _ (unseen state.left (List.contains_iff_mem.mp isSeen))
      have shorter : ((atom set).ends state).filter (fun next => next.left < state.left) =
          (atom set).ends state :=
        List.filter_eq_self.mpr fun next member => by simpa using left_lt_of_mem_ends_atom member
      rw [visitFrom, if_neg isNew, shorter]
      have longer : Ends (.someRun set) state (visitAll (visitFrom greedy (atom set).ends fuel)
          ((atom set).ends state) (state.left :: seen)).found := by
        refine ends_someRun set state _ _ fun next member => ?_
        have less := left_lt_of_mem_ends_atom member
        refine induction (by omega) (List.forall_mem_cons.mpr ⟨less, ?_⟩)
        exact fun place inSeen => Nat.lt_trans less (unseen place inSeen)
      exact (longer.preferring greedy).congr (Fit.optional_someRun set)

theorem takes_ends_run (set : CharSet) (greedy : Bool) :
    Takes (repetition (atom set) 0 none greedy).ends (.run set) := by
  intro state
  rw [ends_unlimited]
  exact ends_visitFrom_atom set greedy (Nat.lt_succ_self _) (by simp)

theorem takes_ends_someRun (set : CharSet) (greedy : Bool) :
    Takes (repetition (atom set) 1 none greedy).ends (.someRun set) := by
  have onceOrMore : Takes (atLeastOne greedy (atom set).ends) (.someRun set) := by
    intro state
    refine ends_someRun set state _ _ fun next member => ?_
    have less := left_lt_of_mem_ends_atom member
    rw [visitFirst, if_neg (Nat.ne_of_lt less)]
    exact ends_visitFrom_atom set greedy (Nat.lt_succ_self _) (by simp)
  rw [ends_unlimited]
  exact (takes_stay.followedBy onceOrMore).congr Fit.nothing_before

/-! ## Expected texts -/

theorem takes_ends_finish : Takes finish.ends (.word []) := by
  intro state
  rw [ends_finish]
  constructor
  · intro next member
    split at member
    · next finished =>
        rw [List.mem_singleton.mp member]
        exact ⟨[], [], rfl, rfl, ⟨rfl, List.isEmpty_iff.mp finished⟩, rfl⟩
    · cases member
  · rintro taken left captured whole ⟨⟨rfl, rfl⟩, -⟩
    have finished : state.rest.isEmpty = true := by simp [whole]
    rw [if_pos finished]
    exact ⟨state, List.mem_singleton_self state, whole⟩

theorem takes_ends_word (expected : Text) :
    Takes (Frame.sequence ((expected.map fun character => atom (.single character)) ++
      [finish])).ends (.word expected) := by
  induction expected with
  | nil => exact takes_ends_finish
  | cons head expected induction =>
      have inRow : Frame.sequence (((head :: expected).map fun character =>
          atom (.single character)) ++ [finish]) =
            seq (atom (.single head)) (Frame.sequence ((expected.map fun character =>
              atom (.single character)) ++ [finish])) := by
        cases expected <;> rfl
      rw [inRow]
      refine (takes_ends_seq (takes_ends_atom _) induction).congr fun taken left captured => ?_
      constructor
      · rintro ⟨-, -, -, -, rfl, rfl, ⟨⟨character, isHead, rfl⟩, rfl⟩, ⟨rfl, rfl⟩, rfl⟩
        rw [CharSet.contains_single] at isHead
        exact ⟨⟨by rw [isHead]; rfl, rfl⟩, rfl⟩
      · rintro ⟨⟨rfl, rfl⟩, rfl⟩
        exact ⟨[head], expected, [], [], rfl, rfl,
          ⟨⟨head, (CharSet.contains_single head head).mpr rfl, rfl⟩, rfl⟩, ⟨rfl, rfl⟩, rfl⟩

/-! ## Searching from the start -/

theorem ends_start_seq (body : Node) (atStart : Bool) (text : Text) :
    (seq start body).ends ⟨atStart, text, []⟩ =
      if atStart then distinct (body.ends ⟨atStart, text, []⟩) else [] := by
  rw [ends_seq, followedBy, ends_start]
  cases atStart
  · rfl
  · simp

theorem search_start_seq_false (body : Node) (text : Text) :
    (seq start body).search false text = none := by
  induction text with
  | nil => rw [search, ends_start_seq]; rfl
  | cons head rest induction =>
      rw [search, ends_start_seq]
      exact induction

/-- A pattern that is bound to the start is matched nowhere else. -/
theorem search_start_seq (body : Node) (text : Text) :
    (seq start body).search true text = (distinct (body.ends ⟨true, text, []⟩)).head? := by
  cases text with
  | nil =>
      rw [search, ends_start_seq, if_pos rfl]
      cases distinct (body.ends ⟨true, [], []⟩) <;> rfl
  | cons head rest =>
      rw [search, ends_start_seq, if_pos rfl]
      cases distinct (body.ends ⟨true, head :: rest, []⟩) with
      | nil => exact search_start_seq_false body rest
      | cons state others => rfl

end Node

end Scenarist.Pattern
