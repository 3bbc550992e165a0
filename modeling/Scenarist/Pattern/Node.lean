import Scenarist.Pattern.CharSet

/-! # Matching

A pattern is matched by listing the states in which it can end, the preferred
ones first. Of two ways to the same end only the preferred one is listed, for
whatever follows treats them alike. -/

namespace Scenarist.Pattern

/-- The parts of a pattern. -/
inductive Node where
  | empty
  | atom (set : CharSet)
  | start
  | finish
  | capture (group : Nat) (inner : Node)
  | seq (first second : Node)
  | alternative (preferred other : Node)
  | repetition (inner : Node) (least : Nat) (most : Option Nat) (greedy : Bool)
deriving DecidableEq, Repr

/-! A state of the match: whether it stands at the start of the text, what is
left of the text, and the captured texts with the latest first. -/

structure State where
  atStart : Bool
  rest : Text
  groups : List (Nat × Text)
deriving DecidableEq, Repr

namespace State

def left (state : State) : Nat :=
  state.rest.length

end State

abbrev Step := State → List State

/-! Keeps the first state of each end. -/

def distinctFrom : (seen : List Nat) → List State → List State
  | _, [] => []
  | seen, state :: rest =>
    if seen.contains state.left then
      distinctFrom seen rest
    else
      state :: distinctFrom (state.left :: seen) rest

def distinct (states : List State) : List State :=
  distinctFrom [] states

def followedBy (first second : Step) : Step := fun state =>
  distinct ((first state).flatMap second)

/-! Repeating a step a given number of times, or up to that number. -/

def exactly (step : Step) : Nat → Step
  | 0 => fun state => [state]
  | count + 1 => followedBy step (exactly step count)

def preferring (greedy : Bool) (longer : List State) (state : State) : List State :=
  if greedy then longer ++ [state] else state :: longer

def upTo (greedy : Bool) (step : Step) : Nat → Step
  | 0 => fun state => [state]
  | count + 1 => fun state =>
    preferring greedy (followedBy step (upTo greedy step count) state) state

/-! Repeating a step without a limit. The ends seen so far are carried along,
and an end is expanded only once. Every expansion shortens what is left, which
bounds the fuel. -/

structure Visit where
  seen : List Nat
  found : List State

def visitAll (visit : State → List Nat → Visit) (states : List State) (seen : List Nat) :
    Visit :=
  states.foldl
    (fun sofar state =>
      let next := visit state sofar.seen
      ⟨next.seen, sofar.found ++ next.found⟩)
    ⟨seen, []⟩

def visitFrom (greedy : Bool) (step : Step) : (fuel : Nat) → State → List Nat → Visit
  | 0, state, seen => ⟨seen, [state]⟩
  | fuel + 1, state, seen =>
    if seen.contains state.left then
      ⟨seen, []⟩
    else
      let shorter := (step state).filter fun next => next.left < state.left
      let deeper := visitAll (visitFrom greedy step fuel) shorter (state.left :: seen)
      ⟨deeper.seen, preferring greedy deeper.found state⟩

def anyNumber (greedy : Bool) (step : Step) : Step := fun state =>
  (visitFrom greedy step (state.left + 1) state []).found

/-! At least one repetition. The first may be empty, and is then the only
one. -/

def visitFirst (greedy : Bool) (step : Step) (start : State) (state : State)
    (seen : List Nat) : Visit :=
  if state.left = start.left then
    if seen.contains state.left then ⟨seen, []⟩ else ⟨state.left :: seen, [state]⟩
  else
    visitFrom greedy step (state.left + 1) state seen

def atLeastOne (greedy : Bool) (step : Step) : Step := fun state =>
  (visitAll (visitFirst greedy step state) (step state) []).found

namespace Node

/-- Whether a pattern can match without taking a character. -/
def canBeEmpty : Node → Bool
  | .empty => true
  | .atom _ => false
  | .start => true
  | .finish => true
  | .capture _ inner => inner.canBeEmpty
  | .seq first second => first.canBeEmpty && second.canBeEmpty
  | .alternative preferred other => preferred.canBeEmpty || other.canBeEmpty
  | .repetition inner least _ _ => least = 0 || inner.canBeEmpty

/-! Repetition without an upper limit, of a step that may or may not be
empty. -/

def unlimited (greedy mayBeEmpty : Bool) (step : Step) : Nat → Step
  | 0 =>
    if mayBeEmpty then
      fun state => preferring greedy (atLeastOne greedy step state) state
    else
      anyNumber greedy step
  | least + 1 => followedBy (exactly step least) (atLeastOne greedy step)

def limited (greedy : Bool) (step : Step) (least most : Nat) : Step :=
  followedBy (exactly step least) (upTo greedy step (most - least))

/-- The states in which a pattern can end, the preferred ones first. -/
def ends : Node → Step
  | .empty, state => [state]
  | .atom set, state =>
    match state.rest with
    | [] => []
    | head :: rest =>
      if set.contains head then [{ state with atStart := false, rest }] else []
  | .start, state => if state.atStart then [state] else []
  | .finish, state => if state.rest.isEmpty then [state] else []
  | .capture group inner, state =>
    (ends inner state).map fun last =>
      let taken := state.rest.take (state.left - last.left)
      { last with groups := (group, taken) :: last.groups }
  | .seq first second, state => followedBy (ends first) (ends second) state
  | .alternative preferred other, state => ends preferred state ++ ends other state
  | .repetition inner least none greedy, state =>
    unlimited greedy inner.canBeEmpty (ends inner) least state
  | .repetition inner least (some most) greedy, state =>
    limited greedy (ends inner) least most state

/-- The leftmost match, at its preferred end. -/
def search (node : Node) : (atStart : Bool) → Text → Option State
  | atStart, text =>
    match node.ends ⟨atStart, text, []⟩ with
    | state :: _ => some state
    | [] =>
      match text with
      | [] => none
      | _ :: rest => search node false rest

end Node

end Scenarist.Pattern
