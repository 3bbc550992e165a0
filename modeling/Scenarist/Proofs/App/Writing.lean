import Scenarist.App.Script

/-! # Writing to limited sinks

A sink with a limit takes the beginning of what comes. Of two runs of the same
writes, one of them with a limit on one sink, either both do the same, or the
limited one stops at the first byte beyond the limit. -/

namespace Scenarist.App

namespace Sink

variable {sink : Sink} {bytes : List UInt8}

@[simp] theorem limit_append (sink : Sink) (bytes : List UInt8) :
    (sink.append bytes).limit = sink.limit := by
  rw [append]
  cases sink.limit <;> rfl

@[simp] theorem flushFails_append (sink : Sink) (bytes : List UInt8) :
    (sink.append bytes).flushFails = sink.flushFails := by
  rw [append]
  cases sink.limit <;> rfl

@[simp] theorem faults_append (sink : Sink) (bytes : List UInt8) :
    (sink.append bytes).faults = sink.faults := by
  rw [append]
  cases sink.limit <;> rfl

theorem refusal_of_accepts (fits : sink.accepts bytes = true) : sink.refusal bytes = none :=
  if_pos fits

theorem refusal_of_refuses (refused : sink.accepts bytes = false) :
    sink.refusal bytes = some sink.faults.full :=
  if_neg (Bool.eq_false_iff.mp refused)

theorem accepts_of_unlimited (unlimited : sink.limit = none) (bytes : List UInt8) :
    sink.accepts bytes = true := by
  rw [accepts, unlimited]

theorem append_of_accepts (fits : sink.accepts bytes = true) :
    sink.append bytes = { sink with accepted := sink.accepted ++ bytes } := by
  rw [append]
  cases limited : sink.limit with
  | none => rfl
  | some limit =>
      have fitsLimit : (sink.accepted ++ bytes).length ≤ limit := by
        simpa [accepts, limited] using fits
      simp only [List.take_of_length_le fitsLimit]

theorem accepts_append_iff (sink : Sink) (first second : List UInt8) :
    sink.accepts (first ++ second) = true ↔
      sink.accepts first = true ∧ (sink.append first).accepts second = true := by
  cases limited : sink.limit with
  | none => simp [accepts, limited]
  | some limit =>
      simp only [accepts, append, limited, List.length_append, List.length_take, decide_eq_true_eq]
      omega

theorem append_append (fits : sink.accepts bytes = true) (more : List UInt8) :
    (sink.append bytes).append more = sink.append (bytes ++ more) := by
  rw [append_of_accepts fits, append, append]
  cases sink.limit <;> simp only [List.append_assoc]

/-- A sink that has reached its limit stays as it is. -/
theorem append_of_full (full : sink.limit = some sink.accepted.length) (bytes : List UInt8) :
    sink.append bytes = sink := by
  simp only [append, full, List.take_left']
  rw [← full]

/-- No more was accepted than the limit allows. -/
def WithinLimit (sink : Sink) : Prop :=
  ∀ limit, sink.limit = some limit → sink.accepted.length ≤ limit

theorem withinLimit_fresh (limit : Option Nat) (flushFails : Bool) (faults : Faults) :
    WithinLimit { limit, flushFails, faults } :=
  fun _ _ => Nat.zero_le _

theorem withinLimit_append (sink : Sink) (bytes : List UInt8) :
    (sink.append bytes).WithinLimit := by
  intro limit limited
  rw [limit_append] at limited
  simp only [append, limited]
  exact List.length_take_le limit _

theorem WithinLimit.isPrefix_append (within : sink.WithinLimit) (bytes : List UInt8) :
    sink.accepted <+: (sink.append bytes).accepted := by
  rw [append]
  cases limited : sink.limit with
  | none => exact List.prefix_append ..
  | some limit => exact List.prefix_take_iff.mpr ⟨List.prefix_append .., within limit limited⟩

theorem WithinLimit.accepts_nil (within : sink.WithinLimit) : sink.accepts [] = true := by
  rw [accepts]
  split
  · rfl
  · next limit limited => exact decide_eq_true (within limit limited)

/-- The sink with another limit. -/
def limited (sink : Sink) (limit : Nat) : Sink :=
  { sink with limit := some limit }

theorem accepts_limited_iff (unlimited : sink.limit = none) (limit : Nat) (bytes : List UInt8) :
    (sink.limited limit).accepts bytes = true ↔ (sink.append bytes).accepted.length ≤ limit := by
  simp only [append, unlimited, List.length_append]
  exact decide_eq_true_iff

/-- With a limit, a sink takes the beginning of what it takes without one. -/
theorem append_limited (unlimited : sink.limit = none) (limit : Nat) (bytes : List UInt8) :
    (sink.limited limit).append bytes =
      { (sink.append bytes).limited limit with
        accepted := (sink.append bytes).accepted.take limit } := by
  simp only [append, limited, unlimited]

theorem append_limited_of_length_le (unlimited : sink.limit = none) {limit : Nat}
    (room : (sink.append bytes).accepted.length ≤ limit) :
    (sink.limited limit).append bytes = (sink.append bytes).limited limit := by
  rw [append_limited unlimited, List.take_of_length_le room]
  rfl

end Sink

namespace Console

theorem sink_setSink (console : Console) (channel other : Channel) (sink : Sink) :
    (console.setSink channel sink).sink other =
      if other = channel then sink else console.sink other := by
  cases channel <;> cases other <;> rfl

theorem ext_sink {first second : Console}
    (same : ∀ channel, first.sink channel = second.sink channel) : first = second := by
  cases first
  cases second
  rw [mk.injEq]
  exact ⟨same .out, same .err⟩

/-- The console with a limit set on one of its sinks. -/
def limited (console : Console) (channel : Channel) (limit : Nat) : Console :=
  console.setSink channel ((console.sink channel).limited limit)

theorem sink_limited (console : Console) (channel other : Channel) (limit : Nat) :
    (console.limited channel limit).sink other =
      if other = channel then (console.sink channel).limited limit else console.sink other :=
  console.sink_setSink ..

theorem sink_limited_self (console : Console) (channel : Channel) (limit : Nat) :
    (console.limited channel limit).sink channel = (console.sink channel).limited limit := by
  rw [sink_limited, if_pos rfl]

theorem sink_limited_of_ne {channel other : Channel} (different : other ≠ channel)
    (console : Console) (limit : Nat) :
    (console.limited channel limit).sink other = console.sink other := by
  rw [sink_limited, if_neg different]

def WithinLimits (console : Console) : Prop :=
  ∀ channel, (console.sink channel).WithinLimit

theorem withinLimits_mk {out err : Sink} (outWithin : out.WithinLimit)
    (errWithin : err.WithinLimit) : WithinLimits { out, err } := by
  intro channel
  cases channel with
  | out => exact outWithin
  | err => exact errWithin

end Console

/-! ## Single writes -/

namespace Write

variable {write : Write} {console : Console}

theorem run_fst (write : Write) (console : Console) :
    (write.run console).1 = (console.sink write.channel).refusal (encode write.text) :=
  rfl

theorem sink_run (write : Write) (console : Console) (channel : Channel) :
    (write.run console).2.sink channel =
      if channel = write.channel then (console.sink channel).append (encode write.text)
      else console.sink channel := by
  rw [run, Console.sink_setSink]
  split
  · next same => rw [same]
  · rfl

theorem sink_run_self (write : Write) (console : Console) :
    (write.run console).2.sink write.channel =
      (console.sink write.channel).append (encode write.text) := by
  rw [sink_run, if_pos rfl]

theorem sink_run_of_ne {channel : Channel} (different : channel ≠ write.channel)
    (console : Console) : (write.run console).2.sink channel = console.sink channel := by
  rw [sink_run, if_neg different]

theorem limit_run (write : Write) (console : Console) (channel : Channel) :
    ((write.run console).2.sink channel).limit = (console.sink channel).limit := by
  rw [sink_run]
  split
  · exact Sink.limit_append ..
  · rfl

theorem flushFails_run (write : Write) (console : Console) (channel : Channel) :
    ((write.run console).2.sink channel).flushFails = (console.sink channel).flushFails := by
  rw [sink_run]
  split
  · exact Sink.flushFails_append ..
  · rfl

theorem faults_run (write : Write) (console : Console) (channel : Channel) :
    ((write.run console).2.sink channel).faults = (console.sink channel).faults := by
  rw [sink_run]
  split
  · exact Sink.faults_append ..
  · rfl

theorem withinLimits_run (write : Write) (within : console.WithinLimits) :
    (write.run console).2.WithinLimits := by
  intro channel
  rw [sink_run]
  split
  · exact Sink.withinLimit_append _ _
  · exact within channel

theorem isPrefix_run (write : Write) (within : console.WithinLimits) (channel : Channel) :
    (console.sink channel).accepted <+: ((write.run console).2.sink channel).accepted := by
  rw [sink_run]
  split
  · exact (within channel).isPrefix_append ..
  · exact List.prefix_rfl

/-- A write to one sink does not feel the limit of another. -/
theorem run_limited_of_ne {channel : Channel} (different : write.channel ≠ channel)
    (console : Console) (limit : Nat) :
    write.run (console.limited channel limit) =
      ((write.run console).1, (write.run console).2.limited channel limit) := by
  refine Prod.ext ?_ (Console.ext_sink fun other => ?_)
  · rw [run_fst, run_fst, Console.sink_limited_of_ne different]
  · rw [Console.sink_limited, sink_run_of_ne different.symm, sink_run, sink_run,
      Console.sink_limited]
    split
    · next same => rw [if_neg (same ▸ different), if_neg (same ▸ different)]
    · rfl

/-- A write that the limit leaves room for does not feel it. -/
theorem run_limited {limit : Nat} (unlimited : (console.sink write.channel).limit = none)
    (room : ((write.run console).2.sink write.channel).accepted.length ≤ limit) :
    write.run (console.limited write.channel limit) =
      (none, (write.run console).2.limited write.channel limit) := by
  rw [sink_run_self] at room
  refine Prod.ext ?_ (Console.ext_sink fun other => ?_)
  · rw [run_fst, Console.sink_limited_self]
    exact Sink.refusal_of_accepts ((Sink.accepts_limited_iff unlimited limit _).mpr room)
  · rw [Console.sink_limited, sink_run, sink_run_self]
    split
    · next same =>
        rw [same, Console.sink_limited_self, Sink.append_limited_of_length_le unlimited room]
    · next different => rw [Console.sink_limited_of_ne different, sink_run_of_ne different]

end Write

/-! ## Many writes -/

section

variable {write : Write} {writes : List Write} {console : Console}

theorem runWrites_cons_of_taken {next : Console} (ran : write.run console = (none, next))
    (rest : List Write) : runWrites (write :: rest) console = runWrites rest next := by
  rw [runWrites, ran]

theorem runWrites_cons_of_refused {reason : Text} {next : Console}
    (ran : write.run console = (some reason, next)) (rest : List Write) :
    runWrites (write :: rest) console = (some reason, next) := by
  rw [runWrites, ran]

theorem runWrites_cons_of_accepts
    (fits : (console.sink write.channel).accepts (encode write.text) = true)
    (rest : List Write) :
    runWrites (write :: rest) console = runWrites rest (write.run console).2 :=
  runWrites_cons_of_taken
    (Prod.ext ((write.run_fst console).trans (Sink.refusal_of_accepts fits)) rfl) rest

theorem runWrites_cons_of_refuses
    (refused : (console.sink write.channel).accepts (encode write.text) = false)
    (rest : List Write) :
    runWrites (write :: rest) console =
      (some (console.sink write.channel).faults.full, (write.run console).2) :=
  runWrites_cons_of_refused
    (Prod.ext ((write.run_fst console).trans (Sink.refusal_of_refuses refused)) rfl) rest

/-- What every single write keeps, all of them keep. -/
theorem runWrites_keeps (property : Console → Prop)
    (keeps : ∀ write ∈ writes, ∀ console, property console → property (write.run console).2)
    (holds : property console) : property (runWrites writes console).2 := by
  induction writes generalizing console with
  | nil => exact holds
  | cons write rest induction =>
      have holdsNext := keeps write List.mem_cons_self console holds
      cases taken : (console.sink write.channel).accepts (encode write.text) with
      | true =>
          rw [runWrites_cons_of_accepts taken]
          have restKeeps := fun later member => keeps later (List.mem_cons_of_mem write member)
          exact induction restKeeps holdsNext
      | false =>
          rw [runWrites_cons_of_refuses taken]
          exact holdsNext

theorem runWrites_append (first second : List Write) (console : Console) :
    runWrites (first ++ second) console =
      if (runWrites first console).1 = none then runWrites second (runWrites first console).2
      else runWrites first console := by
  induction first generalizing console with
  | nil => rfl
  | cons write rest induction =>
      cases taken : (console.sink write.channel).accepts (encode write.text) with
      | true =>
          rw [List.cons_append, runWrites_cons_of_accepts taken, runWrites_cons_of_accepts taken]
          exact induction _
      | false =>
          rw [List.cons_append, runWrites_cons_of_refuses taken, runWrites_cons_of_refuses taken]
          rfl

theorem limit_runWrites (writes : List Write) (console : Console) (channel : Channel) :
    ((runWrites writes console).2.sink channel).limit = (console.sink channel).limit :=
  runWrites_keeps (fun later => (later.sink channel).limit = (console.sink channel).limit)
    (fun write _ later same => (write.limit_run later channel).trans same) rfl

/-- What a sink has accepted it keeps. -/
theorem isPrefix_runWrites (writes : List Write) (within : console.WithinLimits)
    (channel : Channel) :
    (console.sink channel).accepted <+: ((runWrites writes console).2.sink channel).accepted :=
  (runWrites_keeps
    (fun later => later.WithinLimits ∧
      (console.sink channel).accepted <+: (later.sink channel).accepted)
    (fun write _ _ kept =>
      ⟨write.withinLimits_run kept.1, kept.2.trans (write.isPrefix_run kept.1 channel)⟩)
    ⟨within, List.prefix_rfl⟩).2

theorem withinLimits_runWrites (writes : List Write) (within : console.WithinLimits) :
    (runWrites writes console).2.WithinLimits :=
  runWrites_keeps Console.WithinLimits (fun write _ _ kept => write.withinLimits_run kept) within

/-- Writes to one sink leave the other as it is. -/
theorem sink_runWrites_of_ne {channel other : Channel} (different : other ≠ channel)
    (directed : ∀ write ∈ writes, write.channel = channel) (console : Console) :
    (runWrites writes console).2.sink other = console.sink other :=
  runWrites_keeps (fun later => later.sink other = console.sink other)
    (fun write member _ same =>
      (Write.sink_run_of_ne (directed write member ▸ different) _).trans same) rfl

/-- Writes to a sink that has reached its limit change nothing. -/
theorem sink_runWrites_of_full {channel : Channel}
    (full : (console.sink channel).limit = some (console.sink channel).accepted.length)
    (writes : List Write) :
    (runWrites writes console).2.sink channel = console.sink channel := by
  refine runWrites_keeps (fun later => later.sink channel = console.sink channel)
    (fun write _ later same => ?_) rfl
  rw [Write.sink_run, same]
  split
  · exact Sink.append_of_full full _
  · rfl

end

/-! ## Writes to one sink -/

def bytesOf (writes : List Write) : List UInt8 :=
  writes.flatMap fun write => encode write.text

section

variable {channel : Channel} {writes : List Write} {console : Console}

theorem runWrites_of_accepts (directed : ∀ write ∈ writes, write.channel = channel)
    (fits : (console.sink channel).accepts (bytesOf writes) = true) :
    runWrites writes console =
      (none, console.setSink channel ((console.sink channel).append (bytesOf writes))) := by
  induction writes generalizing console with
  | nil =>
      refine Prod.ext rfl (Console.ext_sink fun other => ?_)
      rw [runWrites, Console.sink_setSink, Sink.append_of_accepts fits]
      split
      · next same => rw [same, bytesOf, List.flatMap_nil, List.append_nil]
      · rfl
  | cons write rest induction =>
      rcases List.forall_mem_cons.mp directed with ⟨rfl, restDirected⟩
      have bytes_cons : bytesOf (write :: rest) = encode write.text ++ bytesOf rest := rfl
      rw [bytes_cons] at fits ⊢
      rcases (Sink.accepts_append_iff ..).mp fits with ⟨taken, restFits⟩
      rw [← Write.sink_run_self] at restFits
      rw [runWrites_cons_of_accepts taken, induction restDirected restFits, Write.sink_run_self,
        Sink.append_append taken]
      refine Prod.ext rfl (Console.ext_sink fun other => ?_)
      rw [Console.sink_setSink, Console.sink_setSink]
      split
      · rfl
      · next different => exact Write.sink_run_of_ne different console

theorem accepts_of_runWrites (directed : ∀ write ∈ writes, write.channel = channel)
    (within : (console.sink channel).WithinLimit) (taken : (runWrites writes console).1 = none) :
    (console.sink channel).accepts (bytesOf writes) = true := by
  induction writes generalizing console with
  | nil => exact within.accepts_nil
  | cons write rest induction =>
      rcases List.forall_mem_cons.mp directed with ⟨rfl, restDirected⟩
      cases fits : (console.sink write.channel).accepts (encode write.text) with
      | true =>
          rw [runWrites_cons_of_accepts fits] at taken
          have nextWithin :=
            Sink.withinLimit_append (console.sink write.channel) (encode write.text)
          rw [← Write.sink_run_self] at nextWithin
          have restFits := induction restDirected nextWithin taken
          rw [Write.sink_run_self] at restFits
          exact (Sink.accepts_append_iff ..).mpr ⟨fits, restFits⟩
      | false =>
          rw [runWrites_cons_of_refuses fits] at taken
          cases taken

end

/-! ## The same writes with and without a limit -/

/-- A run that was cut by a limit, beside the whole run: the sink holds the beginning of what it
would have got. -/
structure Truncated (channel : Channel) (limit : Nat) (whole cut : Console) : Prop where
  overflows : limit < (whole.sink channel).accepted.length
  limited : (cut.sink channel).limit = some limit
  accepted : (cut.sink channel).accepted = (whole.sink channel).accepted.take limit

namespace Truncated

variable {channel : Channel} {limit : Nat} {whole cut : Console}

theorem full (truncated : Truncated channel limit whole cut) :
    (cut.sink channel).limit = some (cut.sink channel).accepted.length := by
  rw [truncated.limited, truncated.accepted, List.length_take,
    Nat.min_eq_left (Nat.le_of_lt truncated.overflows)]

/-- Whatever else is written in the two runs, the sink holds the same beginning. -/
theorem runWrites (truncated : Truncated channel limit whole cut) (within : whole.WithinLimits)
    (writes cutWrites : List Write) :
    Truncated channel limit (runWrites writes whole).2 (runWrites cutWrites cut).2 := by
  have goesOn := isPrefix_runWrites writes within channel
  have unchanged := sink_runWrites_of_full truncated.full cutWrites
  constructor
  · exact Nat.lt_of_lt_of_le truncated.overflows goesOn.length_le
  · rw [unchanged, truncated.limited]
  · rcases goesOn with ⟨more, whole_append⟩
    rw [unchanged, truncated.accepted, ← whole_append,
      List.take_append_of_le_length (Nat.le_of_lt truncated.overflows)]

end Truncated

/-- A write that goes beyond the limit is cut. -/
theorem Write.truncated_run {write : Write} {limit : Nat} {console : Console}
    (unlimited : (console.sink write.channel).limit = none)
    (noRoom : limit < ((write.run console).2.sink write.channel).accepted.length) :
    ((console.limited write.channel limit).sink write.channel).accepts (encode write.text) = false ∧
      Truncated write.channel limit (write.run console).2
        (write.run (console.limited write.channel limit)).2 := by
  have taken := Sink.append_limited unlimited limit (encode write.text)
  refine ⟨?_, noRoom, ?_, ?_⟩
  · rw [sink_run_self] at noRoom
    rw [Console.sink_limited_self, Bool.eq_false_iff]
    exact fun fits => Nat.not_lt.mpr ((Sink.accepts_limited_iff unlimited ..).mp fits) noRoom
  · rw [sink_run_self, Console.sink_limited_self, taken]
    rfl
  · rw [sink_run_self, sink_run_self, Console.sink_limited_self, taken]

/-- Either the limit leaves room for everything, and both runs do the same, or the limited run
fails at the first byte beyond the limit, with nothing on the other sink that the whole run does
not write there. -/
theorem runWrites_limited {channel : Channel} {limit : Nat} (writes : List Write)
    {console : Console} (unlimited : (console.sink channel).limit = none)
    (within : console.WithinLimits) (room : (console.sink channel).accepted.length ≤ limit) :
    (((runWrites writes console).2.sink channel).accepted.length ≤ limit ∧
      runWrites writes (console.limited channel limit) =
        ((runWrites writes console).1, (runWrites writes console).2.limited channel limit)) ∨
    ((∃ reason, (runWrites writes (console.limited channel limit)).1 = some reason) ∧
      Truncated channel limit (runWrites writes console).2
        (runWrites writes (console.limited channel limit)).2 ∧
      ∀ other, other ≠ channel →
        ((runWrites writes (console.limited channel limit)).2.sink other).accepted <+:
          ((runWrites writes console).2.sink other).accepted) := by
  induction writes generalizing console with
  | nil => exact .inl ⟨room, rfl⟩
  | cons write rest induction =>
      have nextUnlimited := (write.limit_run console channel).trans unlimited
      have nextWithin := write.withinLimits_run within
      by_cases same : write.channel = channel
      · subst same
        rw [runWrites_cons_of_accepts (Sink.accepts_of_unlimited unlimited _)]
        by_cases nextRoom : ((write.run console).2.sink write.channel).accepted.length ≤ limit
        · have ran := Write.run_limited unlimited nextRoom
          rw [runWrites_cons_of_taken ran]
          exact induction nextUnlimited nextWithin nextRoom
        · have cutHere := Write.truncated_run unlimited (Nat.lt_of_not_le nextRoom)
          rw [runWrites_cons_of_refuses cutHere.1]
          refine .inr ⟨⟨_, rfl⟩, cutHere.2.runWrites nextWithin rest [], ?_⟩
          intro other different
          have goesOn := isPrefix_runWrites rest nextWithin other
          rw [Write.sink_run_of_ne different] at goesOn
          rwa [Write.sink_run_of_ne different, Console.sink_limited_of_ne different]
      · have ran := Write.run_limited_of_ne same console limit
        have nextRoom : ((write.run console).2.sink channel).accepted.length ≤ limit := by
          rwa [Write.sink_run_of_ne (Ne.symm same)]
        cases answered : (write.run console).1 with
        | none =>
            rw [answered] at ran
            rw [runWrites_cons_of_taken (Prod.ext answered rfl), runWrites_cons_of_taken ran]
            exact induction nextUnlimited nextWithin nextRoom
        | some reason =>
            rw [answered] at ran
            rw [runWrites_cons_of_refused (Prod.ext answered rfl), runWrites_cons_of_refused ran]
            exact .inl ⟨nextRoom, rfl⟩

end Scenarist.App
