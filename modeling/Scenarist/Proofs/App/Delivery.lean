import Scenarist.Files.Snapshot
import Scenarist.Proofs.App.Performance

/-! # The output of a run

A run whose output is cut by a limit fails, and is otherwise no different from
the whole one. It succeeds just if everything that it writes is taken, and, if
it was asked for a command, the flush succeeds. -/

namespace Scenarist.App

open CommandLine

section

variable [Pattern.Compiler]

theorem out_perform (setup : Setup) (script : Script) (console : Console) :
    (perform setup script console).2.out = (runWrites script.writes console).2.out := by
  cases answered : (runWrites script.writes console).1 with
  | none =>
      rw [perform_of_taken setup answered]
      cases script.ending with
      | error error => exact out_fail ..
      | ok code => rfl
  | some reason =>
      rw [perform_of_refused setup answered]
      exact out_fail ..

theorem out_flushAfter (setup : Setup) (answer : Answer) (result : ExitCode × Console) :
    (flushAfter setup answer result).2.out = result.2.out := by
  rw [flushAfter, flush]
  split
  · split
    · exact out_fail ..
    · rfl
  · rfl

/-! ## Success of a script -/

theorem perform_eq_success_iff (setup : Setup) (script : Script) (console : Console) :
    (perform setup script console).1 = .success ↔
      script.code = .success ∧ (runWrites script.writes console).1 = none := by
  cases answered : (runWrites script.writes console).1 with
  | none =>
      rw [perform_of_taken setup answered, Script.code]
      cases script.ending <;> simp
  | some reason =>
      rw [perform_of_refused setup answered]
      simp

theorem flushAfter_eq_success_iff (setup : Setup) (answer : Answer)
    (result : ExitCode × Console) :
    (flushAfter setup answer result).1 = .success ↔
      result.1 = .success ∧ (isCommand answer = true → result.2.out.flushFails = false) := by
  rw [flushAfter, flush]
  cases isCommand answer with
  | false => simp
  | true => cases result.2.out.flushFails <;> simp

theorem perform_of_success {setup : Setup} {script : Script} {console : Console}
    (success : (perform setup script console).1 = .success) :
    perform setup script console = (.success, (runWrites script.writes console).2) := by
  rcases (perform_eq_success_iff ..).mp success with ⟨ends, taken⟩
  rw [Script.code] at ends
  rw [perform_of_taken setup taken]
  cases ending : script.ending with
  | ok code =>
      rw [ending] at ends
      rw [show code = .success from ends]
  | error error =>
      rw [ending] at ends
      cases ends

theorem flushAfter_of_success {setup : Setup} {answer : Answer} {result : ExitCode × Console}
    (success : (flushAfter setup answer result).1 = .success) :
    flushAfter setup answer result = result := by
  have flushed := ((flushAfter_eq_success_iff ..).mp success).2
  rw [flushAfter, flush]
  split
  · next command => rw [if_neg (Bool.eq_false_iff.mp (flushed command))]
  · rfl

/-! ## Runs that succeed -/

section

variable [Gherkin.Parser] [Interpreter] (setup : Setup) (files : Files) (arguments : List Text)
  (console : Console)

theorem out_run :
    (run setup files arguments console).2.out =
      (runWrites (answerScript setup files (Interpreter.answer arguments)).writes
        console).2.out := by
  rw [run_eq_perform, out_flushAfter, out_perform]

theorem run_eq_success_iff (within : console.out.WithinLimit) :
    let script := answerScript setup files (Interpreter.answer arguments)
    (run setup files arguments console).1 = .success ↔
      script.code = .success ∧ console.out.accepts (bytesOf script.writes) = true ∧
        (isCommand (Interpreter.answer arguments) = true → console.out.flushFails = false) := by
  intro script
  rw [run_eq_perform, flushAfter_eq_success_iff, flushFails_perform, perform_eq_success_iff,
    and_assoc]
  refine and_congr_right fun success => and_congr_left fun _ => ?_
  have directed := (enacts_answer setup files (Interpreter.answer arguments)).channel_of_mem success
  constructor
  · exact accepts_of_runWrites directed within
  · intro fits
    rw [runWrites_of_accepts directed fits]

variable {setup files arguments console}

/-- A run that succeeds has written what its script writes, and all of it is output. -/
theorem run_of_success (success : (run setup files arguments console).1 = .success) :
    let script := answerScript setup files (Interpreter.answer arguments)
    (∀ write ∈ script.writes, write.channel = .out) ∧
      run setup files arguments console = (.success, (runWrites script.writes console).2) := by
  intro script
  rw [run_eq_perform] at success ⊢
  have performed := ((flushAfter_eq_success_iff ..).mp success).1
  have ends := ((perform_eq_success_iff ..).mp performed).1
  refine ⟨(enacts_answer setup files _).channel_of_mem ends, ?_⟩
  rw [flushAfter_of_success success, perform_of_success performed]

theorem err_run_of_success
    (success : (run setup files arguments console).1 = .success) :
    (run setup files arguments console).2.err = console.err := by
  rcases run_of_success success with ⟨directed, ran⟩
  rw [ran]
  have different : Channel.err ≠ .out := by decide
  exact sink_runWrites_of_ne different directed console

theorem out_run_of_success (within : console.out.WithinLimit)
    (success : (run setup files arguments console).1 = .success) :
    (run setup files arguments console).2.out.accepted = console.out.accepted ++
      bytesOf (answerScript setup files (Interpreter.answer arguments)).writes := by
  rcases run_of_success success with ⟨directed, ran⟩
  have fits := ((run_eq_success_iff setup files arguments console within).mp success).2.1
  rw [ran, runWrites_of_accepts directed fits]
  exact congrArg Sink.accepted (Sink.append_of_accepts fits)

end

/-! ## Runs with a limit -/

section

variable [Gherkin.Parser] [Interpreter] (setup : Setup) (files : Files) (arguments : List Text)

theorem out_truncates (faults : Faults) (limit : Nat) :
    let whole := run setup files arguments { out := { faults } }
    let cut := run setup files arguments { out := { limit := some limit, faults } }
    cut.2.out.accepted = whole.2.out.accepted.take (min limit whole.2.out.accepted.length) ∧
      (limit < whole.2.out.accepted.length → cut.1 = .failure) ∧
      (whole.2.out.accepted.length ≤ limit →
        cut.1 = whole.1 ∧ cut.2.err.accepted = whole.2.err.accepted) := by
  intro whole cut
  have within := Console.withinLimits_mk (Sink.withinLimit_fresh none false faults)
    (Sink.withinLimit_fresh none false {})
  have cuts : Cuts .out limit whole cut := cuts_run rfl within (Nat.zero_le limit) ..
  rw [← List.take_eq_take_min]
  cases cuts with
  | same room equal =>
      rw [equal]
      refine ⟨(List.take_of_length_le room).symm, ?_, fun _ => ⟨rfl, rfl⟩⟩
      exact fun overflows => absurd overflows (Nat.not_lt.mpr room)
  | truncated failed truncated =>
      refine ⟨truncated.accepted, fun _ => failed, ?_⟩
      exact fun room => absurd truncated.overflows (Nat.not_lt.mpr room)

theorem err_truncates (outLimit : Option Nat) (outFails : Bool) (outFaults errFaults : Faults)
    (limit : Nat) :
    let out : Sink := { limit := outLimit, flushFails := outFails, faults := outFaults }
    let whole := run setup files arguments { out, err := { faults := errFaults } }
    let cut := run setup files arguments
      { out, err := { limit := some limit, faults := errFaults } }
    cut.2.err.accepted = whole.2.err.accepted.take limit ∧ cut.1 = whole.1 ∧
      cut.2.out.accepted <+: whole.2.out.accepted := by
  intro out whole cut
  have within := Console.withinLimits_mk (Sink.withinLimit_fresh outLimit outFails outFaults)
    (Sink.withinLimit_fresh none false errFaults)
  have cuts : Cuts .err limit whole cut := cuts_run rfl within (Nat.zero_le limit) ..
  refine and_assoc.mp ⟨?_, ?_⟩
  · cases cuts with
    | same room equal =>
        rw [equal]
        exact ⟨(List.take_of_length_le room).symm, rfl⟩
    | truncated failed truncated =>
        refine ⟨truncated.accepted, failed.trans ?_⟩
        -- A whole run that succeeded would have left nothing to cut.
        cases code : whole.1 with
        | failure => rfl
        | success =>
            have overflows := truncated.overflows
            rw [Console.sink, err_run_of_success code] at overflows
            exact absurd overflows (Nat.not_lt_zero limit)
  · have unlimited : (Console.sink { out, err := { faults := errFaults } } .err).limit = none := rfl
    have played := runWrites_limited
      (answerScript setup files (Interpreter.answer arguments)).writes unlimited within
      (Nat.zero_le limit)
    rw [out_run, out_run]
    rcases played with ⟨-, equal⟩ | ⟨-, -, others⟩
    · exact ⟨[], (List.append_nil _).trans (congrArg (fun played => played.2.out.accepted) equal)⟩
    · exact others .out (by decide)

/-- A sink that fails cuts what it gets, and changes the exit code only where it cuts output. -/
theorem run_truncates :
    (∀ (faults : Faults) (limit : Nat),
      let whole := run setup files arguments { out := { faults } }
      let cut := run setup files arguments { out := { limit := some limit, faults } }
      cut.2.out.accepted = whole.2.out.accepted.take (min limit whole.2.out.accepted.length) ∧
        (limit < whole.2.out.accepted.length → cut.1 = .failure) ∧
        (whole.2.out.accepted.length ≤ limit →
          cut.1 = whole.1 ∧ cut.2.err.accepted = whole.2.err.accepted)) ∧
    ∀ (outLimit : Option Nat) (outFails : Bool) (outFaults errFaults : Faults) (limit : Nat),
      let out : Sink := { limit := outLimit, flushFails := outFails, faults := outFaults }
      let whole := run setup files arguments { out, err := { faults := errFaults } }
      let cut := run setup files arguments
        { out, err := { limit := some limit, faults := errFaults } }
      cut.2.err.accepted = whole.2.err.accepted.take limit ∧ cut.1 = whole.1 ∧
        cut.2.out.accepted <+: whole.2.out.accepted :=
  ⟨out_truncates setup files arguments, err_truncates setup files arguments⟩

/-- A run succeeds just if the whole run does, the sink takes all that the whole run writes, and,
for a command, the sink can be flushed. -/
theorem success_iff_delivered (limit : Option Nat) (flushFails : Bool) (faults : Faults)
    (err : Sink) :
    let out : Sink := { limit, flushFails, faults }
    let whole := run setup files arguments {}
    let result := run setup files arguments { out, err }
    (result.1 = .success ↔ whole.1 = .success ∧ out.accepts whole.2.out.accepted = true ∧
      (isCommand (Interpreter.answer arguments) = true → flushFails = false)) ∧
    (result.1 = .success → result.2.out.accepted = whole.2.out.accepted) := by
  intro out whole result
  have within : out.WithinLimit := Sink.withinLimit_fresh limit flushFails faults
  have wholeWithin : ({} : Sink).WithinLimit := Sink.withinLimit_fresh none false {}
  have wholeSucceeds : whole.1 = .success ↔
      (answerScript setup files (Interpreter.answer arguments)).code = .success := by
    refine (run_eq_success_iff setup files arguments {} wholeWithin).trans (and_iff_left ?_)
    exact ⟨Sink.accepts_of_unlimited rfl _, fun _ => rfl⟩
  have resultSucceeds := run_eq_success_iff setup files arguments { out, err } within
  constructor
  · refine resultSucceeds.trans ?_
    rw [← wholeSucceeds]
    refine and_congr_right fun success => ?_
    rw [out_run_of_success wholeWithin success]
    rfl
  · intro success
    have succeeds := wholeSucceeds.mpr (resultSucceeds.mp success).1
    rw [out_run_of_success within success, out_run_of_success wholeWithin succeeds]

end

end

/-- The version is shown by a run that succeeds though its output could not be flushed. -/
theorem not_delivered_version :
    run {} (Files.Snapshot.toFiles []) ["--version"] { out := { flushFails := true } } =
        (.success, { out := { accepted := encode versionText, flushFails := true } }) ∧
      ¬∀ [Gherkin.Parser] [Pattern.Compiler] [Interpreter] (setup : Setup) (files : Files)
        (arguments : List Text) (limit : Option Nat) (flushFails : Bool) (faults : Faults),
        (run setup files arguments { out := { limit, flushFails, faults } }).1 = .success →
          flushFails = false := by
  have shown : run {} (Files.Snapshot.toFiles []) ["--version"] { out := { flushFails := true } } =
      (.success, { out := { accepted := encode versionText, flushFails := true } }) := by
    decide +kernel
  refine ⟨shown, ?_⟩
  intro delivers
  have flushed := delivers {} (Files.Snapshot.toFiles []) ["--version"] none true {}
    (congrArg Prod.fst shown)
  cases flushed

end Scenarist.App
