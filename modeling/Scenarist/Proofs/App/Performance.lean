import Scenarist.Proofs.App.Events
import Scenarist.Proofs.App.Writing

/-! # Performing scripts

To perform a script is to play it and to report the error it ends with. A run
performs the script of its answer, and a command is followed by a flush. With
a limit on one of the sinks a performance ends like the whole one, or it fails
with that sink full. -/

namespace Scenarist.App

open CommandLine

section

variable [Pattern.Compiler]

/-- Plays a script and reports the error that it ends with. -/
def perform (setup : Setup) (script : Script) (console : Console) : ExitCode × Console :=
  conclude setup (script.play console)

/-- Whether an answer is a command, whose output is flushed. -/
def isCommand : Answer → Bool
  | .run _ => true
  | _ => false

/-- What is left to do after the script of an answer. -/
def flushAfter (setup : Setup) (answer : Answer) (result : ExitCode × Console) :
    ExitCode × Console :=
  if isCommand answer then flush setup result else result

theorem display_eq_perform (setup : Setup) (text : Text) (console : Console) :
    display setup text console =
      perform setup { writes := [⟨.out, text⟩], ending := .ok .success } console := by
  rw [display, perform, Script.play]
  dsimp only
  cases runWrites [⟨.out, text⟩] console with
  | mk reason last => cases reason <;> rfl

theorem run_eq_perform [Gherkin.Parser] [Interpreter] (setup : Setup) (files : Files)
    (arguments : List Text) (console : Console) :
    run setup files arguments console =
      flushAfter setup (Interpreter.answer arguments)
        (perform setup (answerScript setup files (Interpreter.answer arguments)) console) := by
  rw [run]
  cases Interpreter.answer arguments with
  | display text => exact display_eq_perform setup text console
  | noCommand => rfl
  | refused rendered => rfl
  | run command => rfl

section

variable {script : Script} {console : Console}

theorem perform_of_taken (setup : Setup) (taken : (runWrites script.writes console).1 = none) :
    perform setup script console =
      match script.ending with
      | .ok code => (code, (runWrites script.writes console).2)
      | .error error => (.failure, setup.fail error (runWrites script.writes console).2) := by
  have ran : runWrites script.writes console = (none, (runWrites script.writes console).2) :=
    Prod.ext taken rfl
  rw [perform, Script.play, ran]
  cases script.ending <;> rfl

theorem perform_of_refused (setup : Setup) {reason : Text}
    (refused : (runWrites script.writes console).1 = some reason) :
    perform setup script console =
      (.failure, setup.fail (.output reason) (runWrites script.writes console).2) := by
  have ran : runWrites script.writes console =
      (some reason, (runWrites script.writes console).2) := Prod.ext refused rfl
  rw [perform, Script.play, ran]
  rfl

end

/-! ## Reporting an error -/

theorem channel_of_mem_diagnosis (setup : Setup) (error : Error) :
    ∀ write ∈ setup.diagnosis error, write.channel = .err := by
  intro write member
  rcases List.mem_cons.mp member with rfl | isCause
  · rfl
  · rcases List.mem_map.mp isCause with ⟨cause, -, rfl⟩
    rfl

omit [Pattern.Compiler] in
theorem channel_of_mem_usageLines (setup : Setup) :
    ∀ write ∈ setup.usageLines, write.channel = .err := by
  intro write member
  rcases List.mem_pair.mp member with rfl | rfl <;> rfl

theorem channel_of_mem_report (setup : Setup) (error : Error) :
    ∀ write ∈ setup.diagnosis error ++ setup.usageLines, write.channel = .err :=
  List.forall_mem_append.mpr
    ⟨channel_of_mem_diagnosis setup error, channel_of_mem_usageLines setup⟩

theorem out_fail (setup : Setup) (error : Error) (console : Console) :
    (setup.fail error console).out = console.out :=
  have different : Channel.out ≠ .err := by decide
  sink_runWrites_of_ne different (channel_of_mem_report setup error) console

section

variable {setup : Setup} {script : Script} (property : Console → Prop)
  (keeps : ∀ (write : Write) (console : Console), property console → property (write.run console).2)

include keeps

/-- What every write keeps, a performance keeps. -/
theorem perform_keeps {console : Console} (holds : property console) :
    property (perform setup script console).2 := by
  have kept : ∀ writes console, property console → property (runWrites writes console).2 :=
    fun writes console => runWrites_keeps property fun write _ => keeps write
  have played := kept script.writes console holds
  cases answered : (runWrites script.writes console).1 with
  | none =>
      rw [perform_of_taken setup answered]
      cases script.ending with
      | error error => exact kept _ _ played
      | ok code => exact played
  | some reason =>
      rw [perform_of_refused setup answered]
      exact kept _ _ played

end

theorem flushFails_perform (setup : Setup) (script : Script) (console : Console) :
    (perform setup script console).2.out.flushFails = console.out.flushFails :=
  perform_keeps (fun later => later.out.flushFails = console.out.flushFails)
    (fun write later same => (write.flushFails_run later .out).trans same) rfl

theorem faults_perform (setup : Setup) (script : Script) (console : Console) :
    (perform setup script console).2.out.faults = console.out.faults :=
  perform_keeps (fun later => later.out.faults = console.out.faults)
    (fun write later same => (write.faults_run later .out).trans same) rfl

theorem limit_perform (setup : Setup) (script : Script) (console : Console) (channel : Channel) :
    ((perform setup script console).2.sink channel).limit = (console.sink channel).limit :=
  perform_keeps (fun later => (later.sink channel).limit = (console.sink channel).limit)
    (fun write later same => (write.limit_run later channel).trans same) rfl

theorem withinLimits_perform (setup : Setup) (script : Script) {console : Console}
    (within : console.WithinLimits) : (perform setup script console).2.WithinLimits :=
  perform_keeps Console.WithinLimits (fun write _ kept => write.withinLimits_run kept) within

/-! ## The same performance with and without a limit -/

/-- What a limit may change: nothing, or the run fails with the sink full. -/
inductive Cuts (channel : Channel) (limit : Nat) (whole cut : ExitCode × Console) : Prop where
  | same (room : (whole.2.sink channel).accepted.length ≤ limit)
      (equal : cut = (whole.1, whole.2.limited channel limit))
  | truncated (failed : cut.1 = .failure) (truncated : Truncated channel limit whole.2 cut.2)

section

variable {channel : Channel} {limit : Nat} {console : Console}
  (unlimited : (console.sink channel).limit = none) (within : console.WithinLimits)
  (room : (console.sink channel).accepted.length ≤ limit)

include unlimited within room

theorem cuts_fail (setup : Setup) (error : Error) :
    Cuts channel limit (.failure, setup.fail error console)
      (.failure, setup.fail error (console.limited channel limit)) := by
  rcases runWrites_limited (setup.diagnosis error ++ setup.usageLines) unlimited within room with
    ⟨left, equal⟩ | ⟨-, truncated, -⟩
  · refine .same left ?_
    rw [Setup.fail, Setup.fail, equal]
  · exact .truncated rfl truncated

theorem cuts_perform (setup : Setup) (script : Script) :
    Cuts channel limit (perform setup script console)
      (perform setup script (console.limited channel limit)) := by
  have playedUnlimited := (limit_runWrites script.writes console channel).trans unlimited
  have playedWithin := withinLimits_runWrites script.writes within
  rcases runWrites_limited script.writes unlimited within room with
    ⟨left, equal⟩ | ⟨⟨reason, failed⟩, truncated, -⟩
  · cases answered : (runWrites script.writes console).1 with
    | none =>
        rw [answered] at equal
        rw [perform_of_taken setup answered, perform_of_taken setup (congrArg Prod.fst equal),
          equal]
        cases script.ending with
        | error error => exact cuts_fail playedUnlimited playedWithin left setup error
        | ok code => exact .same left rfl
    | some reason =>
        rw [answered] at equal
        rw [perform_of_refused setup answered,
          perform_of_refused setup (congrArg Prod.fst equal), equal]
        exact cuts_fail playedUnlimited playedWithin left setup (.output reason)
  · rw [perform_of_refused setup failed]
    refine .truncated rfl ?_
    cases answered : (runWrites script.writes console).1 with
    | none =>
        rw [perform_of_taken setup answered]
        cases script.ending with
        | error error => exact truncated.runWrites playedWithin _ _
        | ok code => exact truncated.runWrites playedWithin [] _
    | some reason =>
        rw [perform_of_refused setup answered]
        exact truncated.runWrites playedWithin _ _

end

omit [Pattern.Compiler] in
theorem faults_limited (console : Console) (channel : Channel) (limit : Nat) :
    (console.limited channel limit).out.faults = console.out.faults := by
  cases channel <;> rfl

theorem Cuts.flushAfter {channel : Channel} {limit : Nat} {whole cut : ExitCode × Console}
    (cuts : Cuts channel limit whole cut) (unlimited : (whole.2.sink channel).limit = none)
    (within : whole.2.WithinLimits) (sameFlush : cut.2.out.flushFails = whole.2.out.flushFails)
    (setup : Setup) (answer : Answer) :
    Cuts channel limit (flushAfter setup answer whole) (flushAfter setup answer cut) := by
  rw [App.flushAfter, App.flushAfter]
  split
  · rw [flush, flush, sameFlush]
    split
    · cases cuts with
      | same room equal =>
          rw [equal, faults_limited]
          exact cuts_fail unlimited within room setup _
      | truncated failed truncated => exact .truncated rfl (truncated.runWrites within _ _)
    · exact cuts
  · exact cuts

/-- A limit on one sink changes nothing in a run, or the run fails with that sink full. -/
theorem cuts_run [Gherkin.Parser] [Interpreter] {channel : Channel} {limit : Nat}
    {console : Console} (unlimited : (console.sink channel).limit = none)
    (within : console.WithinLimits) (room : (console.sink channel).accepted.length ≤ limit)
    (setup : Setup) (files : Files) (arguments : List Text) :
    Cuts channel limit (run setup files arguments console)
      (run setup files arguments (console.limited channel limit)) := by
  rw [run_eq_perform, run_eq_perform]
  refine (cuts_perform unlimited within room setup _).flushAfter
    ((limit_perform ..).trans unlimited) (withinLimits_perform _ _ within) ?_ setup _
  rw [flushFails_perform, flushFails_perform]
  cases channel <;> rfl

end

end Scenarist.App
