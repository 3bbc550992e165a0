import Scenarist.Files.Snapshot
import Scenarist.Proofs.App.Performance

/-! # What a run reports

Every error that occurs in a run is reported, in order, and the usage follows.
So a run fails just if it reports anything. A flush is reported on its own:
where it fails after a command that has failed, the usage comes twice. -/

namespace Scenarist.App

open CommandLine

/-! ## The errors that occur -/

/-- The errors that occur as events come about. A text that the sink refuses is the last error. -/
def occurring : List Event → Sink → List Error
  | [], _ => []
  | .failure error :: rest, out => error :: occurring rest out
  | .output text :: rest, out =>
    if out.accepts (encode text) then occurring rest (out.append (encode text))
    else [.output out.faults.full]

def flushErrors (answer : Answer) (out : Sink) : List Error :=
  if isCommand answer && out.flushFails then [.output out.faults.flush] else []

section

variable [Gherkin.Parser] [Pattern.Compiler]

def answerErrors (files : Files) (answer : Answer) (out : Sink) : List Error :=
  occurring (answerEvents files answer) out

/-- All errors that occur in a run, in their order. -/
def runErrors [Interpreter] (files : Files) (arguments : List Text) (out : Sink) : List Error :=
  answerErrors files (Interpreter.answer arguments) out ++
    flushErrors (Interpreter.answer arguments) out

end

/-! ## Their reports -/

theorem bytesOf_append (first second : List Write) :
    bytesOf (first ++ second) = bytesOf first ++ bytesOf second :=
  List.flatMap_append

/-- Where diagnostics are not limited, all of them are taken. -/
theorem runWrites_err {writes : List Write} {console : Console}
    (unlimited : console.err.limit = none) (directed : ∀ write ∈ writes, write.channel = .err) :
    runWrites writes console =
      (none, { console with err := console.err.append (bytesOf writes) }) :=
  runWrites_of_accepts directed (Sink.accepts_of_unlimited unlimited _)

theorem accepted_append_of_unlimited {sink : Sink} (unlimited : sink.limit = none)
    (bytes : List UInt8) : (sink.append bytes).accepted = sink.accepted ++ bytes := by
  rw [Sink.append_of_accepts (Sink.accepts_of_unlimited unlimited bytes)]

theorem channel_of_mem_usageAfter (setup : Setup) (errors : List Error) :
    ∀ write ∈ usageAfter setup errors, write.channel = .err := by
  intro write member
  rw [usageAfter] at member
  split at member
  · cases member
  · exact channel_of_mem_usageLines setup write member

section

variable [Pattern.Compiler]

/-- The diagnostics of errors, and the usage if there are any. -/
def report (setup : Setup) (errors : List Error) : List Write :=
  errors.flatMap setup.diagnosis ++ usageAfter setup errors

theorem flatMap_diagnosis_append_report (setup : Setup) (earlier : List Error) (last : Error) :
    earlier.flatMap setup.diagnosis ++ report setup [last] = report setup (earlier ++ [last]) := by
  have some_error : (earlier ++ [last]).isEmpty = false :=
    List.isEmpty_eq_false_iff.mpr (List.append_ne_nil_of_right_ne_nil _ (List.cons_ne_nil _ _))
  rw [report, report, usageAfter, usageAfter, some_error, List.flatMap_append, List.append_assoc]
  rfl

theorem channel_of_mem_closing (setup : Setup) (script : Script) :
    ∀ write ∈ script.closing setup, write.channel = .err := by
  intro write member
  rw [Script.closing] at member
  split at member
  · cases member
  · exact channel_of_mem_report setup _ write member

theorem err_fail {console : Console} (unlimited : console.err.limit = none) (setup : Setup)
    (error : Error) :
    (setup.fail error console).err.accepted =
      console.err.accepted ++ bytesOf (report setup [error]) := by
  rw [Setup.fail, runWrites_err unlimited (channel_of_mem_report setup error),
    accepted_append_of_unlimited unlimited, report, List.flatMap_singleton]
  rfl

/-- The reports that end a script may count among its writes. -/
theorem perform_eq_closing {console : Console} (unlimited : console.err.limit = none)
    (setup : Setup) (script : Script) :
    perform setup script console =
      match (runWrites (script.writes ++ script.closing setup) console).1 with
      | none => (script.code, (runWrites (script.writes ++ script.closing setup) console).2)
      | some reason => (.failure, setup.fail (.output reason)
          (runWrites (script.writes ++ script.closing setup) console).2) := by
  have playedUnlimited := (limit_runWrites script.writes console .err).trans unlimited
  have closes : (runWrites (script.closing setup) (runWrites script.writes console).2).1 = none :=
    congrArg Prod.fst (runWrites_err playedUnlimited (channel_of_mem_closing setup script))
  rw [runWrites_append]
  cases answered : (runWrites script.writes console).1 with
  | some reason =>
      rw [perform_of_refused setup answered, if_neg (Option.some_ne_none reason), answered]
  | none =>
      rw [perform_of_taken setup answered, if_pos rfl, closes, Script.code]
      rw [Script.closing]
      cases script.ending <;> rfl

/-! ## Events and their reports -/

/-- Either all events come about, and their errors have been reported, or a text was refused, and
the errors before it have been reported. -/
theorem runWrites_events {console : Console} (unlimited : console.err.limit = none)
    (setup : Setup) (events : List Event) {closing : List Write}
    (directed : ∀ write ∈ closing, write.channel = .err) :
    let written := runWrites (events.flatMap (Event.writes setup) ++ closing) console
    (written.1 = none ∧ occurring events console.out = errorsOf events ∧
      written.2.err.accepted = console.err.accepted ++
        bytesOf ((errorsOf events).flatMap setup.diagnosis ++ closing)) ∨
    (∃ reason earlier, written.1 = some reason ∧
      occurring events console.out = earlier ++ [.output reason] ∧
      written.2.err.accepted =
        console.err.accepted ++ bytesOf (earlier.flatMap setup.diagnosis)) := by
  induction events generalizing console with
  | nil =>
      rw [List.flatMap_nil, List.nil_append, runWrites_err unlimited directed]
      exact .inl ⟨rfl, rfl, accepted_append_of_unlimited unlimited _⟩
  | cons event rest induction =>
      rw [List.flatMap_cons, List.append_assoc]
      cases event with
      | failure error =>
          have reported := runWrites_err unlimited (channel_of_mem_diagnosis setup error)
          have accepted := accepted_append_of_unlimited unlimited (bytesOf (setup.diagnosis error))
          have nextUnlimited :=
            (Sink.limit_append console.err (bytesOf (setup.diagnosis error))).trans unlimited
          rw [Event.writes, runWrites_append, reported, if_pos rfl]
          rcases @induction { console with err := console.err.append _ } nextUnlimited with
            ⟨taken, same, written⟩ | ⟨reason, earlier, refused, same, written⟩
          · refine .inl ⟨taken, congrArg (error :: ·) same, written.trans ?_⟩
            rw [accepted, List.append_assoc, ← bytesOf_append, ← List.append_assoc]
            rfl
          · refine .inr ⟨reason, error :: earlier, refused, congrArg (error :: ·) same,
              written.trans ?_⟩
            rw [accepted, List.append_assoc, ← bytesOf_append]
            rfl
      | output text =>
          have written : Event.writes setup (.output text) = [⟨.out, text⟩] := rfl
          rw [written, List.singleton_append, occurring]
          cases taken : console.out.accepts (encode text) with
          | true =>
              rw [@runWrites_cons_of_accepts ⟨.out, text⟩ console taken]
              exact @induction { console with out := console.out.append _ } unlimited
          | false =>
              rw [@runWrites_cons_of_refuses ⟨.out, text⟩ console taken]
              exact .inr ⟨console.out.faults.full, [], rfl, rfl, (List.append_nil _).symm⟩

/-- A performance reports the errors that occur, and fails just if there are any. -/
theorem perform_reports {console : Console} (unlimited : console.err.limit = none)
    {setup : Setup} {script : Script} {events : List Event}
    (enacts : Enacts setup script events) :
    let errors := occurring events console.out
    (perform setup script console).1 = (if errors.isEmpty then .success else .failure) ∧
      (perform setup script console).2.err.accepted =
        console.err.accepted ++ bytesOf (report setup errors) := by
  intro errors
  rw [perform_eq_closing unlimited, enacts.writes, enacts.code]
  rcases runWrites_events unlimited setup events
    (channel_of_mem_usageAfter setup (errorsOf events)) with
    ⟨taken, same, written⟩ | ⟨reason, earlier, refused, same, written⟩
  · rw [taken, show errors = errorsOf events from same]
    exact ⟨rfl, written⟩
  · have lastUnlimited := (limit_runWrites (events.flatMap (Event.writes setup) ++
      usageAfter setup (errorsOf events)) console .err).trans unlimited
    rw [refused, show errors = earlier ++ [.output reason] from same]
    dsimp only
    rw [err_fail lastUnlimited, written, List.append_assoc, ← bytesOf_append,
      flatMap_diagnosis_append_report]
    exact ⟨by simp, rfl⟩

theorem flushAfter_reports {result : ExitCode × Console} (unlimited : result.2.err.limit = none)
    (setup : Setup) (answer : Answer) :
    let errors := flushErrors answer result.2.out
    (flushAfter setup answer result).1 = (if errors.isEmpty then result.1 else .failure) ∧
      (flushAfter setup answer result).2.err.accepted =
        result.2.err.accepted ++ bytesOf (report setup errors) := by
  intro errors
  rw [flushAfter, flush, show errors = flushErrors answer result.2.out from rfl, flushErrors]
  cases isCommand answer with
  | false => exact ⟨rfl, (List.append_nil _).symm⟩
  | true =>
      cases result.2.out.flushFails with
      | false => exact ⟨rfl, (List.append_nil _).symm⟩
      | true => exact ⟨rfl, err_fail unlimited setup (.output result.2.out.faults.flush)⟩

/-- With diagnostics that are not limited, a run reports the errors of its answer, and then that
of the flush. -/
theorem run_reports [Gherkin.Parser] [Interpreter] (setup : Setup) (files : Files)
    (arguments : List Text) (out : Sink) :
    let answer := Interpreter.answer arguments
    let result := run setup files arguments { out }
    result.1 = (if (runErrors files arguments out).isEmpty then .success else .failure) ∧
      result.2.err.accepted =
        bytesOf (report setup (answerErrors files answer out) ++
          report setup (flushErrors answer out)) := by
  intro answer result
  have unlimited : (Console.err { out }).limit = none := rfl
  have performed := perform_reports unlimited (enacts_answer setup files answer)
  have flushed := flushAfter_reports
    (limit_perform setup (answerScript setup files answer) { out } .err) setup answer
  have sameFlush : flushErrors answer
      (perform setup (answerScript setup files answer) { out }).2.out =
        flushErrors answer out := by
    rw [flushErrors, flushFails_perform, faults_perform, flushErrors]
  rw [sameFlush, performed.1, performed.2] at flushed
  rw [show result = _ from run_eq_perform setup files arguments { out }, bytesOf_append]
  refine ⟨flushed.1.trans ?_, flushed.2⟩
  rw [runErrors, answerErrors]
  cases occurring (answerEvents files answer) out with
  | nil => cases flushErrors answer out <;> rfl
  | cons first rest => cases flushErrors answer out <;> rfl

end

/-! ## Plain reports -/

theorem encode_append (first second : Text) :
    encode (first ++ second) = encode first ++ encode second :=
  List.flatMap_append

theorem encode_flatMap {α : Type} (items : List α) (text : α → Text) :
    encode (items.flatMap text) = items.flatMap fun item => encode (text item) :=
  List.flatMap_assoc

theorem isPrefix_encode {beginning text : Text} (isPrefix : beginning <+: text) :
    encode beginning <+: encode text := by
  rcases isPrefix with ⟨rest, rfl⟩
  exact ⟨encode rest, (encode_append beginning rest).symm⟩

def labelled (label text : Text) : Text :=
  label ++ text ++ ['\n']

/-- An empty line, and the usage. -/
def usageBlock (usage : Usage) : Text :=
  '\n' :: usage.text ++ ['\n']

theorem apply_plain (code text : Text) : ({} : Styles).apply code text = text :=
  rfl

theorem messageLine_plain (usage : Usage) (message : Text) :
    ({ usage } : Setup).messageLine message = ⟨.err, labelled "Error: " message⟩ := by
  rw [Setup.messageLine, Styles.error, apply_plain, Write.errLine, labelled]

theorem causeLine_eq (cause : Text) :
    Setup.causeLine cause = ⟨.err, labelled "  caused by: " cause⟩ := by
  rw [Setup.causeLine, Write.errLine, labelled]

theorem bytesOf_usageLines (usage : Usage) :
    bytesOf ({ usage } : Setup).usageLines = encode (usageBlock usage) := by
  have lines : ({ usage } : Setup).usageLines = [⟨.err, ['\n']⟩, ⟨.err, usage.text ++ ['\n']⟩] := by
    rw [Setup.usageLines, Styles.bold, apply_plain, Write.errLine, Write.errLine, List.nil_append]
  rw [lines, bytesOf, List.flatMap_cons, List.flatMap_singleton, ← encode_append, usageBlock]
  rfl

section

variable [Pattern.Compiler]

/-- The lines of a diagnostic: the message of the error, then those of its causes. -/
def diagnostic (error : Error) : Text :=
  labelled "Error: " error.message ++ error.causes.flatMap (labelled "  caused by: ")

def reportText (usage : Usage) (errors : List Error) : Text :=
  if errors.isEmpty then [] else errors.flatMap diagnostic ++ usageBlock usage

variable (usage : Usage)

theorem bytesOf_diagnosis (error : Error) :
    bytesOf (({ usage } : Setup).diagnosis error) = encode (diagnostic error) := by
  rw [bytesOf, Setup.diagnosis, List.flatMap_cons, List.flatMap_map, messageLine_plain,
    diagnostic, encode_append, encode_flatMap]
  simp only [causeLine_eq]

theorem reportText_of_ne_nil {errors : List Error} (some_error : errors ≠ []) :
    reportText usage errors = errors.flatMap diagnostic ++ usageBlock usage := by
  rw [reportText, if_neg (mt List.isEmpty_iff.mp some_error)]

theorem bytesOf_report (errors : List Error) :
    bytesOf (report { usage } errors) = encode (reportText usage errors) := by
  rw [report, usageAfter, reportText]
  cases errors with
  | nil => rfl
  | cons first rest =>
      rw [List.isEmpty_cons, if_neg Bool.false_ne_true, if_neg Bool.false_ne_true, bytesOf_append,
        bytesOf_usageLines, bytesOf, List.flatMap_assoc, encode_append, encode_flatMap]
      exact congrArg (List.flatMap · (first :: rest) ++ encode (usageBlock usage))
        (funext (bytesOf_diagnosis usage))

end

section

variable [Gherkin.Parser] [Pattern.Compiler] [Interpreter] (usage : Usage) (files : Files)
  (arguments : List Text) (out : Sink)

/-- In plain style the reports of a run are these texts. -/
theorem err_run :
    (run { usage } files arguments { out }).2.err.accepted =
      encode (reportText usage (answerErrors files (Interpreter.answer arguments) out) ++
        reportText usage (flushErrors (Interpreter.answer arguments) out)) := by
  rw [(run_reports { usage } files arguments out).2, bytesOf_append, bytesOf_report, bytesOf_report,
    encode_append]

/-- The reports begin with the message of the first error. -/
theorem isPrefix_err_run {first : Error} {rest : List Error}
    (errors : runErrors files arguments out = first :: rest) :
    encode (labelled "Error: " first.message) <+:
      (run { usage } files arguments { out }).2.err.accepted := by
  have begins (others : List Error) :
      labelled "Error: " first.message <+: reportText usage (first :: others) := by
    rw [reportText, List.isEmpty_cons, if_neg Bool.false_ne_true, List.flatMap_cons, diagnostic,
      List.append_assoc, List.append_assoc]
    exact List.prefix_append ..
  rw [err_run]
  refine isPrefix_encode ?_
  rw [runErrors] at errors
  cases met : answerErrors files (Interpreter.answer arguments) out with
  | nil =>
      rw [met, List.nil_append] at errors
      rw [errors]
      exact begins rest
  | cons one others =>
      rw [met, List.cons_append, List.cons.injEq] at errors
      rw [errors.1]
      exact List.prefix_append_of_prefix (begins others)

/-- A run fails just if it reports something, and it begins with the first error. -/
theorem exitCode_iff_reported (out : Sink) :
    let result := run { usage } files arguments { out }
    (result.1.number = 0 ∨ result.1.number = 1) ∧
      (result.1.number = 0 ↔ result.2.err.accepted = []) ∧
      (result.1.number = 1 → ∃ first message,
        (runErrors files arguments out).head? = some first ∧ first.chain.head? = some message ∧
          encode (("Error: " : Text) ++ message) <+: result.2.err.accepted) := by
  intro result
  have code := (run_reports { usage } files arguments out).1
  cases errors : runErrors files arguments out with
  | nil =>
      have silent : result.2.err.accepted = [] := by
        rcases List.append_eq_nil_iff.mp errors with ⟨met, flushed⟩
        rw [err_run, met, flushed]
        rfl
      rw [errors] at code
      rw [show result.1 = .success from code]
      exact ⟨.inl rfl, iff_of_true rfl silent, fun failed => by cases failed⟩
  | cons first rest =>
      have begins := isPrefix_err_run usage files arguments out errors
      rw [labelled, encode_append] at begins
      have reported := (List.prefix_append ..).trans begins
      have spoken : result.2.err.accepted ≠ [] := by
        intro silent
        rw [show (run _ _ _ _).2.err.accepted = [] from silent, encode_append] at reported
        have noLabel := (List.append_eq_nil_iff.mp (List.prefix_nil.mp reported)).1
        exact absurd noLabel (by decide)
      rw [errors] at code
      rw [show result.1 = .failure from code]
      exact ⟨.inr rfl, iff_of_false (by decide) spoken, fun _ => ⟨first, _, rfl, rfl, reported⟩⟩

/-- The reports of a run that fails end with the usage, which comes once, or, where the flush fails
after other errors, once behind those and once behind the error of the flush. -/
theorem usage_closes_reports
    (failed : (run { usage } files arguments { out }).1.number = 1) :
    let met := answerErrors files (Interpreter.answer arguments) out
    let flushed := flushErrors (Interpreter.answer arguments) out
    let err := (run { usage } files arguments { out }).2.err.accepted
    runErrors files arguments out ≠ [] ∧
      (met = [] ∨ flushed = [] →
        err = encode ((runErrors files arguments out).flatMap diagnostic ++ usageBlock usage)) ∧
      (met ≠ [] → flushed ≠ [] →
        err = encode (met.flatMap diagnostic ++ usageBlock usage ++
          (flushed.flatMap diagnostic ++ usageBlock usage))) := by
  intro met flushed err
  have some_error : met ++ flushed ≠ [] := by
    intro noErrors
    rw [(run_reports { usage } files arguments out).1, runErrors,
      show answerErrors _ _ _ ++ flushErrors _ _ = [] from noErrors] at failed
    cases failed
  refine ⟨some_error, ?_, ?_⟩
  · intro once
    rw [show err = _ from err_run usage files arguments out, runErrors]
    rcases once with noMet | noFlushed
    · rw [noMet, List.nil_append] at some_error
      rw [show answerErrors _ _ _ = [] from noMet, reportText_of_ne_nil usage some_error]
      rfl
    · rw [noFlushed, List.append_nil] at some_error
      rw [show flushErrors _ _ = [] from noFlushed, reportText_of_ne_nil usage some_error,
        List.append_nil]
      exact congrArg encode (List.append_nil _)
  · intro someMet someFlushed
    rw [show err = _ from err_run usage files arguments out, reportText_of_ne_nil usage someMet,
      reportText_of_ne_nil usage someFlushed]

end

/-! A source that is not there, and another one whose excerpt does not fit the sink. -/

def cartSource : Text :=
  "// [gherkin]\n// Feature: cart\n// [end]\n"

def cartFiles : Files :=
  Files.Snapshot.toFiles [("cart.go", { kind := some .file, text := .ok cartSource })]

def shortOut : Sink where
  limit := some 30

theorem usage_closes_reports_cart :
    let arguments : List Text := ["extract", "owe.go", "cart.go"]
    let err := (run {} cartFiles arguments { out := shortOut }).2.err.accepted
    let errors := [.unreadable "owe.go" ReadFault.notFound.message, .output "sink is full"]
    (run {} cartFiles arguments { out := shortOut }).1.number = 1 ∧
      err = encode (errors.flatMap diagnostic ++ usageBlock programUsage) := by
  intro arguments err errors
  have failed : (run {} cartFiles arguments { out := shortOut }).1.number = 1 := by decide +kernel
  have met : runErrors cartFiles arguments shortOut = errors := by decide +kernel
  have once := (usage_closes_reports programUsage cartFiles arguments shortOut failed).2.1
    (.inr rfl)
  rw [met] at once
  exact ⟨failed, once⟩

/-- Where both the command and the flush fail, the usage comes in the middle and at the end. -/
theorem not_usage_once :
    let out : Sink := { flushFails := true }
    let result := run {} (Files.Snapshot.toFiles []) ["extract"] { out }
    result.1.number = 1 ∧
      result.2.err.accepted = encode (diagnostic .noInput ++ usageBlock programUsage ++
        diagnostic (.output "flush failed") ++ usageBlock programUsage) ∧
      ¬∀ [Gherkin.Parser] [Pattern.Compiler] [Interpreter] (usage : Usage) (files : Files)
          (arguments : List Text) (out : Sink),
        (run { usage } files arguments { out }).1.number = 1 →
          (run { usage } files arguments { out }).2.err.accepted =
            encode ((runErrors files arguments out).flatMap diagnostic ++ usageBlock usage) := by
  intro out result
  have failed : result.1.number = 1 := by decide +kernel
  refine ⟨failed, by decide +kernel, ?_⟩
  intro once
  exact absurd (once programUsage (Files.Snapshot.toFiles []) ["extract"] out failed)
    (by decide +kernel)

end Scenarist.App
