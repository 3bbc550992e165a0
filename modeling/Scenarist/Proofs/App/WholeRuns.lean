import Scenarist.Proofs.App.Reports
import Scenarist.Proofs.Attempts
import Scenarist.Proofs.Robot.ShortName
import Scenarist.Proofs.Text.Lines

/-! # Runs whose sinks take everything

Where no sink ever fails, a run leaves in each of them all that its events bring
about: the texts in the output, the reports of the errors in the other. So what
a command does with files that are missing or cannot be read is told by its
events. -/

namespace Scenarist.App

open Attempts CommandLine Text

/-! ## Writes to unlimited sinks -/

/-- What is written to one of the sinks. -/
def bytesTo (channel : Channel) (writes : List Write) : List UInt8 :=
  bytesOf (writes.filter fun write => write.channel = channel)

theorem bytesTo_cons (channel : Channel) (write : Write) (rest : List Write) :
    bytesTo channel (write :: rest) =
      (if write.channel = channel then encode write.text else []) ++ bytesTo channel rest := by
  rw [bytesTo, bytesTo, List.filter_cons]
  by_cases same : write.channel = channel
  · rw [if_pos same, if_pos (decide_eq_true same)]
    rfl
  · rw [if_neg same, if_neg (mt of_decide_eq_true same)]
    rfl

theorem bytesTo_append (channel : Channel) (first second : List Write) :
    bytesTo channel (first ++ second) = bytesTo channel first ++ bytesTo channel second := by
  rw [bytesTo, List.filter_append, bytesOf_append, bytesTo, bytesTo]

theorem bytesTo_of_directed {channel : Channel} {writes : List Write}
    (directed : ∀ write ∈ writes, write.channel = channel) :
    bytesTo channel writes = bytesOf writes := by
  rw [bytesTo, List.filter_eq_self.mpr]
  intro write member
  exact decide_eq_true (directed write member)

theorem bytesTo_of_ne {channel other : Channel} (different : other ≠ channel)
    {writes : List Write} (directed : ∀ write ∈ writes, write.channel = channel) :
    bytesTo other writes = [] := by
  rw [bytesTo, List.filter_eq_nil_iff.mpr]
  · rfl
  · intro write member
    rw [directed write member, decide_eq_true_eq]
    exact Ne.symm different

theorem runWrites_of_unlimited (writes : List Write) {console : Console}
    (unlimited : ∀ channel, (console.sink channel).limit = none) :
    (runWrites writes console).1 = none ∧ ∀ channel,
      (runWrites writes console).2.sink channel =
        (console.sink channel).append (bytesTo channel writes) := by
  induction writes generalizing console with
  | nil =>
      refine ⟨rfl, fun channel => ?_⟩
      have fits := Sink.accepts_of_unlimited (unlimited channel) (bytesTo channel [])
      rw [Sink.append_of_accepts fits]
      simp [bytesTo, bytesOf, runWrites]
  | cons write rest induction =>
      have nextUnlimited := fun channel =>
        (write.limit_run console channel).trans (unlimited channel)
      have fits := Sink.accepts_of_unlimited (unlimited write.channel) (encode write.text)
      rcases induction nextUnlimited with ⟨taken, written⟩
      rw [runWrites_cons_of_accepts fits]
      refine ⟨taken, fun channel => ?_⟩
      rw [written, Write.sink_run, bytesTo_cons]
      split
      · next same =>
          subst same
          rw [if_pos rfl, Sink.append_append fits]
      · next different =>
          rw [if_neg (Ne.symm different), List.nil_append]

/-! ## What events leave -/

def Event.text : Event → Text
  | .output text => text
  | .failure _ => []

def outputOf (events : List Event) : Text :=
  events.flatMap Event.text

theorem outputOf_append (first second : List Event) :
    outputOf (first ++ second) = outputOf first ++ outputOf second :=
  List.flatMap_append

theorem outputOf_map_line {α : Type} (text : α → Text) (items : List α) :
    outputOf (items.map fun item => .line (text item)) = unlines (items.map text) := by
  rw [outputOf, List.flatMap_map, unlines, List.flatMap_map]
  rfl

section

variable [Pattern.Compiler] {setup : Setup}

theorem bytesTo_out_events (events : List Event) :
    bytesTo .out (events.flatMap (Event.writes setup)) = encode (outputOf events) := by
  induction events with
  | nil => rfl
  | cons event events induction =>
      rw [List.flatMap_cons, bytesTo_append, induction]
      cases event with
      | output text =>
          have written : bytesTo .out (Event.writes setup (.output text)) = encode text :=
            List.append_nil _
          rw [written, ← encode_append]
          rfl
      | failure error =>
          have different : Channel.out ≠ .err := by decide
          rw [Event.writes, bytesTo_of_ne different (channel_of_mem_diagnosis setup error)]
          rfl

theorem bytesTo_err_events (events : List Event) :
    bytesTo .err (events.flatMap (Event.writes setup)) =
      bytesOf ((errorsOf events).flatMap setup.diagnosis) := by
  induction events with
  | nil => rfl
  | cons event events induction =>
      rw [List.flatMap_cons, bytesTo_append, induction]
      cases event with
      | output text => rfl
      | failure error =>
          rw [Event.writes, bytesTo_of_directed (channel_of_mem_diagnosis setup error),
            ← bytesOf_append]
          rfl

/-- Performed on fresh sinks, a script leaves the texts and the reports of its events. -/
theorem perform_fresh {script : Script} {events : List Event}
    (enacts : Enacts setup script events) :
    perform setup script {} =
      (if (errorsOf events).isEmpty then .success else .failure,
        { out := { accepted := encode (outputOf events) }
          err := { accepted := bytesOf (report setup (errorsOf events)) } }) := by
  have unlimited : ∀ channel, (Console.sink {} channel).limit = none := by
    intro channel
    cases channel <;> rfl
  have closing := channel_of_mem_usageAfter setup (errorsOf events)
  rcases runWrites_of_unlimited (script.writes ++ script.closing setup) unlimited with
    ⟨taken, written⟩
  rw [perform_eq_closing rfl, taken, enacts.code]
  refine Prod.ext rfl (Console.ext_sink fun channel => (written channel).trans ?_)
  rw [enacts.writes, bytesTo_append]
  cases channel with
  | out =>
      have different : Channel.out ≠ .err := by decide
      rw [bytesTo_out_events, bytesTo_of_ne different closing, List.append_nil]
      rfl
  | err =>
      rw [bytesTo_err_events, bytesTo_of_directed closing, ← bytesOf_append]
      rfl

end

/-- With fresh sinks, a run leaves the texts and the reports of its events. -/
theorem run_fresh [Gherkin.Parser] [Pattern.Compiler] [Interpreter] (setup : Setup)
    {files : Files} {arguments : List Text} {events : List Event}
    (isEvents : answerEvents files (Interpreter.answer arguments) = events) :
    run setup files arguments {} =
      (if (errorsOf events).isEmpty then .success else .failure,
        { out := { accepted := encode (outputOf events) }
          err := { accepted := bytesOf (report setup (errorsOf events)) } }) := by
  have enacts := enacts_answer setup files (Interpreter.answer arguments)
  rw [isEvents] at enacts
  rw [run_eq_perform, perform_fresh enacts, flushAfter]
  split
  · rfl
  · rfl

/-! ## Files that cannot be read -/

/-- The files that can be read, each with its text. -/
def readable (files : Files) (named : List Text) : List (Text × Text) :=
  named.filterMap fun file => (files.read file).toOption.map (Prod.mk file)

/-- The errors of the files that cannot be read. -/
def unreadable (files : Files) (named : List Text) : List Error :=
  named.filterMap fun file =>
    (failure? (files.read file)).map fun fault => .unreadable file fault.message

/-- What the extract command makes of one file that it can read. -/
def sourceText (options : ExtractOptions) (source : Text × Text) : Text :=
  unlines ((if options.files.length > 1 then [banner source.1] else []) ++
    (extract options.markers source.1 source.2).excerpts.map (excerptText options))

theorem readable_eq_flatMap (files : Files) (named : List Text) :
    readable files named =
      named.flatMap fun file => ((files.read file).toOption.map (Prod.mk file)).toList :=
  List.filterMap_eq_flatMap_toList ..

section

variable (files : Files) (options : ExtractOptions)

theorem outputOf_fileEvents (file : Text) :
    outputOf (fileEvents files options file) =
      ((files.read file).toOption.map (Prod.mk file)).toList.flatMap (sourceText options) := by
  rw [fileEvents, extractFile]
  cases files.read file with
  | error fault => rfl
  | ok source =>
      have single : [(file, source)].flatMap (sourceText options) =
          sourceText options (file, source) := List.append_nil _
      change outputOf ((if _ then _ else _) ++ _) = [(file, source)].flatMap (sourceText options)
      rw [outputOf_append, outputOf_map_line, single, sourceText, unlines_append]
      congr 1
      split
      · exact outputOf_map_line banner [file]
      · rfl

theorem errorsOf_fileEvents (file : Text) :
    errorsOf (fileEvents files options file) =
      ((failure? (files.read file)).map fun fault => .unreadable file fault.message).toList := by
  cases reads : files.read file with
  | error fault =>
      rw [fileEvents, extractFile, reads]
      rfl
  | ok source =>
      have isReadable : isReadable files file = true := by
        rw [isReadable, reads]
        rfl
      exact (errorsOf_fileEvents_eq_nil_iff files options file).mpr isReadable

/-- Each file that can be read is extracted, whatever stands around it. -/
theorem outputOf_flatMap_fileEvents (named : List Text) :
    outputOf (named.flatMap (fileEvents files options)) =
      (readable files named).flatMap (sourceText options) := by
  rw [outputOf, List.flatMap_assoc, readable_eq_flatMap, List.flatMap_assoc]
  exact List.flatMap_congr fun file _ => outputOf_fileEvents files options file

/-- Each file that cannot be read is an error, whatever stands around it. -/
theorem errorsOf_flatMap_fileEvents (named : List Text) :
    errorsOf (named.flatMap (fileEvents files options)) = unreadable files named := by
  rw [errorsOf, List.filterMap_flatMap, unreadable, List.filterMap_eq_flatMap_toList]
  exact List.flatMap_congr fun file _ => errorsOf_fileEvents files options file

theorem unreadable_eq_nil_iff (named : List Text) :
    unreadable files named = [] ↔ ∀ file ∈ named, ∀ fault, files.read file ≠ .error fault := by
  rw [unreadable, List.filterMap_eq_nil_iff]
  refine forall₂_congr fun file _ => ?_
  cases files.read file with
  | error fault => simp [failure?]
  | ok source => simp [failure?]

end

theorem exitCode_eq_one_iff (errors : List Error) :
    (if errors.isEmpty then ExitCode.success else .failure).number = 1 ↔ errors ≠ [] := by
  cases errors with
  | nil => decide
  | cons error others => exact iff_of_true rfl (List.cons_ne_nil error others)

/-- The extract command writes what it makes of the files that it can read, each under a banner if
more than one file was named, and reports the others. It fails just if there are others. -/
theorem run_extract [Gherkin.Parser] [Pattern.Compiler] [Interpreter] (setup : Setup)
    (files : Files) {arguments : List Text} {options : ExtractOptions}
    (reads : Interpreter.answer arguments = .run (.extract options))
    (inhabited : options.files ≠ []) :
    let result := run setup files arguments {}
    result.2.out.accepted =
        encode ((readable files options.files).flatMap (sourceText options)) ∧
      result.2.err.accepted = bytesOf (report setup (unreadable files options.files)) ∧
      (result.1.number = 1 ↔ ∃ file ∈ options.files, ∃ fault, files.read file = .error fault) := by
  intro result
  have events : answerEvents files (Interpreter.answer arguments) =
      options.files.flatMap (fileEvents files options) := by
    rw [reads]
    exact if_neg (mt List.isEmpty_iff.mp inhabited)
  have ran : result = _ := run_fresh setup events
  rw [errorsOf_flatMap_fileEvents, outputOf_flatMap_fileEvents] at ran
  rw [ran]
  refine ⟨rfl, rfl, ?_⟩
  rw [exitCode_eq_one_iff, Ne, unreadable_eq_nil_iff]
  simp

/-! Two files that hold excerpts, one of them named twice, and two names that lead to nothing that
can be read. -/

def cartLines : List Text :=
  ["// [gherkin]", "// Feature: cart", "// [end]"]

def payLines : List Text :=
  ["// [gherkin]", "// Scenario: pay", "// [end]", "func Test_pay("]

def stockFiles : Files :=
  Files.Snapshot.toFiles
    [("cart.go", { kind := some .file, text := .ok (unlines cartLines) }),
      ("pay.go", { kind := some .file, text := .ok (unlines payLines) }),
      ("shop", { kind := some .directory, text := .error .isADirectory })]

def stockArguments : List Text :=
  ["extract", "--as-features", "owe.go", "cart.go", "shop", "pay.go", "cart.go"]

def stockOptions : ExtractOptions where
  asFeatures := true
  files := ["owe.go", "cart.go", "shop", "pay.go", "cart.go"]

theorem run_extract_stock :
    let result := run {} stockFiles stockArguments {}
    (Interpreter.answer stockArguments = .run (.extract stockOptions) ∧ stockOptions.files ≠ []) ∧
    result.2.out.accepted = encode (unlines
      ["# ==> cart.go <==", "Feature: cart", "",
        "# ==> pay.go <==", "Feature: Test_pay", "", "@file:pay.go", "@test:Test_pay",
        "Scenario: pay", "",
        "# ==> cart.go <==", "Feature: cart", ""]) ∧
    result.2.err.accepted = encode
      ([Error.unreadable "owe.go" ReadFault.notFound.message,
        .unreadable "shop" ReadFault.isADirectory.message].flatMap diagnostic ++
          usageBlock programUsage) ∧
    result.1.number = 1 := by
  intro result
  have reads : Interpreter.answer stockArguments = .run (.extract stockOptions) := by decide +kernel
  have inhabited : stockOptions.files ≠ [] := List.cons_ne_nil _ _
  rcases run_extract {} stockFiles reads inhabited with ⟨written, reported, fails⟩
  refine ⟨⟨reads, inhabited⟩, written.trans ?_, reported.trans ?_, fails.mpr ?_⟩
  · exact congrArg encode (by decide +kernel)
  · have failures : unreadable stockFiles stockOptions.files =
        [.unreadable "owe.go" ReadFault.notFound.message,
          .unreadable "shop" ReadFault.isADirectory.message] := by decide
    rw [failures, bytesOf_report, reportText_of_ne_nil _ (List.cons_ne_nil _ _)]
  · exact ⟨"owe.go", List.mem_cons_self, .notFound, rfl⟩

/-! ## Paths that are missing -/

theorem outputOf_map_failure {α : Type} (error : α → Error) (items : List α) :
    outputOf (items.map fun item => .failure (error item)) = [] := by
  rw [outputOf, List.flatMap_map]
  exact List.flatMap_eq_nil_iff.mpr fun item _ => rfl

/-- The arguments are those of a render command whose tag expression and pattern are valid. -/
structure AsksRender [Pattern.Compiler] [Interpreter] (arguments : List Text)
    (options : RenderOptions) : Prop where
  reads : Interpreter.answer arguments = .run (.render options)
  hasFilter : ∃ filter, filterOf options.tags = .ok filter
  hasPattern : ∃ pattern, patternOf options.shortNamePattern = .ok pattern

section

variable [Pattern.Compiler]

theorem report_of_ne_nil (setup : Setup) {errors : List Error} (some_error : errors ≠ []) :
    report setup errors = errors.flatMap setup.diagnosis ++ setup.usageLines := by
  rw [report, usageAfter, if_neg (mt List.isEmpty_iff.mp some_error)]

variable [Gherkin.Parser] [Interpreter]

theorem AsksRender.answerEvents_of_missing {arguments : List Text} {options : RenderOptions}
    (asks : AsksRender arguments options) {files : Files}
    (some_missing : missingPaths files options ≠ []) :
    answerEvents files (Interpreter.answer arguments) =
      (missingPaths files options).map fun path => .failure (.missing path) := by
  rcases asks with ⟨reads, ⟨filter, isFilter⟩, ⟨pattern, isPattern⟩⟩
  have renders : answerEvents files (.run (.render options)) = renderEvents files options := rfl
  rw [reads, renders, renderEvents, isFilter, isPattern]
  exact if_neg (mt List.isEmpty_iff.mp some_missing)

variable (setup : Setup) {files : Files} {arguments : List Text} {options : RenderOptions}
  (asks : AsksRender arguments options)

include asks

theorem run_of_missingPaths (some_missing : missingPaths files options ≠ []) :
    run setup files arguments {} = (.failure, { err := {
      accepted := bytesOf (report setup ((missingPaths files options).map Error.missing)) } }) := by
  have some_error : ((missingPaths files options).map Error.missing).isEmpty = false :=
    List.isEmpty_eq_false_iff.mpr (mt List.map_eq_nil_iff.mp some_missing)
  rw [run_fresh setup (asks.answerEvents_of_missing some_missing), errorsOf_map_failure,
    outputOf_map_failure, some_error]
  rfl

/-- A render command that misses a path reports all the paths that it misses, each as often as it
was named, and does nothing else. Nothing depends on what the other paths lead to. -/
theorem run_missing
    (misses : ∃ path ∈ options.featurePaths ++ options.embedded, files.kind path = none) :
    let asked := options.featurePaths ++ options.embedded
    let missing := asked.filter fun path => files.kind path = none
    let reports := missing.flatMap fun path => setup.diagnosis (.missing path)
    run setup files arguments {} =
        (.failure, { err := { accepted := bytesOf (reports ++ setup.usageLines) } }) ∧
      ∀ others : Files, (∀ path ∈ asked, others.isPresent path = files.isPresent path) →
        run setup others arguments {} = run setup files arguments {} := by
  intro asked missing reports
  have found : missingPaths files options = missing := by
    apply List.filter_congr
    intro path _
    rw [Files.isPresent]
    cases files.kind path <;> rfl
  have some_missing : missing ≠ [] := by
    rcases misses with ⟨path, isAsked, absent⟩
    exact List.ne_nil_of_mem (List.mem_filter.mpr ⟨isAsked, decide_eq_true absent⟩)
  have ran := run_of_missingPaths setup asks (found ▸ some_missing)
  constructor
  · rw [ran, found, report_of_ne_nil setup (mt List.map_eq_nil_iff.mp some_missing),
      List.flatMap_map]
  · intro others same
    have foundAlike : missingPaths others options = missingPaths files options := by
      apply List.filter_congr
      intro path isAsked
      rw [same path isAsked]
    have alike := foundAlike.trans found
    rw [ran, run_of_missingPaths setup asks (alike ▸ some_missing), foundAlike]

end

theorem patternOf_defaultPatternText :
    patternOf Robot.defaultPatternText = .ok Robot.defaultPattern := by
  have compiled : Pattern.Compiler.compile Robot.defaultPatternText = some Robot.defaultPattern :=
    Robot.ofText_defaultPatternText
  rw [patternOf, compiled]

/-! A path that is missing and named twice, beside a directory and a source that are there. -/

def lossArguments : List Text :=
  ["render", "--tags", "~@slow", "-f", "owe.feature,shop,owe.feature", "-e", "pay.go,lost.go"]

def lossOptions : RenderOptions where
  features := ["owe.feature", "shop", "owe.feature"]
  embedded := ["pay.go", "lost.go"]
  tags := "~@slow"

theorem run_missing_loss :
    let errors : List Error := [.missing "owe.feature", .missing "owe.feature", .missing "lost.go"]
    (AsksRender lossArguments lossOptions ∧ stockFiles.kind "owe.feature" = none) ∧
    run {} stockFiles lossArguments {} = (.failure, { err := {
      accepted := encode (errors.flatMap diagnostic ++ usageBlock programUsage) } }) := by
  intro errors
  have asks : AsksRender lossArguments lossOptions := by
    constructor
    · decide +kernel
    · exact ⟨_, rfl⟩
    · exact ⟨Robot.defaultPattern, patternOf_defaultPatternText⟩
  have absent : stockFiles.kind "owe.feature" = none := rfl
  refine ⟨⟨asks, absent⟩, ?_⟩
  have misses : ∃ path ∈ lossOptions.featurePaths ++ lossOptions.embedded,
      stockFiles.kind path = none := ⟨"owe.feature", List.mem_cons_self, absent⟩
  have missing : (lossOptions.featurePaths ++ lossOptions.embedded).filter
      (fun path => stockFiles.kind path = none) = ["owe.feature", "owe.feature", "lost.go"] := by
    decide +kernel
  have reported := bytesOf_report programUsage errors
  rw [reportText_of_ne_nil _ (List.cons_ne_nil _ _)] at reported
  rw [(run_missing {} asks misses).1, missing]
  exact congrArg (fun bytes => (ExitCode.failure, ({ err := { accepted := bytes } } : Console)))
    reported

end Scenarist.App
