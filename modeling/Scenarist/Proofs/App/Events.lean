import Mathlib.Data.List.Basic
import Scenarist.App.Run

/-! # What comes about in a run

The answer to the arguments makes texts for the output and errors, in an order
of its own, before anything is said of how errors are reported. The script of
the answer writes these texts and the reports of these errors, and the usage
behind them. -/

namespace Scenarist.App

open CommandLine

inductive Event where
  | output (text : Text)
  | failure (error : Error)

namespace Event

def line (text : Text) : Event :=
  .output (text ++ ['\n'])

def error? : Event → Option Error
  | .output _ => none
  | .failure error => some error

def writes [Pattern.Compiler] (setup : Setup) : Event → List Write
  | .output text => [⟨.out, text⟩]
  | .failure error => setup.diagnosis error

end Event

def errorsOf (events : List Event) : List Error :=
  events.filterMap Event.error?

/-! ## The events of the extract command -/

def fileEvents (files : Files) (options : ExtractOptions) (file : Text) : List Event :=
  match extractFile files options.markers file with
  | .error error => [.failure error]
  | .ok extraction =>
    (if options.files.length > 1 then [.line (banner file)] else []) ++
      extraction.excerpts.map fun excerpt => .line (excerptText options excerpt)

def extractEvents (files : Files) (options : ExtractOptions) : List Event :=
  if options.files.isEmpty then [.failure .noInput]
  else options.files.flatMap (fileEvents files options)

/-! ## The events of the render command -/

/-! Titles come up to the first that cannot be made. -/

def titleEvents : List (Except Robot.Mismatch Text) → List Event
  | [] => []
  | .error mismatch :: _ => [.failure (.shortName mismatch)]
  | .ok title :: rest => .line title :: titleEvents rest

def outputEvents (pattern : Pattern) (options : RenderOptions)
    (features : List Suite.Feature) : List Event :=
  if options.list then
    titleEvents (Robot.titles pattern features)
  else if options.json then
    features.map fun feature => .line feature.record
  else
    match Robot.render pattern options.variant options.resources features with
    | .error fault => [.failure (.template fault)]
    | .ok text => [.output text]

section

variable [Gherkin.Parser]

def loadedEvents (files : Files) (options : RenderOptions) (filter : Tag.Filter)
    (pattern : Pattern) : List Event :=
  match loadFeatures files options.markers filter options.featurePaths options.embedded with
  | .error error => [.failure error]
  | .ok features => outputEvents pattern options features

variable [Pattern.Compiler]

def renderEvents (files : Files) (options : RenderOptions) : List Event :=
  match filterOf options.tags, patternOf options.shortNamePattern with
  | .error error, _ => [.failure error]
  | .ok _, .error error => [.failure error]
  | .ok filter, .ok pattern =>
    if (missingPaths files options).isEmpty then loadedEvents files options filter pattern
    else (missingPaths files options).map fun path => .failure (.missing path)

/-! ## The events of an answer -/

def commandEvents (files : Files) : Command → List Event
  | .extract options => extractEvents files options
  | .render options => renderEvents files options

def answerEvents (files : Files) : Answer → List Event
  | .display text => [.output text]
  | .noCommand => [.failure noCommandError]
  | .refused rendered => [.failure (.usage (refusalMessage rendered))]
  | .run command => commandEvents files command

/-- The script of an answer. A text that was asked for is all there is to write then. -/
def answerScript (setup : Setup) (files : Files) : Answer → Script
  | .display text => { writes := [⟨.out, text⟩], ending := .ok .success }
  | .noCommand => .failing noCommandError
  | .refused rendered => .failing (.usage (refusalMessage rendered))
  | .run command => commandScript setup files command

end

/-! ## Scripts that carry events out -/

namespace Script

/-- What is reported when all writes were taken. -/
def closing [Pattern.Compiler] (setup : Setup) (script : Script) : List Write :=
  match script.ending with
  | .ok _ => []
  | .error error => setup.diagnosis error ++ setup.usageLines

def code (script : Script) : ExitCode :=
  match script.ending with
  | .ok code => code
  | .error _ => .failure

end Script

/-- The usage, if there is an error that it follows. -/
def usageAfter (setup : Setup) (errors : List Error) : List Write :=
  if errors.isEmpty then [] else setup.usageLines

section

variable [Pattern.Compiler]

/-- A script writes what events bring about, in their order. -/
structure Enacts (setup : Setup) (script : Script) (events : List Event) : Prop where
  writes : script.writes ++ script.closing setup =
    events.flatMap (Event.writes setup) ++ usageAfter setup (errorsOf events)
  code : script.code = if (errorsOf events).isEmpty then .success else .failure

/-- A script that ends well writes nothing but output. -/
theorem Enacts.channel_of_mem {setup : Setup} {script : Script} {events : List Event}
    (enacts : Enacts setup script events) (success : script.code = .success) :
    ∀ write ∈ script.writes, write.channel = .out := by
  have noErrors : (errorsOf events).isEmpty = true := by
    by_contra some_error
    rw [enacts.code, if_neg some_error] at success
    cases success
  intro write member
  have inAll : write ∈ events.flatMap (Event.writes setup) := by
    have inBoth := List.mem_append_left (script.closing setup) member
    rwa [enacts.writes, usageAfter, if_pos noErrors, List.append_nil] at inBoth
  rcases List.mem_flatMap.mp inAll with ⟨event, inEvents, written⟩
  cases event with
  | output text =>
      rcases List.mem_singleton.mp written with rfl
      rfl
  | failure error =>
      have isError : error ∈ errorsOf events := List.mem_filterMap.mpr ⟨_, inEvents, rfl⟩
      rw [List.isEmpty_iff.mp noErrors] at isError
      cases isError

variable (setup : Setup)

theorem enacts_failing (error : Error) : Enacts setup (.failing error) [.failure error] where
  writes := by
    simp [Script.failing, Script.closing, Event.writes, usageAfter, errorsOf, Event.error?]
  code := rfl

theorem Enacts.cons_output {script : Script} {events : List Event}
    (enacts : Enacts setup script events) (text : Text) :
    Enacts setup { script with writes := ⟨.out, text⟩ :: script.writes }
      (.output text :: events) where
  writes := congrArg (List.cons (Write.mk .out text)) enacts.writes
  code := enacts.code

theorem enacts_outputs {α : Type} (text : α → Text) (items : List α) :
    Enacts setup { writes := items.map fun item => ⟨.out, text item⟩, ending := .ok .success }
      (items.map fun item => .output (text item)) := by
  induction items with
  | nil => exact ⟨rfl, rfl⟩
  | cons item rest induction => exact induction.cons_output setup (text item)

/-! ## The extract command -/

theorem fileWrites_eq (files : Files) (options : ExtractOptions) (file : Text) :
    fileWrites setup files options file =
      (fileEvents files options file).flatMap (Event.writes setup) := by
  rw [fileWrites, fileEvents]
  cases extractFile files options.markers file with
  | error error => exact (List.append_nil _).symm
  | ok extraction =>
      dsimp only
      rw [bannerLines, List.flatMap_append, List.flatMap_map, List.map_eq_flatMap]
      split <;> rfl

omit [Pattern.Compiler] in
theorem errorsOf_fileEvents_eq_nil_iff (files : Files) (options : ExtractOptions) (file : Text) :
    errorsOf (fileEvents files options file) = [] ↔ isReadable files file = true := by
  rw [fileEvents, extractFile, isReadable]
  cases files.read file with
  | error fault => simp [errorsOf, Event.error?, Except.isOk, Except.toBool]
  | ok source =>
      refine iff_of_true ?_ rfl
      rw [errorsOf, List.filterMap_append, List.append_eq_nil_iff]
      constructor
      · split <;> rfl
      · simp [List.filterMap_map, Function.comp_def, Event.error?, Event.line]

omit [Pattern.Compiler] in
theorem errorsOf_flatMap_fileEvents_eq_nil_iff (files : Files) (options : ExtractOptions) :
    errorsOf (options.files.flatMap (fileEvents files options)) = [] ↔
      options.files.all (isReadable files) = true := by
  rw [errorsOf, List.filterMap_flatMap, List.flatMap_eq_nil_iff, List.all_eq_true]
  exact forall₂_congr fun file _ => errorsOf_fileEvents_eq_nil_iff files options file

theorem enacts_extract (files : Files) (options : ExtractOptions) :
    Enacts setup (extractScript setup files options) (extractEvents files options) := by
  rw [extractScript, extractEvents]
  split
  · exact enacts_failing setup .noInput
  · have readable := errorsOf_flatMap_fileEvents_eq_nil_iff files options
    simp only [funext (fileWrites_eq setup files options), ← List.flatMap_assoc]
    split
    · next all =>
        have noErrors := readable.mpr all
        exact ⟨by rw [usageAfter, noErrors]; rfl, by rw [noErrors]; rfl⟩
    · next unreadable =>
        have errors := List.isEmpty_eq_false_iff.mpr (mt readable.mp unreadable)
        exact ⟨by rw [usageAfter, errors]; exact List.append_nil _, by rw [errors]; rfl⟩

/-! ## The render command -/

omit [Pattern.Compiler] in
theorem errorsOf_map_failure {α : Type} (error : α → Error) (items : List α) :
    errorsOf (items.map fun item => .failure (error item)) = items.map error := by
  simp [errorsOf, List.filterMap_map, Function.comp_def, Event.error?]

/-- The last missing path is reported as the error that ends the command. -/
theorem enacts_missing {paths : List Text} {last : Text} (isLast : paths.getLast? = some last) :
    Enacts setup (missingScript setup paths last)
      (paths.map fun path => .failure (.missing path)) := by
  have whole : paths.dropLast ++ [last] = paths := List.dropLast_append_getLast? last isLast
  have errors := errorsOf_map_failure Error.missing paths
  have some_error : (paths.map Error.missing).isEmpty = false := by
    rw [← whole, List.map_append]
    exact List.isEmpty_eq_false_iff.mpr (by simp)
  constructor
  · rw [errors, usageAfter, some_error, List.flatMap_map, if_neg Bool.false_ne_true, ← whole]
    simp [missingScript, Script.closing, Event.writes, List.flatMap_append]
  · rw [errors, some_error]
    rfl

theorem enacts_titles (titles : List (Except Robot.Mismatch Text)) :
    Enacts setup (titleScript titles) (titleEvents titles) := by
  induction titles with
  | nil => exact ⟨rfl, rfl⟩
  | cons title rest induction =>
      cases title with
      | error mismatch => exact enacts_failing setup (.shortName mismatch)
      | ok text => exact induction.cons_output setup (text ++ ['\n'])

theorem enacts_output (pattern : Pattern) (options : RenderOptions)
    (features : List Suite.Feature) :
    Enacts setup (outputScript pattern options features)
      (outputEvents pattern options features) := by
  rw [outputScript, outputEvents]
  split
  · exact enacts_titles setup _
  · split
    · exact enacts_outputs setup (fun feature => feature.record ++ ['\n']) features
    · rw [suiteScript]
      cases Robot.render pattern options.variant options.resources features with
      | error fault => exact enacts_failing setup (.template fault)
      | ok text => exact enacts_outputs setup id [text]

variable [Gherkin.Parser]

theorem enacts_loaded (files : Files) (options : RenderOptions) (filter : Tag.Filter)
    (pattern : Pattern) :
    Enacts setup (loadedScript files options filter pattern)
      (loadedEvents files options filter pattern) := by
  rw [loadedScript, loadedEvents]
  cases loadFeatures files options.markers filter options.featurePaths options.embedded with
  | error error => exact enacts_failing setup error
  | ok features => exact enacts_output setup pattern options features

theorem enacts_render (files : Files) (options : RenderOptions) :
    Enacts setup (renderScript setup files options) (renderEvents files options) := by
  rw [renderScript, renderEvents]
  cases filterOf options.tags with
  | error error => exact enacts_failing setup error
  | ok filter =>
      cases patternOf options.shortNamePattern with
      | error error => exact enacts_failing setup error
      | ok pattern =>
          dsimp only
          cases isLast : (missingPaths files options).getLast? with
          | none =>
              rw [List.getLast?_eq_none_iff.mp isLast]
              exact enacts_loaded setup files options filter pattern
          | some last =>
              have missing : (missingPaths files options).isEmpty = false := by
                cases paths : missingPaths files options with
                | nil => simp [paths] at isLast
                | cons path rest => rfl
              rw [missing]
              exact enacts_missing setup isLast

/-! ## Answers -/

theorem enacts_answer (files : Files) (answer : Answer) :
    Enacts setup (answerScript setup files answer) (answerEvents files answer) := by
  cases answer with
  | display text => exact enacts_outputs setup id [text]
  | noCommand => exact enacts_failing setup noCommandError
  | refused rendered => exact enacts_failing setup (.usage (refusalMessage rendered))
  | run command =>
      cases command with
      | extract options => exact enacts_extract setup files options
      | render options => exact enacts_render setup files options

end

end Scenarist.App
