import Scenarist.Proofs.App.Delivery
import Scenarist.Proofs.App.Listing
import Scenarist.Proofs.App.WholeRuns

/-! # Render commands that fail

A render command that fails has written nothing, unless it was listing titles.
A listing writes the titles of the features before the one that is not named,
and only then fails. -/

namespace Scenarist.App

open Attempts CommandLine Robot Text

/-! ## Scripts of the render command -/

/-! A script other than a listing succeeds or writes no output. -/

theorem silent_failing (error : Error) :
    ∀ write ∈ (Script.failing error).writes, write.channel = .err := by
  simp [Script.failing]

theorem silent_missingScript [Pattern.Compiler] (setup : Setup) (missing : List Text)
    (last : Text) :
    ∀ write ∈ (missingScript setup missing last).writes, write.channel = .err := by
  intro write member
  rcases List.mem_flatMap.mp member with ⟨path, -, inDiagnosis⟩
  exact channel_of_mem_diagnosis setup (.missing path) write inDiagnosis

theorem outputScript_cases (pattern : Pattern) (options : RenderOptions)
    (features : List Suite.Feature) :
    options.list = true ∨ (outputScript pattern options features).code = .success ∨
      ∀ write ∈ (outputScript pattern options features).writes, write.channel = .err := by
  rw [outputScript]
  split
  · next list => exact .inl list
  · split
    · exact .inr (.inl rfl)
    · rw [suiteScript]
      cases render pattern options.variant options.resources features with
      | error fault => exact .inr (.inr (silent_failing _))
      | ok text => exact .inr (.inl rfl)

section

variable [Gherkin.Parser] [Pattern.Compiler]

/-- A render command that comes to list the titles of features. -/
structure Lists (files : Files) (options : RenderOptions) (pattern : Pattern)
    (features : List Suite.Feature) : Prop where
  list : options.list = true
  isPattern : patternOf options.shortNamePattern = .ok pattern
  present : missingPaths files options = []
  loads : (filterOf options.tags >>= fun filter =>
    loadFeatures files options.markers filter options.featurePaths options.embedded) = .ok features

theorem Lists.renderScript_eq {files : Files} {options : RenderOptions} {pattern : Pattern}
    {features : List Suite.Feature} (lists : Lists files options pattern features)
    (setup : Setup) :
    renderScript setup files options = titleScript (titles pattern features) := by
  rcases lists with ⟨list, isPattern, present, loads⟩
  rw [renderScript, isPattern]
  cases isFilter : filterOf options.tags with
  | error error =>
      rw [isFilter] at loads
      cases loads
  | ok filter =>
      rw [isFilter] at loads
      change loadFeatures _ _ _ _ _ = _ at loads
      rw [present]
      change loadedScript files options filter pattern = _
      rw [loadedScript, loads]
      exact if_pos list

theorem renderScript_cases (setup : Setup) (files : Files) (options : RenderOptions) :
    (∃ pattern features, Lists files options pattern features) ∨
      (renderScript setup files options).code = .success ∨
      ∀ write ∈ (renderScript setup files options).writes, write.channel = .err := by
  rw [renderScript]
  cases isFilter : filterOf options.tags with
  | error error => exact .inr (.inr (silent_failing error))
  | ok filter =>
      cases isPattern : patternOf options.shortNamePattern with
      | error error => exact .inr (.inr (silent_failing error))
      | ok pattern =>
          cases isLast : (missingPaths files options).getLast? with
          | some last => exact .inr (.inr (silent_missingScript setup _ last))
          | none =>
              dsimp only
              rw [loadedScript]
              cases loads : loadFeatures files options.markers filter options.featurePaths
                options.embedded with
              | error error => exact .inr (.inr (silent_failing error))
              | ok features =>
                  refine (outputScript_cases pattern options features).imp_left fun list => ?_
                  have present := List.getLast?_eq_none_iff.mp isLast
                  refine ⟨pattern, features, list, isPattern, present, ?_⟩
                  rw [isFilter]
                  exact loads

end

/-! ## What a run leaves in its output -/

theorem bytesOf_map_outLine (texts : List Text) :
    bytesOf (texts.map .outLine) = encode (unlines texts) := by
  rw [bytesOf, List.flatMap_map, unlines, encode_flatMap]
  rfl

section

variable [Gherkin.Parser] [Pattern.Compiler] [Interpreter] {setup : Setup} {files : Files}
  {arguments : List Text} {console : Console} {limit : Option Nat} {faults : Faults} {err : Sink}

theorem out_run_of_directed {script : Script}
    (isScript : answerScript setup files (Interpreter.answer arguments) = script)
    (directed : ∀ write ∈ script.writes, write.channel = .out)
    (fits : console.out.accepts (bytesOf script.writes) = true) :
    (run setup files arguments console).2.out = console.out.append (bytesOf script.writes) := by
  rw [out_run, isScript, runWrites_of_accepts directed fits]
  rfl

/-- A sink that takes what a run writes to an unlimited one takes what its script writes. -/
theorem accepts_bytesOf_of_takesAll {script : Script}
    (isScript : answerScript setup files (Interpreter.answer arguments) = script)
    (directed : ∀ write ∈ script.writes, write.channel = .out)
    (takesAll : Sink.accepts { limit, faults }
      (run setup files arguments {}).2.out.accepted = true) :
    ({ limit, faults } : Sink).accepts (bytesOf script.writes) = true := by
  have unlimited : (Console.out {}).accepts (bytesOf script.writes) = true := rfl
  rwa [out_run_of_directed isScript directed unlimited] at takesAll

theorem accepted_run_of_directed {script : Script}
    (isScript : answerScript setup files (Interpreter.answer arguments) = script)
    (directed : ∀ write ∈ script.writes, write.channel = .out)
    (fits : ({ limit, faults } : Sink).accepts (bytesOf script.writes) = true) :
    (run setup files arguments { out := { limit, faults }, err }).2.out.accepted =
      bytesOf script.writes := by
  have written := @out_run_of_directed _ _ _ setup files arguments { out := { limit, faults }, err }
    script isScript directed fits
  rw [written, Sink.append_of_accepts fits]
  rfl

/-- A run fails with a sink that takes all its output just if its script does. -/
theorem code_ne_success_of_failed
    (takesAll : Sink.accepts { limit, faults } (run setup files arguments {}).2.out.accepted = true)
    (failed : (run setup files arguments { out := { limit, faults }, err }).1.number = 1) :
    (answerScript setup files (Interpreter.answer arguments)).code ≠ .success := by
  intro success
  have directed := (enacts_answer setup files (Interpreter.answer arguments)).channel_of_mem success
  have fits := accepts_bytesOf_of_takesAll rfl directed takesAll
  have within := Sink.withinLimit_fresh limit false faults
  have succeeds := (run_eq_success_iff setup files arguments
    { out := { limit, faults }, err } within).mpr ⟨success, fits, fun _ => rfl⟩
  rw [succeeds] at failed
  cases failed

/-- A script that writes to the other sink only leaves the output as it is. -/
theorem out_run_of_silent
    (silent : ∀ write ∈ (answerScript setup files (Interpreter.answer arguments)).writes,
      write.channel = .err) :
    (run setup files arguments console).2.out = console.out := by
  have different : Channel.out ≠ .err := by decide
  rw [out_run]
  exact sink_runWrites_of_ne different silent console

end

/-! ## Listings that fail -/

theorem Lists.unnamed [Gherkin.Parser] [Pattern.Compiler] {files : Files}
    {options : RenderOptions} {pattern : Pattern} {features : List Suite.Feature}
    (lists : Lists files options pattern features) {setup : Setup}
    (fails : (renderScript setup files options).code ≠ .success) :
    ∃ before bad, NamedUpTo pattern features before bad := by
  refine exists_namedUpTo pattern fun named => fails ?_
  rw [lists.renderScript_eq,
    titles_eq_map_ok pattern ((mismatches_eq_nil_iff pattern features).mpr named),
    titleScript_map_ok]
  rfl

theorem writes_titleScript {pattern : Pattern} {features before : List Suite.Feature}
    {bad : Suite.Feature} (upTo : NamedUpTo pattern features before bad) :
    (titleScript (titles pattern features)).writes =
      (titleTexts pattern before).map .outLine := by
  rcases upTo.titles_eq with ⟨rest, titled⟩
  rw [titled, titleScript_append]
  exact List.append_nil _

theorem encode_eq_nil_iff (text : Text) : encode text = [] ↔ text = [] := by
  rw [encode, List.flatMap_eq_nil_iff, List.eq_nil_iff_forall_not_mem]
  exact forall₂_congr fun character _ => iff_false_intro String.utf8EncodeChar_ne_nil

/-- A listing has output just if there is a scenario to list. -/
theorem encode_titleTexts_ne_nil_iff (pattern : Pattern) (features : List Suite.Feature) :
    encode (unlines (titleTexts pattern features)) ≠ [] ↔
      ∃ feature ∈ features, feature.scenarios ≠ [] := by
  have unlined (texts : List Text) : unlines texts = [] ↔ texts = [] := by
    cases texts <;> simp
  rw [Ne, encode_eq_nil_iff, unlined, titleTexts, List.map_eq_nil_iff, scenariosOf,
    List.flatMap_eq_nil_iff]
  simp

section

variable [Gherkin.Parser] [Pattern.Compiler] [Interpreter] {setup : Setup} {files : Files}
  {arguments : List Text} {options : RenderOptions} {limit : Option Nat} {faults : Faults}
  {err : Sink}
  (reads : Interpreter.answer arguments = .run (.render options))
  (takesAll : Sink.accepts { limit, faults } (run setup files arguments {}).2.out.accepted = true)
  (failed : (run setup files arguments { out := { limit, faults }, err }).1.number = 1)

include reads takesAll failed

/-- A listing that fails leaves the titles of the features before the first one that is not
named. -/
theorem accepted_of_lists {pattern : Pattern} {features : List Suite.Feature}
    (lists : Lists files options pattern features) :
    (∃ before bad, NamedUpTo pattern features before bad) ∧
      ∀ before bad, NamedUpTo pattern features before bad →
        (run setup files arguments { out := { limit, faults }, err }).2.out.accepted =
          encode (unlines (titleTexts pattern before)) := by
  have isScript : answerScript setup files (Interpreter.answer arguments) =
      renderScript setup files options := congrArg (answerScript setup files) reads
  refine ⟨lists.unnamed (isScript ▸ code_ne_success_of_failed takesAll failed), ?_⟩
  intro before bad upTo
  have written : (renderScript setup files options).writes =
      (titleTexts pattern before).map .outLine := by
    rw [lists.renderScript_eq, writes_titleScript upTo]
  have directed : ∀ write ∈ (renderScript setup files options).writes, write.channel = .out := by
    rw [written]
    simp [Write.outLine]
  have fits := accepts_bytesOf_of_takesAll isScript directed takesAll
  rw [accepted_run_of_directed isScript directed fits, written, bytesOf_map_outLine]

theorem accepted_of_not_lists
    (other : ¬∃ pattern features, Lists files options pattern features) :
    (run setup files arguments { out := { limit, faults }, err }).2.out.accepted = [] := by
  have isScript : answerScript setup files (Interpreter.answer arguments) =
      renderScript setup files options := congrArg (answerScript setup files) reads
  rcases renderScript_cases setup files options with lists | success | silent
  · exact absurd lists other
  · exact absurd (isScript ▸ success) (code_ne_success_of_failed takesAll failed)
  · rw [out_run_of_silent (isScript ▸ silent)]

/-- A render command that fails has written nothing, unless it lists titles and the first feature
that is not named comes after one with scenarios: then the titles of the features before it are
left in the output. -/
theorem failed_render_output :
    let written := (run setup files arguments { out := { limit, faults }, err }).2.out.accepted
    (written ≠ [] ↔ ∃ pattern features before bad, Lists files options pattern features ∧
      NamedUpTo pattern features before bad ∧ ∃ feature ∈ before, feature.scenarios ≠ []) ∧
    ∀ pattern features before bad, Lists files options pattern features →
      NamedUpTo pattern features before bad →
        written = encode (unlines (titleTexts pattern before)) := by
  intro written
  have left (pattern features before bad) (lists : Lists files options pattern features)
      (upTo : NamedUpTo pattern features before bad) :
      written = encode (unlines (titleTexts pattern before)) :=
    (accepted_of_lists reads takesAll failed lists).2 before bad upTo
  refine ⟨⟨fun some_written => ?_, ?_⟩, left⟩
  · by_cases lists : ∃ pattern features, Lists files options pattern features
    · rcases lists with ⟨pattern, features, lists⟩
      rcases (accepted_of_lists reads takesAll failed lists).1 with ⟨before, bad, upTo⟩
      rw [left pattern features before bad lists upTo,
        encode_titleTexts_ne_nil_iff] at some_written
      exact ⟨pattern, features, before, bad, lists, upTo, some_written⟩
    · exact absurd (accepted_of_not_lists reads takesAll failed lists) some_written
  · rintro ⟨pattern, features, before, bad, lists, upTo, inhabited⟩
    rw [left pattern features before bad lists upTo, encode_titleTexts_ne_nil_iff]
    exact inhabited

end

/-! A feature file, and one whose extension is in upper case, which the pattern does not match. -/

def stallFiles : Files :=
  Files.Snapshot.toFiles [
    ("pay.feature",
      { kind := some .file, text := .ok "Feature: pay\n  Scenario: pay by card\n" }),
    ("refund.FEATURE",
      { kind := some .file, text := .ok "Feature: refund\n  Scenario: refund\n" })]

def stallArguments : List Text :=
  ["render", "--list", "-f", "pay.feature,refund.FEATURE"]

def stallListing : RenderOptions where
  features := ["pay.feature", "refund.FEATURE"]
  list := true

def stallFeature (uri name scenario : Text) : Suite.Feature :=
  ⟨uri, "Feature", name, [], [], [⟨"Scenario", scenario, [], [], 2, [], [], []⟩]⟩

def stallPay : Suite.Feature :=
  stallFeature "pay.feature" "pay" "pay by card"

def stallRefund : Suite.Feature :=
  stallFeature "refund.FEATURE" "refund" "refund"

theorem failed_render_output_stall :
    let out : Sink := { limit := some 16 }
    let result := run {} stallFiles stallArguments { out }
    (Interpreter.answer stallArguments = .run (.render stallListing) ∧
      out.accepts (run {} stallFiles stallArguments {}).2.out.accepted = true ∧
      result.1.number = 1) ∧
    result.2.out.accepted = encode "pay.pay_by_card\n" ∧ result.2.out.accepted ≠ [] := by
  intro out result
  have reads : Interpreter.answer stallArguments = .run (.render stallListing) := by decide +kernel
  have takesAll : out.accepts (run {} stallFiles stallArguments {}).2.out.accepted = true := by
    decide +kernel
  have failed : result.1.number = 1 := by decide +kernel
  have lists : Lists stallFiles stallListing defaultPattern [stallPay, stallRefund] := by
    exact ⟨rfl, patternOf_defaultPatternText, by decide +kernel, by decide +kernel⟩
  have upTo : NamedUpTo defaultPattern [stallPay, stallRefund] [stallPay] stallRefund := by
    refine ⟨⟨[], rfl⟩, (mismatches_eq_nil_iff _ _).mp (by decide +kernel), ?_⟩
    rw [← flatMap_nameless_eq_nil_iff]
    decide +kernel
  rcases failed_render_output reads takesAll failed with ⟨some_written, left⟩
  refine ⟨⟨reads, takesAll, failed⟩, ?_, some_written.mpr ?_⟩
  · rw [left _ _ _ _ lists upTo]
    decide +kernel
  · exact ⟨_, _, _, _, lists, upTo, stallPay, List.mem_singleton_self _, by decide⟩

/-- A listing that fails does not leave the output empty. -/
theorem not_empty_of_failed :
    let result := run {} stallFiles stallArguments {}
    result.1.number = 1 ∧ result.2.out.accepted = encode "pay.pay_by_card\n" ∧
      ¬∀ [Gherkin.Parser] [Pattern.Compiler] [Interpreter] (setup : Setup) (files : Files)
          (arguments : List Text) (options : RenderOptions),
        Interpreter.answer arguments = .run (.render options) →
          (run setup files arguments {}).1.number = 1 →
            (run setup files arguments {}).2.out.accepted = [] := by
  intro result
  have failed : result.1.number = 1 := by decide +kernel
  have written : result.2.out.accepted = encode "pay.pay_by_card\n" := by decide +kernel
  refine ⟨failed, written, fun empty => ?_⟩
  have none := empty {} stallFiles stallArguments stallListing (by decide +kernel) failed
  exact absurd (written.symm.trans none) (by decide +kernel)

end Scenarist.App
