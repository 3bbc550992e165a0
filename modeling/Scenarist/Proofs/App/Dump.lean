import Scenarist.Proofs.App.FailedRender
import Scenarist.Proofs.Suite.Record

/-! # Dumps

A dump has one line for each feature, and each line is a record from which the
feature is read back. No text in a feature can break its line. -/

namespace Scenarist.App

open CommandLine Text

theorem areLines_records (features : List Suite.Feature) :
    AreLines (features.map Suite.Feature.record) := by
  intro record member
  rcases List.mem_map.mp member with ⟨feature, -, rfl⟩
  exact feature.json.lineFeed_not_mem_render

theorem play_dumpScript (features : List Suite.Feature) :
    (dumpScript features).play {} =
      (.ok .success,
        { out := { accepted := encode (unlines (features.map Suite.Feature.record)) } }) := by
  have writes : (dumpScript features).writes =
      (features.map Suite.Feature.record).map .outLine := by
    rw [dumpScript, List.map_map]
    rfl
  have directed : ∀ write ∈ (dumpScript features).writes, write.channel = .out := by
    rw [writes]
    simp [Write.outLine]
  have fits : (Console.sink {} .out).accepts (bytesOf (dumpScript features).writes) = true := rfl
  rw [Script.play, runWrites_of_accepts directed fits, writes, bytesOf_map_outLine]
  rfl

theorem outputScript_of_json {options : RenderOptions} (unlisted : options.list = false)
    (json : options.json = true) (pattern : Pattern) (features : List Suite.Feature) :
    outputScript pattern options features = dumpScript features := by
  rw [outputScript, unlisted, json]
  rfl

/-- A dump is written whole, and cut at its line feeds it is the records of the features in
their order. Every record is decoded to its feature, so no other feature has this record. -/
theorem dump_faithful {options : RenderOptions} (unlisted : options.list = false)
    (json : options.json = true) (pattern : Pattern) (features : List Suite.Feature) :
    ∃ text,
      (outputScript pattern options features).play {} =
        (.ok .success, { out := { accepted := encode text } }) ∧
      split '\n' text = features.map Suite.Feature.record ++ [[]] ∧
      (∀ feature, Suite.Feature.ofRecord feature.record = some feature) ∧
      ∀ first second : Suite.Feature, first.record = second.record → first = second := by
  refine ⟨unlines (features.map Suite.Feature.record), ?_,
    split_unlines (areLines_records features), Suite.Feature.ofRecord_record,
    Suite.Feature.record_injective⟩
  rw [outputScript_of_json unlisted json, play_dumpScript]

/-! Two features that differ in what is absent and what is empty. Their texts hold quotation
marks, backslashes, line breaks and other control characters. -/

def dumpedStep (docstring : Option Text) (table : Option (List (List Text))) : Suite.Step :=
  ⟨"Given", "a \"cart\"\nwith C:\\", 2 ^ 64 - 1, docstring, table⟩

def dumpedFeature (step : Suite.Step) : Suite.Feature :=
  ⟨"cart.feature", "Feature", "\x01\x7f\ttab", "\r\n", ["@cart"],
    [⟨"Scenario", "add", [], [], 3, [], [step], []⟩]⟩

def dumpedFeatures : List Suite.Feature :=
  [dumpedFeature (dumpedStep none none), dumpedFeature (dumpedStep (some []) (some []))]

theorem dump_faithful_cart :
    let options : RenderOptions := { json := true }
    (options.list = false ∧ options.json = true) ∧
    ∃ text,
      (outputScript Robot.defaultPattern options dumpedFeatures).play {} =
        (.ok .success, { out := { accepted := encode text } }) ∧
      split '\n' text = dumpedFeatures.map Suite.Feature.record ++ [[]] ∧
      dumpedFeatures.map (fun feature => Suite.Feature.ofRecord feature.record) =
        dumpedFeatures.map some := by
  intro options
  rcases @dump_faithful options rfl rfl Robot.defaultPattern dumpedFeatures with
    ⟨text, played, cut, decoded, -⟩
  exact ⟨⟨rfl, rfl⟩, text, played, cut, List.map_congr_left fun feature _ => decoded feature⟩

end Scenarist.App
