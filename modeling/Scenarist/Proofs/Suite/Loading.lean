import Scenarist.Load
import Scenarist.Proofs.Attempts

/-! # Loading

Three things are attempted in turn: the feature files under the paths, the
sources, and the excerpts of the sources. The first failure is the answer. If
there is none, each path and each source adds features of its own to the suite,
in order. -/

namespace Scenarist

open Attempts

/-! ## What is attempted -/

/-- The feature files that a path leads to, in the order of the walk. -/
def foundFiles (files : Files) (path : Text) : List Text :=
  if files.isFile path then [path] else featureFiles files path

/-- The excerpts of a source, if it can be read. -/
def excerptsIn (files : Files) (markers : Comment.Markers) (source : Text) : List Excerpt :=
  match files.read source with
  | .ok text => (extract markers source text).excerpts
  | .error _ => []

def sourceAttempts (files : Files) (markers : Comment.Markers) (sources : List Text) :
    List (Except Error Extraction) :=
  sources.map (extractFile files markers)

section

variable (files : Files) (markers : Comment.Markers)

@[simp] theorem sourceAttempts_nil : sourceAttempts files markers [] = [] := rfl

@[simp] theorem sourceAttempts_append (first last : List Text) :
    sourceAttempts files markers (first ++ last) =
      sourceAttempts files markers first ++ sourceAttempts files markers last :=
  List.map_append

theorem flatMap_excerpts_results (sources : List Text) :
    (results (sourceAttempts files markers sources)).flatMap Extraction.excerpts =
      sources.flatMap (excerptsIn files markers) := by
  induction sources with
  | nil => rfl
  | cons source sources induction =>
      rw [sourceAttempts, List.map_cons, List.flatMap_cons, extractFile, excerptsIn]
      cases files.read source with
      | error fault => exact induction
      | ok text => exact congrArg (_ ++ ·) induction

theorem failures_sourceAttempts_eq_nil_iff (sources : List Text) :
    failures (sourceAttempts files markers sources) = [] ↔
      ∀ source ∈ sources, ∃ text, files.read source = .ok text := by
  rw [failures_eq_nil_iff, sourceAttempts, List.forall_mem_map]
  refine forall₂_congr fun source _ => ?_
  rw [extractFile]
  cases files.read source <;> simp

end

theorem build_append (filter : Tag.Filter) (first last : List Gherkin.Feature) :
    Suite.build filter (first ++ last) = Suite.build filter first ++ Suite.build filter last :=
  List.filterMap_append

section

variable [Gherkin.Parser]

def nativeAttempts (files : Files) (paths : List Text) : List (Except Error Gherkin.Feature) :=
  (paths.flatMap (foundFiles files)).map (featureFile files)

def embeddedAttempts (files : Files) (markers : Comment.Markers) (sources : List Text) :
    List (Except Error Gherkin.Feature) :=
  (sources.flatMap (excerptsIn files markers)).map excerptFeature

/-- All failures, in the order in which they count. -/
def loadFailures (files : Files) (markers : Comment.Markers) (paths sources : List Text) :
    List Error :=
  failures (nativeAttempts files paths) ++
    (failures (sourceAttempts files markers sources) ++
      failures (embeddedAttempts files markers sources))

def loadedDocuments (files : Files) (markers : Comment.Markers) (paths sources : List Text) :
    List Gherkin.Feature :=
  results (nativeAttempts files paths) ++ results (embeddedAttempts files markers sources)

theorem flatMap_featuresAt (files : Files) (paths : List Text) :
    paths.flatMap (featuresAt files) = nativeAttempts files paths := by
  rw [nativeAttempts, List.map_flatMap]
  refine congrArg (List.flatMap · paths) (funext fun path => ?_)
  rw [featuresAt, foundFiles]
  split <;> rfl

section

variable (files : Files) (markers : Comment.Markers)

@[simp] theorem nativeAttempts_nil : nativeAttempts files [] = [] := rfl

@[simp] theorem embeddedAttempts_nil : embeddedAttempts files markers [] = [] := rfl

@[simp] theorem nativeAttempts_append (first last : List Text) :
    nativeAttempts files (first ++ last) =
      nativeAttempts files first ++ nativeAttempts files last := by
  rw [nativeAttempts, List.flatMap_append, List.map_append]
  rfl

@[simp] theorem embeddedAttempts_append (first last : List Text) :
    embeddedAttempts files markers (first ++ last) =
      embeddedAttempts files markers first ++ embeddedAttempts files markers last := by
  rw [embeddedAttempts, List.flatMap_append, List.map_append]
  rfl

/-! ## The answer -/

theorem loadDocuments_eq (paths sources : List Text) :
    loadDocuments files markers paths sources =
      unlessFailed (loadedDocuments files markers paths sources)
        (loadFailures files markers paths sources) := by
  rw [loadDocuments, flatMap_featuresAt, mapM_eq_unlessFailed, List.map_id]
  refine unlessFailed_bind ?_
  rw [mapM_eq_unlessFailed]
  refine unlessFailed_bind ?_
  rw [mapM_eq_unlessFailed]
  have embedded := congrArg (List.map excerptFeature)
    (flatMap_excerpts_results files markers sources)
  rw [sourceAttempts] at embedded
  rw [embedded, ← embeddedAttempts]
  exact map_unlessFailed (results (nativeAttempts files paths) ++ ·)

variable (filter : Tag.Filter)

theorem loadFeatures_eq (paths sources : List Text) :
    loadFeatures files markers filter paths sources =
      unlessFailed (Suite.build filter (loadedDocuments files markers paths sources))
        (loadFailures files markers paths sources) := by
  rw [loadFeatures, loadDocuments_eq]
  exact map_unlessFailed (Suite.build filter)

theorem loadFeatures_eq_error_iff (paths sources : List Text) (error : Error) :
    loadFeatures files markers filter paths sources = .error error ↔
      (loadFailures files markers paths sources).head? = some error := by
  rw [loadFeatures_eq, unlessFailed_eq_error_iff]

/-! ## Suites in parts -/

section

variable {paths sources firstPaths firstSources lastPaths lastSources : List Text}

/-- Two loads that share the documents of a third, and fail just if it does, are its parts. -/
theorem loadFeatures_eq_ok_iff_of_parts
    (documents : loadedDocuments files markers paths sources =
      loadedDocuments files markers firstPaths firstSources ++
        loadedDocuments files markers lastPaths lastSources)
    (fails : loadFailures files markers paths sources = [] ↔
      loadFailures files markers firstPaths firstSources = [] ∧
        loadFailures files markers lastPaths lastSources = [])
    (suite : List Suite.Feature) :
    loadFeatures files markers filter paths sources = .ok suite ↔
      ∃ one other, loadFeatures files markers filter firstPaths firstSources = .ok one ∧
        loadFeatures files markers filter lastPaths lastSources = .ok other ∧
          suite = one ++ other := by
  simp only [loadFeatures_eq]
  refine unlessFailed_eq_ok_iff_parts ?_ fails
  rw [documents, build_append]

end

theorem loadFeatures_eq_ok_iff_native_embedded (paths sources : List Text)
    (suite : List Suite.Feature) :
    loadFeatures files markers filter paths sources = .ok suite ↔
      ∃ native embedded, loadFeatures files markers filter paths [] = .ok native ∧
        loadFeatures files markers filter [] sources = .ok embedded ∧
          suite = native ++ embedded :=
  loadFeatures_eq_ok_iff_of_parts files markers filter (by simp [loadedDocuments])
    (by simp [loadFailures]) suite

theorem loadFeatures_paths_append_eq_ok_iff (first last : List Text)
    (suite : List Suite.Feature) :
    loadFeatures files markers filter (first ++ last) [] = .ok suite ↔
      ∃ one other, loadFeatures files markers filter first [] = .ok one ∧
        loadFeatures files markers filter last [] = .ok other ∧ suite = one ++ other :=
  loadFeatures_eq_ok_iff_of_parts files markers filter (by simp [loadedDocuments])
    (by simp [loadFailures]) suite

theorem loadFeatures_sources_append_eq_ok_iff (first last : List Text)
    (suite : List Suite.Feature) :
    loadFeatures files markers filter [] (first ++ last) = .ok suite ↔
      ∃ one other, loadFeatures files markers filter [] first = .ok one ∧
        loadFeatures files markers filter [] last = .ok other ∧ suite = one ++ other :=
  loadFeatures_eq_ok_iff_of_parts files markers filter (by simp [loadedDocuments])
    (by simp [loadFailures, and_assoc, and_left_comm]) suite

/-- Whatever parts the paths and the sources are in, each part is loaded as if it were alone. -/
theorem loadFeatures_append_eq_ok_iff (first last firstSources lastSources : List Text)
    (suite : List Suite.Feature) :
    loadFeatures files markers filter (first ++ last) (firstSources ++ lastSources) = .ok suite ↔
      ∃ one two three four, loadFeatures files markers filter first [] = .ok one ∧
        loadFeatures files markers filter last [] = .ok two ∧
        loadFeatures files markers filter [] firstSources = .ok three ∧
        loadFeatures files markers filter [] lastSources = .ok four ∧
        suite = one ++ two ++ three ++ four := by
  rw [loadFeatures_eq_ok_iff_native_embedded]
  simp only [loadFeatures_paths_append_eq_ok_iff, loadFeatures_sources_append_eq_ok_iff]
  constructor
  · rintro ⟨_, _, ⟨one, two, isOne, isTwo, rfl⟩, ⟨three, four, isThree, isFour, rfl⟩, rfl⟩
    exact ⟨one, two, three, four, isOne, isTwo, isThree, isFour, (List.append_assoc ..).symm⟩
  · rintro ⟨one, two, three, four, isOne, isTwo, isThree, isFour, rfl⟩
    exact ⟨_, _, ⟨one, two, isOne, isTwo, rfl⟩, ⟨three, four, isThree, isFour, rfl⟩,
      List.append_assoc ..⟩

/-! ## What succeeds -/

theorem loadFeatures_eq_ok_iff (paths sources : List Text) (suite : List Suite.Feature) :
    loadFeatures files markers filter paths sources = .ok suite ↔
      ∃ native embedded,
        (paths.flatMap (foundFiles files)).map (featureFile files) = native.map .ok ∧
        (∀ source ∈ sources, ∃ text, files.read source = .ok text) ∧
        (sources.flatMap (excerptsIn files markers)).map excerptFeature = embedded.map .ok ∧
        suite = Suite.build filter (native ++ embedded) := by
  simp only [eq_map_ok_iff, ← failures_sourceAttempts_eq_nil_iff files markers]
  rw [loadFeatures_eq, unlessFailed_eq_ok_iff, loadFailures, loadedDocuments,
    List.append_eq_nil_iff, List.append_eq_nil_iff]
  constructor
  · rintro ⟨⟨nativeRead, sourcesRead, embeddedRead⟩, rfl⟩
    exact ⟨_, _, ⟨nativeRead, rfl⟩, sourcesRead, ⟨embeddedRead, rfl⟩, rfl⟩
  · rintro ⟨_, _, ⟨nativeRead, rfl⟩, sourcesRead, ⟨embeddedRead, rfl⟩, rfl⟩
    exact ⟨⟨nativeRead, sourcesRead, embeddedRead⟩, rfl⟩

/-- The features of all files and excerpts are built in order, where all of them can be read, and
then each part of the paths and of the sources has its own part in the suite. Otherwise the answer
is the first failure, those of feature files before those of sources, and these before those of
excerpts. -/
theorem loadFeatures_all_or_nothing (paths sources : List Text) :
    ((∃ suite, loadFeatures files markers filter paths sources = .ok suite) ↔
      (∀ file ∈ paths.flatMap (foundFiles files), ∃ document,
        featureFile files file = .ok document) ∧
      (∀ source ∈ sources, ∃ text, files.read source = .ok text) ∧
      ∀ excerpt ∈ sources.flatMap (excerptsIn files markers), ∃ document,
        excerptFeature excerpt = .ok document) ∧
    (∀ suite, loadFeatures files markers filter paths sources = .ok suite ↔
      ∃ native embedded,
        (paths.flatMap (foundFiles files)).map (featureFile files) = native.map .ok ∧
        (∀ source ∈ sources, ∃ text, files.read source = .ok text) ∧
        (sources.flatMap (excerptsIn files markers)).map excerptFeature = embedded.map .ok ∧
        suite = Suite.build filter (native ++ embedded)) ∧
    (∀ first last firstSources lastSources suite,
      loadFeatures files markers filter (first ++ last) (firstSources ++ lastSources) = .ok suite ↔
        ∃ one two three four, loadFeatures files markers filter first [] = .ok one ∧
          loadFeatures files markers filter last [] = .ok two ∧
          loadFeatures files markers filter [] firstSources = .ok three ∧
          loadFeatures files markers filter [] lastSources = .ok four ∧
          suite = one ++ two ++ three ++ four) ∧
    ∀ error, loadFeatures files markers filter paths sources = .error error ↔
      (failures ((paths.flatMap (foundFiles files)).map (featureFile files)) ++
        (failures (sources.map (extractFile files markers)) ++
          failures ((sources.flatMap (excerptsIn files markers)).map excerptFeature))).head? =
        some error := by
  refine ⟨?_, loadFeatures_eq_ok_iff files markers filter paths sources,
    loadFeatures_append_eq_ok_iff files markers filter,
    loadFeatures_eq_error_iff files markers filter paths sources⟩
  have succeeds : (∃ suite, loadFeatures files markers filter paths sources = .ok suite) ↔
      loadFailures files markers paths sources = [] := by
    rw [loadFeatures_eq]
    simp only [unlessFailed_eq_ok_iff, exists_and_left, exists_eq', and_true]
  rw [succeeds, loadFailures, List.append_eq_nil_iff, List.append_eq_nil_iff,
    failures_sourceAttempts_eq_nil_iff, failures_eq_nil_iff, failures_eq_nil_iff, nativeAttempts,
    embeddedAttempts, List.forall_mem_map, List.forall_mem_map]

end

end

end Scenarist
