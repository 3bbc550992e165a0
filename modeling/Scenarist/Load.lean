import Scenarist.Error
import Scenarist.Excerpt
import Scenarist.Files
import Scenarist.Suite.Build

/-! # Loading features

Features come from feature files, found under given paths, and from the
excerpts of source files. The parser reads the text of each of them by itself.
The first failure is the only answer then. -/

namespace Scenarist

/-! The feature files below a directory, in the order of their paths. The
extension counts in any case, and a directory may bear it too. -/

def isFeatureName (path : Text) : Bool :=
  (Text.stripFolded (".feature" : Text).reverse path.reverse).isSome

def featureFiles (files : Files) (directory : Text) : List Text :=
  (((files.below directory).filter isFeatureName).map (Path.join directory)).mergeSort
    Path.precedes

section

variable [Gherkin.Parser]

/-- Reads a feature file. -/
def featureFile (files : Files) (path : Text) : Except Error Gherkin.Feature :=
  match files.read path with
  | .error fault => .error (.featureUnreadable path fault.message)
  | .ok text =>
    match Gherkin.Parser.parse text with
    | .error complaint => .error (.featureMalformed ⟨path, complaint⟩)
    | .ok feature => .ok { feature with path := some path }

/-! A file is read whatever its name. -/

def featuresAt (files : Files) (path : Text) : List (Except Error Gherkin.Feature) :=
  if files.isFile path then
    [featureFile files path]
  else
    (featureFiles files path).map (featureFile files)

def extractFile (files : Files) (markers : Comment.Markers) (path : Text) :
    Except Error Extraction :=
  match files.read path with
  | .error fault => .error (.unreadable path fault.message)
  | .ok source => .ok (extract markers path source)

def excerptFeature (excerpt : Excerpt) : Except Error Gherkin.Feature :=
  match Gherkin.Parser.parse excerpt.featureSource with
  | .error complaint => .error (.excerptMalformed ⟨excerpt.uri, complaint⟩)
  | .ok feature => .ok { feature with path := some excerpt.uri }

/-! All sources are read before any of their excerpts is. -/

/-- Reads the feature files under all paths, then the excerpts of all sources. -/
def loadDocuments (files : Files) (markers : Comment.Markers)
    (paths sources : List Text) : Except Error (List Gherkin.Feature) := do
  let native ← (paths.flatMap (featuresAt files)).mapM id
  let extractions ← sources.mapM (extractFile files markers)
  let embedded ← (extractions.flatMap Extraction.excerpts).mapM excerptFeature
  return native ++ embedded

/-- Reads all documents and builds the suite. -/
def loadFeatures (files : Files) (markers : Comment.Markers) (filter : Tag.Filter)
    (paths sources : List Text) : Except Error (List Suite.Feature) := do
  let documents ← loadDocuments files markers paths sources
  return Suite.build filter documents

end

/-! Reading the settings of a run that are given as text. -/

def filterOf (text : Text) : Except Error Tag.Filter :=
  (Tag.Filter.ofText text).mapError fun fault => .tagExpression text fault.message

def patternOf [Pattern.Compiler] (text : Text) : Except Error Pattern :=
  match Pattern.Compiler.compile text with
  | none => .error .pattern
  | some pattern => .ok pattern

end Scenarist
