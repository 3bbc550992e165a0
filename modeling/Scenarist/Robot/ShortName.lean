import Scenarist.Pattern.Reading

/-! # Short names

The short name of a feature is what the first group of a pattern captures in
the feature's URI. The title of a scenario is made of the short name of its
feature and of its own name. -/

namespace Scenarist.Robot

/-- A URI from which a pattern captures no short name. -/
structure Mismatch where
  uri : Text
  pattern : Text
deriving DecidableEq, Repr

def Mismatch.message (mismatch : Mismatch) : Text :=
  ['`'] ++ mismatch.uri ++ ("` doesn't match short name pattern `" : Text) ++
    mismatch.pattern ++ ['`']

def defaultPatternText : Text :=
  "^(?:.*[/\\\\])?([^/\\\\]+)\\.feature$"

/-! The default pattern takes the last component without its extension. -/

def separator : Pattern.CharSet :=
  .union (.union .none (.single '/')) (.single '\\')

def directoryPart : Pattern.Node :=
  .seq (.repetition (.atom .any) 0 none true) (.atom separator)

def namePart : Pattern.Node :=
  .repetition (.atom (.complement separator)) 1 none true

def extensionPart : Pattern.Node :=
  Pattern.Frame.sequence
    ((".feature" : Text).map (fun character => Pattern.Node.atom (.single character)) ++
      [.finish])

def defaultNode : Pattern.Node :=
  .seq .start
    (.seq (.repetition directoryPart 0 (some 1) true)
      (.seq (.capture 1 namePart) extensionPart))

def defaultPattern : Pattern :=
  defaultNode.pattern defaultPatternText

theorem ofText_defaultPatternText :
    Pattern.ofText defaultPatternText = some defaultPattern := by
  have reads : Pattern.Node.ofText defaultPatternText = some defaultNode := by decide +kernel
  rw [Pattern.ofText, reads]
  rfl

/-- The short name of a feature. -/
def shortName (pattern : Pattern) (uri : Text) : Except Mismatch Text :=
  match pattern.firstGroup uri with
  | some name => .ok name
  | none => .error ⟨uri, pattern.text⟩

def underscoreSpaces (text : Text) : Text :=
  text.map fun character => if character = ' ' then '_' else character

/-- The title of a scenario, with underscores for the spaces of its name. -/
def scenarioTitle (pattern : Pattern) (uri name : Text) : Except Mismatch Text :=
  (shortName pattern uri).map fun short => short ++ ['.'] ++ underscoreSpaces name

end Scenarist.Robot
