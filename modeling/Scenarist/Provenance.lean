import Scenarist.Text.Line
import Scenarist.Text.Space

/-! # Provenance

A bare scenario is tagged with the file and the function it was lifted from,
so that it can still be traced, and filtered, once it is part of a suite. -/

namespace Scenarist.Provenance

open Text

/-! A complete feature starts with its header. Only blank lines, tags and
comments may stand before it. -/

def saysMore (line : Text) : Bool :=
  match line with
  | [] => false
  | head :: _ => head ≠ '@' && head ≠ '#'

/-- Whether a text is a complete feature. -/
def isFeature (text : Text) : Bool :=
  match ((lines text).map trim).find? saysMore with
  | none => false
  | some line => (strip "Feature:" line).isSome

example : isFeature "@smoke\n# note\n  Feature: login\n" = true := by decide

/-! A function whose name begins as the name of a test does gives its scenario
a title. -/

def testBeginnings : List Text :=
  ["Test_", "test_"]

def spaceUnderscores (text : Text) : Text :=
  text.map fun character => if character = '_' then ' ' else character

/-- The title that a function gives its scenario. -/
def title? (identifier : Text) : Option Text := do
  let name ← testBeginnings.findSome? fun beginning => strip beginning identifier
  let title := trim (spaceUnderscores name)
  if title.isEmpty then none else some title

example : title? "Test_user_logs_in" = some ("user logs in" : Text) := by decide

/-! The first header without a title takes the given one. -/

def isUntitledHeader (line : Text) : Bool :=
  let header := trim line
  header = ("Scenario:" : Text) || header = ("Example:" : Text)

def entitleLine (title line : Text) : Text :=
  indentation line ++ trim line ++ (' ' :: title)

def entitleFirst (title : Text) : List Text → Option (List Text)
  | [] => none
  | line :: rest =>
    if isUntitledHeader line then
      some (entitleLine title line :: rest)
    else
      (entitleFirst title rest).map (line :: ·)

def entitle? (title text : Text) : Option Text :=
  (entitleFirst title (split '\n' text)).map (join ['\n'])

/-! A tag ends at whitespace, so a value must not hold any. -/

def tagValue (value : Text) : Text :=
  value.map fun character => if isSpace character then '_' else character

def fileTag : Text := "@file:"

def testTag : Text := "@test:"

def entitled (text identifier : Text) : Text :=
  ((title? identifier) >>= fun title => entitle? title text).getD text

/-- Puts the two tags before a scenario, indented like its first line. -/
def tag (text file identifier : Text) : Text :=
  let titled := entitled text identifier
  let indent := indentation ((lines titled).headD [])
  indent ++ fileTag ++ tagValue file ++ ['\n'] ++
    indent ++ testTag ++ tagValue identifier ++ ['\n'] ++ titled

end Scenarist.Provenance
