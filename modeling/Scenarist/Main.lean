import Scenarist.App.Run
import Scenarist.Files.Snapshot
import Scenarist.Files.Store

/-! # The program

Looks at the files that the arguments name, runs, and hands over what was
written. -/

namespace Scenarist.Program

open CommandLine Files

/-! The paths a command asks about. -/

def namedPaths : Answer → List Text
  | .run (.extract options) => options.files
  | .run (.render options) => options.featurePaths ++ options.embedded
  | _ => []

def pathEntry (path : Text) : IO.FS.DirEntry :=
  { root := String.ofList path, fileName := "" }

def kindAt (path : Text) : IO (Option FileKind) := do
  try
    let metadata ← (pathEntry path).root.metadata
    return some (if metadata.type matches .dir then .directory else .file)
  catch _ =>
    return none

def textAt (path : Text) : IO (Except ReadFault Text) := do
  try
    let bytes ← IO.FS.readBinFile (String.ofList path)
    match Contents.ofBytes bytes with
    | .text text => return .ok text
    | .malformed => return .error .notText
  catch error =>
    return .error (.other (toString error))

partial def entriesBelow (directory : Text) : IO (List Text) := do
  let entries ← (pathEntry directory).root.readDir
  let mut found := []
  for entry in entries do
    let name : Text := entry.fileName.toList
    let path := Path.join directory name
    found := name :: found
    if (← kindAt path) = some .directory then
      let deeper ← entriesBelow path
      found := deeper.map (Path.join name) ++ found
  return found

def sightAt (path : Text) : IO Sight := do
  match ← kindAt path with
  | none => return {}
  | some .file => return { kind := some .file, text := ← textAt path }
  | some .directory =>
    return { kind := some .directory, text := .error .isADirectory, below := ← entriesBelow path }

/-! A directory brings the feature files below it along. -/

def look (path : Text) : IO Snapshot := do
  let sight ← sightAt path
  let features ← ((sight.below.filter isFeatureName).map (Path.join path)).mapM
    fun feature => return (feature, ← sightAt feature)
  return (path, sight) :: features

end Scenarist.Program

def main (arguments : List String) : IO UInt32 := do
  let texts : List Scenarist.Text := arguments.map String.toList
  let answer := Scenarist.CommandLine.Interpreter.answer texts
  let sights ← (Scenarist.Program.namedPaths answer).mapM Scenarist.Program.look
  let files := Scenarist.Files.Snapshot.toFiles sights.flatten
  let (code, console) := Scenarist.App.run {} files texts {}
  let (out, err) := (← IO.getStdout, ← IO.getStderr)
  out.write ⟨console.out.accepted.toArray⟩
  out.flush
  err.write ⟨console.err.accepted.toArray⟩
  err.flush
  return code.number.toUInt32
