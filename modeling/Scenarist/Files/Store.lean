import Scenarist.Files
import Scenarist.Path

/-! # A store of files

Files and directories held in memory, each under the names that lead to it
from the current directory. Writing a file creates the directories above
it. -/

namespace Scenarist.Files

inductive Contents where
  | text (text : Text)
  | malformed
deriving DecidableEq, Repr

def Contents.ofBytes (bytes : ByteArray) : Contents :=
  match String.fromUTF8? bytes with
  | some string => .text string.toList
  | none => .malformed

inductive Entry where
  | file (contents : Contents)
  | directory
deriving DecidableEq, Repr

def Entry.kind : Entry → FileKind
  | .file _ => .file
  | .directory => .directory

abbrev Names := List Text

structure Store where
  entries : List (Names × Entry) := []
deriving DecidableEq, Repr

namespace Store

/-! The current directory always exists. -/

def entry (store : Store) (names : Names) : Option Entry :=
  if names.isEmpty then some .directory else store.entries.lookup names

def put (store : Store) (names : Names) (entry : Entry) : Store where
  entries := (names, entry) :: store.entries.filter fun other => other.1 ≠ names

def makeDirectory (store : Store) (names : Names) : Store :=
  (List.range (names.length + 1)).foldl
    (fun sofar depth =>
      let above := names.take depth
      if (sofar.entry above).isSome then sofar else sofar.put above .directory)
    store

def write (store : Store) (names : Names) (contents : Contents) : Store :=
  (store.makeDirectory names.dropLast).put names (.file contents)

/-- Removes an entry together with all that is below it. -/
def remove (store : Store) (names : Names) : Store where
  entries := store.entries.filter fun other => !names.isPrefixOf other.1

/-! Follows a path from directory to directory. An empty piece and a single
dot stay where they are, yet only a directory can be stayed in. -/

def enter (store : Store) (names : Names) : Except ReadFault Unit :=
  match store.entry names with
  | none => .error .notFound
  | some .directory => .ok ()
  | some (.file _) => .error .notADirectory

def follow (store : Store) (names : Names) (piece : Text) : Except ReadFault Names := do
  store.enter names
  if piece.isEmpty || piece = ['.'] then
    return names
  else if piece = ['.', '.'] then
    return names.dropLast
  else
    return names ++ [piece]

/-- The names that a path leads to, and the entry found there. -/
def resolve (store : Store) (path : Text) : Except ReadFault (Names × Entry) := do
  if path.isEmpty || path.head? = some '/' then
    throw .notFound
  let names ← (Text.split '/' path).foldlM store.follow []
  match store.entry names with
  | none => throw .notFound
  | some entry => return (names, entry)

/-! The names that a path leads to, whether or not anything is there. -/

def namesOf (path : Text) : Names :=
  (Path.components path).filterMap fun component =>
    match component with
    | .name text => some text
    | _ => none

def read (store : Store) (path : Text) : Except ReadFault Text := do
  match ← store.resolve path with
  | (_, .directory) => throw .isADirectory
  | (_, .file .malformed) => throw .notText
  | (_, .file (.text text)) => return text

def kind (store : Store) (path : Text) : Option FileKind :=
  (store.resolve path).toOption.map fun found => found.2.kind

def below (store : Store) (path : Text) : List Text :=
  match store.resolve path with
  | .ok (names, .directory) =>
    store.entries.filterMap fun (other, _) =>
      if names.isPrefixOf other && names ≠ other then
        some (Text.join ['/'] (other.drop names.length))
      else
        none
  | _ => []

def toFiles (store : Store) : Files where
  kind := store.kind
  read := store.read
  below := store.below

end Store

end Scenarist.Files
