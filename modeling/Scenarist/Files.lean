import Scenarist.Text.Basic

/-! # Files

What a run sees of the files around it: which paths lead to a file or a
directory, the text of a file, and the entries below a directory, each given
by its path from the directory, in any order. -/

namespace Scenarist

inductive FileKind where
  | file
  | directory
deriving DecidableEq, Repr

inductive ReadFault where
  | notFound
  | notADirectory
  | isADirectory
  | notText
  | other (text : Text)
deriving DecidableEq, Repr

def ReadFault.message : ReadFault → Text
  | .notFound => "No such file or directory (os error 2)"
  | .notADirectory => "Not a directory (os error 20)"
  | .isADirectory => "Is a directory (os error 21)"
  | .notText => "stream did not contain valid UTF-8"
  | .other text => text

structure Files where
  kind : Text → Option FileKind
  read : Text → Except ReadFault Text
  below : Text → List Text

namespace Files

def isPresent (files : Files) (path : Text) : Bool :=
  (files.kind path).isSome

def isFile (files : Files) (path : Text) : Bool :=
  files.kind path = some .file

end Files

end Scenarist
