import Scenarist.Files

/-! # Snapshots

What was found at the paths a run asks about, taken before the run begins.
Nothing is at any other path. -/

namespace Scenarist.Files

structure Sight where
  kind : Option FileKind := none
  text : Except ReadFault Text := .error .notFound
  below : List Text := []

abbrev Snapshot := List (Text × Sight)

namespace Snapshot

def sight (snapshot : Snapshot) (path : Text) : Sight :=
  (snapshot.lookup path).getD {}

def toFiles (snapshot : Snapshot) : Files where
  kind path := (snapshot.sight path).kind
  read path := (snapshot.sight path).text
  below path := (snapshot.sight path).below

end Snapshot

end Scenarist.Files
