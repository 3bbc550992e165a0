import Scenarist.Text.Basic

/-! # Paths

A path is a text whose components are parted by slashes. Repeated slashes and
single dots say nothing, except that a dot at the very beginning of a relative
path is a component of its own. -/

namespace Scenarist

namespace Path

open Text

inductive Component where
  | root
  | current
  | parent
  | name (text : Text)
deriving DecidableEq, Repr

def component? (piece : Text) : Option Component :=
  if piece = [] || piece = ['.'] then
    none
  else if piece = ['.', '.'] then
    some .parent
  else
    some (.name piece)

def firstComponent? (path piece : Text) : Option Component :=
  if piece = [] then
    if path = [] then none else some .root
  else if piece = ['.'] then
    some .current
  else
    component? piece

def components (path : Text) : List Component :=
  match split '/' path with
  | [] => []
  | first :: rest =>
    (firstComponent? path first).toList ++ rest.filterMap component?

example : components "/a//b/./../c/" =
    [.root, .name "a", .name "b", .parent, .name "c"] := by decide

/-! The order of paths compares component by component: the root, then the
leading dot, then the parent, then names by their characters. -/

def Component.key : Component → List Nat
  | .root => [0]
  | .current => [1]
  | .parent => [2]
  | .name text => 3 :: text.map Char.toNat

def key (path : Text) : List (List Nat) :=
  (components path).map Component.key

abbrev compareKeys : List (List Nat) → List (List Nat) → Ordering :=
  List.compareLex (List.compareLex compare)

/-- Whether a path may stand before another. -/
def precedes (left right : Text) : Bool :=
  (compareKeys (key left) (key right)).isLE

theorem precedes_trans {first second third : Text}
    (left : precedes first second = true) (right : precedes second third = true) :
    precedes first third = true :=
  @Std.TransCmp.isLE_trans _ compareKeys _ (key first) (key second) (key third) left right

theorem precedes_total (left right : Text) :
    (precedes left right || precedes right left) = true := by
  have swapped : compareKeys (key right) (key left) =
      (compareKeys (key left) (key right)).swap := Std.OrientedCmp.eq_swap
  simp only [precedes]
  rw [swapped]
  cases compareKeys (key left) (key right) <;> rfl

example : precedes "d/a/x" "d/a b" = true := by decide
example : precedes "d/a-b/x" "d/a.feature" = true := by decide

def fileName? (path : Text) : Option Text :=
  match (components path).getLast? with
  | some (.name text) => some text
  | _ => none

/-! The stem of a name is the part before its last dot. A dot that begins the
name is part of the stem. -/

def stemOfName (name : Text) : Text :=
  let extension := (name.reverse.takeWhile (· ≠ '.')).reverse
  let stem := name.take (name.length - extension.length - 1)
  if name.contains '.' && !stem.isEmpty then stem else name

def stem? (path : Text) : Option Text :=
  (fileName? path).map stemOfName

example : stem? "src/login_test.go" = some ("login_test" : Text) := by decide
example : stem? ".hidden" = some (".hidden" : Text) := by decide
example : stem? "a/.." = none := by decide

def join (directory entry : Text) : Text :=
  if directory.getLast? = some '/' then
    directory ++ entry
  else
    directory ++ ('/' :: entry)

end Path

end Scenarist
