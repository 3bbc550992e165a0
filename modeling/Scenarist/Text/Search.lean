import Scenarist.Text.Basic

/-! # Searching a text

The search takes the leftmost place where the sought text stands, with ASCII
letters compared without regard to case. The empty text stands everywhere. -/

namespace Scenarist.Text

def sameLetter (left right : Char) : Bool :=
  left.toLower = right.toLower

/-! The characters that stand for an expected beginning, and the rest. -/

def stripFolded : (beginning : Text) → Text → Option (Text × Text)
  | [], text => some ([], text)
  | _ :: _, [] => none
  | expected :: beginning, head :: rest =>
    if sameLetter head expected then
      (stripFolded beginning rest).map fun (taken, left) => (head :: taken, left)
    else
      none

/-- A place where the sought text stands, with the text before and after it. -/
structure Found where
  before : Text
  found : Text
  after : Text
deriving DecidableEq, Repr

/-- The leftmost place where the sought text stands. -/
def find? (sought : Text) (text : Text) : Option Found :=
  match stripFolded sought text with
  | some (taken, left) => some ⟨[], taken, left⟩
  | none =>
    match text with
    | [] => none
    | head :: rest =>
      (find? sought rest).map fun place => { place with before := head :: place.before }

example : find? "[END]" "a [end] b" = some ⟨"a ", "[end]", " b"⟩ := by decide

theorem append_of_stripFolded {beginning text taken left : Text}
    (stripped : stripFolded beginning text = some (taken, left)) :
    taken ++ left = text := by
  induction beginning generalizing text taken with
  | nil => simp_all [stripFolded]
  | cons expected beginning induction =>
      cases text with
      | nil => simp [stripFolded] at stripped
      | cons head rest =>
          simp only [stripFolded] at stripped
          split at stripped
          · obtain ⟨⟨more, remaining⟩, found, equal⟩ :=
              Option.map_eq_some_iff.mp stripped
            cases equal
            simp [induction found]
          · simp at stripped

theorem Found.append_of_find? {sought text : Text} {place : Found}
    (found : find? sought text = some place) :
    place.before ++ (place.found ++ place.after) = text := by
  induction text generalizing place with
  | nil =>
      rw [find?] at found
      split at found
      · next stripped =>
          cases found
          simpa using append_of_stripFolded stripped
      · simp at found
  | cons head rest induction =>
      rw [find?] at found
      split at found
      · next stripped =>
          cases found
          simpa using append_of_stripFolded stripped
      · obtain ⟨inner, innerFound, equal⟩ := Option.map_eq_some_iff.mp found
        cases equal
        simp [induction innerFound]

end Scenarist.Text
