/-! # Texts

A text is the list of its characters. A string literal may stand wherever a
text is expected. -/

namespace Scenarist

abbrev Text := List Char

instance : Coe String Text := ⟨String.toList⟩

namespace Text

/-! Cutting at a single character keeps every piece, the empty ones included,
so joining the pieces gives the text back. -/

def split (separator : Char) : Text → List Text
  | [] => [[]]
  | head :: rest =>
    if head = separator then
      [] :: split separator rest
    else
      match split separator rest with
      | [] => [[head]]
      | piece :: pieces => (head :: piece) :: pieces

/-- Puts a separator between the pieces. -/
def join (separator : Text) (pieces : List Text) : Text :=
  separator.intercalate pieces

example : split ',' "a,,b" = (["a", "", "b"] : List Text) := by decide

theorem split_ne_nil (separator : Char) (text : Text) :
    split separator text ≠ [] := by
  cases text with
  | nil => simp [split]
  | cons head rest =>
      simp only [split]
      split
      · simp
      · split <;> simp

theorem join_split (separator : Char) (text : Text) :
    join [separator] (split separator text) = text := by
  induction text with
  | nil => rfl
  | cons head rest induction =>
      simp only [split]
      split
      · next equal =>
          cases pieces : split separator rest with
          | nil => exact absurd pieces (split_ne_nil separator rest)
          | cons piece others =>
              rw [pieces] at induction
              simp_all [join, List.intercalate]
      · cases pieces : split separator rest with
        | nil => exact absurd pieces (split_ne_nil separator rest)
        | cons piece others =>
            rw [pieces] at induction
            rw [← induction]
            cases others <;> simp [join, List.intercalate]

/-- The characters up to the first that fails a test, and the rest. -/
def cutWhile (keeps : Char → Bool) (text : Text) : Text × Text :=
  (text.takeWhile keeps, text.dropWhile keeps)

/-- Takes the characters that pass a test off the end. -/
def dropEndWhile (drops : Char → Bool) (text : Text) : Text :=
  (text.reverse.dropWhile drops).reverse

/-- The text after an expected beginning, if that is how it begins. -/
def strip : (beginning : Text) → Text → Option Text
  | [], text => some text
  | _ :: _, [] => none
  | expected :: beginning, head :: rest =>
    if head = expected then strip beginning rest else none

theorem strip_eq_some_iff (beginning text rest : Text) :
    strip beginning text = some rest ↔ text = beginning ++ rest := by
  induction beginning generalizing text with
  | nil => simp [strip]
  | cons expected beginning induction =>
      cases text with
      | nil => simp [strip]
      | cons head tail =>
          simp only [strip, List.cons_append, List.cons.injEq]
          split
          · next equal => simp [equal, induction]
          · next different => simp [different]

/-- The decimal text of a number. -/
def ofNat (value : Nat) : Text :=
  Nat.toDigits 10 value

example : ofNat 120 = "120" := by decide

end Text

end Scenarist
