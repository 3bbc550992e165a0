import Scenarist.Text.Basic

/-! # Whitespace

Whitespace is the White_Space property of the Unicode character database.
Blanks are the two characters that indent a line. -/

namespace Scenarist.Text

def isSpace (character : Char) : Bool :=
  let code := character.toNat
  (0x09 ≤ code && code ≤ 0x0D) || code = 0x20 || code = 0x85 || code = 0xA0 ||
    code = 0x1680 || (0x2000 ≤ code && code ≤ 0x200A) || code = 0x2028 ||
    code = 0x2029 || code = 0x202F || code = 0x205F || code = 0x3000

def isBlank (character : Char) : Bool :=
  character = ' ' || character = '\t'

theorem isSpace_of_isBlank {character : Char} (blank : isBlank character = true) :
    isSpace character = true := by
  simp only [isBlank, Bool.or_eq_true, decide_eq_true_eq] at blank
  rcases blank with rfl | rfl <;> decide

def trimStart (text : Text) : Text :=
  text.dropWhile isSpace

def trimEnd (text : Text) : Text :=
  dropEndWhile isSpace text

/-- Takes whitespace off both ends. -/
def trim (text : Text) : Text :=
  trimEnd (trimStart text)

/-- Takes the blanks off the beginning. -/
def dropBlanks (text : Text) : Text :=
  text.dropWhile isBlank

/-! The blanks or whitespace a line begins with. -/

def indentation (text : Text) : Text :=
  text.takeWhile isSpace

def isBlankText (text : Text) : Bool :=
  text.all isSpace

theorem indentation_append_trimStart (text : Text) :
    indentation text ++ trimStart text = text :=
  List.takeWhile_append_dropWhile

/-- The words of a text are its maximal runs of other characters. -/
def words : Text → List Text
  | [] => []
  | head :: rest =>
    if isSpace head then
      words rest
    else
      match rest with
      | [] => [[head]]
      | next :: _ =>
        if isSpace next then
          [head] :: words rest
        else
          match words rest with
          | [] => [[head]]
          | word :: others => (head :: word) :: others

example : words " two\t words\n" = (["two", "words"] : List Text) := by decide

/-! Squeezing writes one space for each run of whitespace. `inRun` tells
whether the run has been written already. -/

def squeezeFrom : (inRun : Bool) → Text → Text
  | _, [] => []
  | inRun, head :: rest =>
    if isSpace head then
      if inRun then squeezeFrom true rest else ' ' :: squeezeFrom true rest
    else
      head :: squeezeFrom false rest

def squeeze (text : Text) : Text :=
  squeezeFrom false text

/-- A text on one line, with its words kept apart by single spaces. -/
def flatten (text : Text) : Text :=
  trim (squeeze text)

example : flatten " two\t words\n" = "two words" := by decide

end Scenarist.Text
