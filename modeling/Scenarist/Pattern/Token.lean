import Scenarist.Pattern.CharSet
import Scenarist.Remainder

/-! # Tokens of a pattern

The text of a pattern is cut into characters and sets of characters, anchors,
brackets of groups, bars, and repetition signs. -/

namespace Scenarist.Pattern

open Text

inductive Token where
  | atom (set : CharSet)
  | start
  | finish
  | opening (captures : Bool) (name : Option Text)
  | closing
  | bar
  | repetition (least : Nat) (most : Option Nat) (greedy : Bool)
deriving DecidableEq, Repr

/-! What may stand in a class: a single character, which can bound a range, or
a set. -/

inductive Element where
  | character (character : Char)
  | set (set : CharSet)

def Element.toSet : Element → CharSet
  | .character value => .single value
  | .set whole => whole

def shorthand : Char → Option CharSet
  | 'd' => some .digit
  | 'D' => some (.complement .digit)
  | 'w' => some .word
  | 'W' => some (.complement .word)
  | 's' => some .space
  | 'S' => some (.complement .space)
  | _ => none

def control : Char → Option Char
  | 'n' => some '\n'
  | 't' => some '\t'
  | 'r' => some '\r'
  | 'f' => some '\x0C'
  | 'v' => some '\x0B'
  | 'a' => some '\x07'
  | _ => none

/-! Any other ASCII character can be escaped unless it is a letter, a digit or
an angle bracket. -/

def isEscapable (character : Char) : Bool :=
  character.toNat < 128 && !character.isAlphanum && character ≠ '<' && character ≠ '>'

def escaped (character : Char) : Option Element :=
  match shorthand character, control character with
  | some set, _ => some (.set set)
  | _, some code => some (.character code)
  | _, _ => if isEscapable character then some (.character character) else none

/-- Reads one element and answers what it leaves, which is less than it was given. -/
def readElement : (text : Text) → Option (Element × Fewer text)
  | [] => none
  | '\\' :: [] => none
  | '\\' :: head :: rest =>
    (escaped head).map fun element => (element, ⟨rest, by simp only [List.length_cons]; omega⟩)
  | head :: rest => some (.character head, ⟨rest, by simp⟩)

/-- Reads an element or a range. A minus sign makes a range, unless it ends the class.
-/
def readRange (text : Text) : Option (CharSet × Fewer text) :=
  match readElement text with
  | none => none
  | some (element, ⟨rest, fewer⟩) =>
    match rest, fewer with
    | '-' :: next :: after, fewer =>
      if next = ']' || next = '-' then
        some (element.toSet, ⟨'-' :: next :: after, fewer⟩)
      else
        match element, readElement (next :: after) with
        | .character first, some (.character last, ⟨left, fewerStill⟩) =>
          if first ≤ last then
            some (.range first last, ⟨left, by simp at fewer fewerStill; omega⟩)
          else
            none
        | _, _ => none
    | rest, fewer => some (element.toSet, ⟨rest, fewer⟩)

/-! Items up to the closing bracket. A class may stand inside another. -/

def leadingMinuses : Text → CharSet × Text
  | '-' :: rest =>
    let (set, left) := leadingMinuses rest
    (.union (.single '-') set, left)
  | text => (.none, text)

theorem length_leadingMinuses (text : Text) :
    (leadingMinuses text).2.length ≤ text.length := by
  fun_induction leadingMinuses text with
  | case1 rest set left equal induction =>
      rw [equal] at induction
      exact Nat.le_succ_of_le induction
  | case2 text different => simp

/-! A bracket right at the beginning stands for itself. -/

def leadingBracket (sofar : CharSet) : Text → CharSet × Text
  | ']' :: rest => if sofar = .none then (.single ']', rest) else (sofar, ']' :: rest)
  | text => (sofar, text)

theorem length_leadingBracket (sofar : CharSet) (text : Text) :
    (leadingBracket sofar text).2.length ≤ text.length := by
  fun_cases leadingBracket sofar text <;> simp

def classStart (text : Text) : CharSet × Text :=
  let (minuses, rest) := leadingMinuses text
  leadingBracket minuses rest

theorem length_classStart (text : Text) : (classStart text).2.length ≤ text.length :=
  Nat.le_trans (length_leadingBracket _ _) (length_leadingMinuses text)

mutual

def readClass (text : Text) : Option (CharSet × Fewer text) :=
  match text with
  | [] => none
  | '^' :: rest =>
    match readItems (classStart rest).1 (classStart rest).2 with
    | none => none
    | some (set, ⟨left, fewer⟩) =>
      some (.complement set, ⟨left, by
        have := length_classStart rest
        simp only [List.length_cons]
        omega⟩)
  | head :: rest =>
    match readItems (classStart (head :: rest)).1 (classStart (head :: rest)).2 with
    | none => none
    | some (set, ⟨left, fewer⟩) =>
      some (set, ⟨left, Nat.lt_of_lt_of_le fewer (length_classStart (head :: rest))⟩)
termination_by 2 * text.length + 1
decreasing_by
  · have := length_classStart rest
    simp only [List.length_cons]
    omega
  · have := length_classStart (head :: rest)
    omega

def readItems (sofar : CharSet) (text : Text) : Option (CharSet × Fewer text) :=
  match text with
  | [] => none
  | ']' :: rest => some (sofar, ⟨rest, by simp⟩)
  | '[' :: rest =>
    match readClass rest with
    | none => none
    | some (set, ⟨left, fewer⟩) =>
      match readItems (.union sofar set) left with
      | none => none
      | some (whole, ⟨last, fewerStill⟩) =>
        some (whole, ⟨last, by simp only [List.length_cons]; omega⟩)
  | head :: rest =>
    match readRange (head :: rest) with
    | none => none
    | some (set, ⟨left, fewer⟩) =>
      match readItems (.union sofar set) left with
      | none => none
      | some (whole, ⟨last, fewerStill⟩) => some (whole, ⟨last, by omega⟩)
termination_by 2 * text.length
decreasing_by
  all_goals simp only [List.length_cons] at *
  all_goals omega

end

def countBound : Nat := 4294967296

/-! A count is a decimal number below two to the thirty-second, with
whitespace around it. -/

def readCount (text : Text) : Option Nat × Text :=
  let digits := (text.dropWhile isSpace).takeWhile Char.isDigit
  let rest := (text.dropWhile isSpace).dropWhile Char.isDigit
  let count := digits.foldl (fun value digit => 10 * value + (digit.toNat - 48)) 0
  (if digits.isEmpty || count ≥ countBound then none else some count, rest.dropWhile isSpace)

def readLimits (text : Text) : Option (Nat × Option Nat × Text) :=
  match readCount text with
  | (some least, '}' :: rest) => some (least, some least, rest)
  | (some least, ',' :: '}' :: rest) => some (least, none, rest)
  | (some least, ',' :: rest) =>
    match readCount rest with
    | (some most, '}' :: rest) =>
      if least ≤ most then some (least, some most, rest) else none
    | _ => none
  | _ => none

theorem length_readCount (text : Text) : (readCount text).2.length ≤ text.length := by
  simp only [readCount]
  exact Nat.le_trans (List.Sublist.length_le (List.dropWhile_sublist _))
    (Nat.le_trans (List.Sublist.length_le (List.dropWhile_sublist _))
      (List.Sublist.length_le (List.dropWhile_sublist _)))

theorem length_readLimits {text rest : Text} {least : Nat} {most : Option Nat}
    (found : readLimits text = some (least, most, rest)) : rest.length < text.length := by
  have first := length_readCount text
  simp only [readLimits] at found
  split at found
  · next equal =>
      rw [equal] at first
      cases found
      simp at first
      omega
  · next equal =>
      rw [equal] at first
      cases found
      simp at first
      omega
  · next after _ equal =>
      rw [equal] at first
      have second := length_readCount after
      split at found
      · next equalAfter =>
          rw [equalAfter] at second
          split at found
          · cases found
            simp at first second
            omega
          · cases found
      · cases found
  · cases found

/-- Whether a repetition prefers more. A question mark behind it makes it prefer less.
-/
def laziness : Text → Bool × Text
  | '?' :: rest => (false, rest)
  | text => (true, text)

theorem length_laziness (text : Text) : (laziness text).2.length ≤ text.length := by
  fun_cases laziness text <;> simp

/-! The name of a group begins with a letter or an underscore. -/

def startsName (character : Char) : Bool :=
  character = '_' || (isWordCharacter character && !isDecimalDigit character)

def continuesName (character : Char) : Bool :=
  isWordCharacter character || character = '.' || character = '[' || character = ']'

def readName (text : Text) : Option (Text × Text) :=
  match cutWhile continuesName text with
  | (head :: name, '>' :: rest) =>
    if startsName head then some (head :: name, rest) else none
  | _ => none

theorem length_readName {text name rest : Text}
    (found : readName text = some (name, rest)) : rest.length < text.length := by
  simp only [readName] at found
  split at found
  · next head tail after equal =>
      have dropped : text.dropWhile continuesName = '>' :: after := congrArg Prod.snd equal
      have bound : (text.dropWhile continuesName).length ≤ text.length :=
        List.Sublist.length_le (List.dropWhile_sublist _)
      rw [dropped, List.length_cons] at bound
      split at found
      · cases found
        omega
      · cases found
  · cases found

/-! The sign behind an opening parenthesis tells what kind of group it
opens. -/

def readOpening : Text → Option (Token × Text)
  | '?' :: ':' :: rest => some (.opening false none, rest)
  | '?' :: 'P' :: '<' :: rest =>
    (readName rest).map fun (name, left) => (.opening true (some name), left)
  | '?' :: '<' :: rest =>
    (readName rest).map fun (name, left) => (.opening true (some name), left)
  | '?' :: _ => none
  | rest => some (.opening true none, rest)

theorem length_readOpening {text rest : Text} {token : Token}
    (found : readOpening text = some (token, rest)) : rest.length ≤ text.length := by
  unfold readOpening at found
  split at found
  · cases found
    simp
    omega
  · obtain ⟨⟨name, left⟩, named, equal⟩ := Option.map_eq_some_iff.mp found
    cases equal
    have := length_readName named
    simp
    omega
  · obtain ⟨⟨name, left⟩, named, equal⟩ := Option.map_eq_some_iff.mp found
    cases equal
    have := length_readName named
    simp
    omega
  · cases found
  · cases found
    simp

def repeated (least : Nat) (most : Option Nat) (rest : Text) : Token × Text :=
  ((.repetition least most (laziness rest).1), (laziness rest).2)

def readToken (head : Char) (rest : Text) : Option (Token × Text) :=
  match head with
  | '(' => readOpening rest
  | ')' => some (.closing, rest)
  | '|' => some (.bar, rest)
  | '^' => some (.start, rest)
  | '$' => some (.finish, rest)
  | '.' => some (.atom .any, rest)
  | '*' => some (repeated 0 none rest)
  | '+' => some (repeated 1 none rest)
  | '?' => some (repeated 0 (some 1) rest)
  | '{' => (readLimits rest).map fun (least, most, left) => repeated least most left
  | '[' => (readClass rest).map fun (set, left) => (.atom set, left.val)
  | '\\' =>
    match rest with
    | [] => none
    | next :: left => (escaped next).map fun element => (.atom element.toSet, left)
  | head => some (.atom (.single head), rest)

theorem length_readToken {head : Char} {text rest : Text} {token : Token}
    (found : readToken head text = some (token, rest)) : rest.length ≤ text.length := by
  have lazily (left : Text) := length_laziness left
  unfold readToken at found
  split at found
  case h_1 => exact length_readOpening found
  case h_7 | h_8 | h_9 =>
    cases found
    exact lazily _
  case h_10 =>
    obtain ⟨⟨least, most, left⟩, limits, equal⟩ := Option.map_eq_some_iff.mp found
    cases equal
    exact Nat.le_trans (lazily _) (Nat.le_of_lt (length_readLimits limits))
  case h_11 =>
    obtain ⟨⟨set, left⟩, class_, equal⟩ := Option.map_eq_some_iff.mp found
    cases equal
    exact Nat.le_of_lt left.property
  case h_12 =>
    split at found
    · cases found
    · obtain ⟨element, _, equal⟩ := Option.map_eq_some_iff.mp found
      cases equal
      simp
  all_goals
    cases found
    exact Nat.le_refl _

/-- Cuts the text of a pattern into tokens. -/
def Token.ofText (text : Text) : Option (List Token) :=
  match text with
  | [] => some []
  | head :: rest =>
    match _found : readToken head rest with
    | none => none
    | some (token, left) => (Token.ofText left).map (token :: ·)
termination_by text.length
decreasing_by exact Nat.lt_succ_of_le (length_readToken (by assumption))

end Scenarist.Pattern
