import Scenarist.Json
import Scenarist.Remainder

/-! # Strings of a Json text

A string is made of characters and of code units, which are numbers of four
hexadecimal digits. Characters beyond these numbers are written as two units.
Every way to write a character is read, and of these ways a dump uses one for
each character. -/

namespace Scenarist.Json

inductive Piece where
  | character (character : Char)
  | unit (code : Nat)
deriving DecidableEq

def digitValue (digit : Char) : Option Nat :=
  if digit.isDigit then some (digit.toNat - '0'.toNat)
  else if 'a' ≤ digit && digit ≤ 'f' then some (digit.toNat - 'a'.toNat + 10)
  else if 'A' ≤ digit && digit ≤ 'F' then some (digit.toNat - 'A'.toNat + 10)
  else none

def unitOfDigits (digits : Text) : Option Nat :=
  (digits.mapM digitValue).map (List.foldl (fun code digit => 16 * code + digit) 0)

/-- The character that a letter behind a backslash stands for. -/
def escaped : Char → Option Char
  | '"' => some '"'
  | '\\' => some '\\'
  | '/' => some '/'
  | 'b' => some '\x08'
  | 'f' => some '\x0C'
  | 'n' => some '\n'
  | 'r' => some '\r'
  | 't' => some '\t'
  | _ => none

def isControl (character : Char) : Bool :=
  character.toNat < 32

def Piece.before (piece : Piece) : List Piece × Text → List Piece × Text
  | (pieces, left) => (piece :: pieces, left)

/-- The pieces up to the quotation mark that closes the string, and the text behind it. -/
def readPieces : Text → Option (List Piece × Text)
  | [] => none
  | '"' :: rest => some ([], rest)
  | '\\' :: 'u' :: first :: second :: third :: fourth :: rest => do
    let code ← unitOfDigits [first, second, third, fourth]
    (readPieces rest).map (Piece.unit code).before
  | '\\' :: letter :: rest => do
    let character ← escaped letter
    (readPieces rest).map (Piece.character character).before
  | head :: rest =>
    if isControl head then none else (readPieces rest).map (Piece.character head).before

def isFirstHalf (code : Nat) : Bool :=
  0xD800 ≤ code && code < 0xDC00

def isSecondHalf (code : Nat) : Bool :=
  0xDC00 ≤ code && code < 0xE000

def characterOfHalves (first second : Nat) : Char :=
  Char.ofNat (0x10000 + 0x400 * (first - 0xD800) + (second - 0xDC00))

/-- A first half must come before a second half, and a second half behind a first. -/
def joinHalves : List Piece → Option Text
  | [] => some []
  | .character character :: rest => (joinHalves rest).map (character :: ·)
  | .unit code :: rest =>
    if isFirstHalf code then
      match rest with
      | .unit second :: rest =>
        if isSecondHalf second then
          (joinHalves rest).map (characterOfHalves code second :: ·)
        else
          none
      | _ => none
    else if isSecondHalf code then
      none
    else
      (joinHalves rest).map (Char.ofNat code :: ·)

theorem exists_of_map_before {piece : Piece} {result : Option (List Piece × Text)}
    {pieces : List Piece} {left : Text} (reads : result.map piece.before = some (pieces, left)) :
    ∃ others, result = some (others, left) := by
  rcases Option.map_eq_some_iff.mp reads with ⟨⟨others, behind⟩, readsRest, equal⟩
  cases equal
  exact ⟨others, readsRest⟩

theorem length_lt_of_readPieces {text left : Text} {pieces : List Piece}
    (reads : readPieces text = some (pieces, left)) : left.length < text.length := by
  fun_induction readPieces text generalizing pieces with
  | case1 => cases reads
  | case2 rest =>
      cases reads
      simp
  | case3 first second third fourth rest induction =>
      rcases Option.bind_eq_some_iff.mp reads with ⟨code, -, readsRest⟩
      rcases exists_of_map_before readsRest with ⟨others, readsRest⟩
      have fewer := induction readsRest
      simp only [List.length_cons]
      omega
  | case4 letter rest notUnit induction =>
      rcases Option.bind_eq_some_iff.mp reads with ⟨character, -, readsRest⟩
      rcases exists_of_map_before readsRest with ⟨others, readsRest⟩
      have fewer := induction readsRest
      simp only [List.length_cons]
      omega
  | case5 => cases reads
  | case6 head rest notQuote notUnit notEscaped notControl induction =>
      rcases exists_of_map_before reads with ⟨others, readsRest⟩
      have fewer := induction readsRest
      simp only [List.length_cons]
      omega

/-- A string up to the quotation mark that closes it, and the text behind it. -/
def readString (text : Text) : Option (Text × Fewer text) :=
  match reads : readPieces text with
  | none => none
  | some (pieces, left) => do
    return (← joinHalves pieces, ⟨left, length_lt_of_readPieces reads⟩)

/-! ## Strings as a dump writes them -/

theorem readPieces_letter {letter character : Char} (stands : escaped letter = some character)
    (rest : Text) :
    readPieces ('\\' :: letter :: rest) =
      (readPieces rest).map (Piece.character character).before := by
  rw [readPieces, stands]
  · rfl
  · intro _ _ _ _ _ isUnit _
    subst isUnit
    cases stands

theorem unitOfDigits_hexDigits : ∀ code < 32, (hexDigits 4 code).length = 4 ∧
    unitOfDigits (hexDigits 4 code) = some code := by
  decide

theorem readPieces_hexDigits {code : Nat} (control : code < 32) (rest : Text) :
    readPieces ('\\' :: 'u' :: (hexDigits 4 code ++ rest)) =
      (readPieces rest).map (Piece.unit code).before := by
  rcases unitOfDigits_hexDigits code control with ⟨four, reads⟩
  match digits : hexDigits 4 code, four with
  | [first, second, third, fourth], _ =>
      rw [digits] at reads
      simp only [List.cons_append, List.nil_append]
      rw [readPieces, reads]
      rfl

theorem readPieces_plain {head : Char} (notQuote : head ≠ '"') (notBackslash : head ≠ '\\')
    (notControl : isControl head = false) (rest : Text) :
    readPieces (head :: rest) = (readPieces rest).map (Piece.character head).before := by
  rw [readPieces, notControl]
  · rfl
  · exact notQuote
  · exact fun _ _ _ _ _ backslash => absurd backslash notBackslash
  · exact fun _ _ backslash => absurd backslash notBackslash

theorem joinHalves_control {code : Nat} (control : code < 32) (pieces : List Piece) :
    joinHalves (.unit code :: pieces) = (joinHalves pieces).map (Char.ofNat code :: ·) := by
  have notFirst : isFirstHalf code = false := by
    simp only [isFirstHalf, Bool.and_eq_false_iff, decide_eq_false_iff_not]
    omega
  have notSecond : isSecondHalf code = false := by
    simp only [isSecondHalf, Bool.and_eq_false_iff, decide_eq_false_iff_not]
    omega
  rw [joinHalves.eq_def]
  simp only [notFirst, notSecond, Bool.false_eq_true, if_false]

/-- A character is written with a letter of its own, with its number, or as it is. -/
theorem escape_cases (character : Char) :
    (∃ letter, escaped letter = some character ∧ escape character = ['\\', letter]) ∨
    (character.toNat < 32 ∧
      escape character = '\\' :: 'u' :: hexDigits 4 character.toNat) ∨
    (character ≠ '"' ∧ character ≠ '\\' ∧ isControl character = false ∧
      escape character = [character]) := by
  by_cases lettered : character ∈ ['"', '\\', '\x08', '\x0C', '\n', '\r', '\t']
  · simp only [List.mem_cons, List.not_mem_nil, or_false] at lettered
    left
    rcases lettered with rfl | rfl | rfl | rfl | rfl | rfl | rfl
    · exact ⟨'"', rfl, rfl⟩
    · exact ⟨'\\', rfl, rfl⟩
    · exact ⟨'b', rfl, rfl⟩
    · exact ⟨'f', rfl, rfl⟩
    · exact ⟨'n', rfl, rfl⟩
    · exact ⟨'r', rfl, rfl⟩
    · exact ⟨'t', rfl, rfl⟩
  · simp only [List.mem_cons, List.not_mem_nil, or_false, not_or] at lettered
    rcases lettered with ⟨notQuote, notBackslash, others⟩
    right
    by_cases control : character.toNat < 32
    · refine .inl ⟨control, ?_⟩
      simp [escape, notQuote, notBackslash, others, control]
    · refine .inr ⟨notQuote, notBackslash, decide_eq_false control, ?_⟩
      simp [escape, notQuote, notBackslash, others, control]

/-- What is written for a character is read as one piece, which makes up the character. -/
theorem exists_piece_of_escape (character : Char) : ∃ piece : Piece,
    (∀ rest, readPieces (escape character ++ rest) = (readPieces rest).map piece.before) ∧
    ∀ pieces, joinHalves (piece :: pieces) = (joinHalves pieces).map (character :: ·) := by
  rcases escape_cases character with ⟨letter, stands, escapes⟩ | ⟨control, escapes⟩ |
    ⟨notQuote, notBackslash, notControl, escapes⟩
  · rw [escapes]
    exact ⟨.character character, readPieces_letter stands, fun _ => joinHalves.eq_def _⟩
  · rw [escapes]
    refine ⟨.unit character.toNat, readPieces_hexDigits control, fun pieces => ?_⟩
    rw [joinHalves_control control, Char.ofNat_toNat]
  · rw [escapes]
    exact ⟨.character character, readPieces_plain notQuote notBackslash notControl,
      fun _ => joinHalves.eq_def _⟩

/-- What is written for a text is read as pieces that make up the text. -/
theorem exists_pieces_of_flatMap_escape (text rest : Text) : ∃ pieces,
    readPieces (text.flatMap escape ++ '"' :: rest) = some (pieces, rest) ∧
    joinHalves pieces = some text := by
  induction text with
  | nil => exact ⟨[], rfl, rfl⟩
  | cons head text induction =>
      rcases exists_piece_of_escape head with ⟨piece, readsHead, joinsHead⟩
      rcases induction with ⟨pieces, reads, joins⟩
      refine ⟨piece :: pieces, ?_, ?_⟩
      · rw [List.flatMap_cons, List.append_assoc, readsHead, reads]
        rfl
      · rw [joinsHead, joins]
        rfl

theorem readString_flatMap_escape (text rest : Text) : ∃ fewer,
    readString (text.flatMap escape ++ '"' :: rest) = some (text, ⟨rest, fewer⟩) := by
  rcases exists_pieces_of_flatMap_escape text rest with ⟨pieces, reads, joins⟩
  refine ⟨length_lt_of_readPieces reads, ?_⟩
  rw [readString]
  split
  · next nothing => simp [reads] at nothing
  · next others left readsOthers =>
      obtain ⟨rfl, rfl⟩ : pieces = others ∧ rest = left := by
        simpa [reads] using readsOthers
      rw [joins]
      rfl

theorem lineFeed_not_mem_escape (character : Char) : '\n' ∉ escape character := by
  have feedless : ∀ code < 32, '\n' ∉ '\\' :: 'u' :: hexDigits 4 code := by decide
  rcases escape_cases character with ⟨letter, stands, escapes⟩ | ⟨control, escapes⟩ |
    ⟨-, -, notControl, escapes⟩
  · rw [escapes]
    intro member
    obtain rfl : '\n' = letter := by simpa using member
    cases stands
  · rw [escapes]
    exact feedless character.toNat control
  · rw [escapes]
    intro member
    obtain rfl : '\n' = character := by simpa using member
    cases notControl

theorem lineFeed_not_mem_renderString (text : Text) : '\n' ∉ renderString text := by
  simp [renderString, lineFeed_not_mem_escape]

end Scenarist.Json
