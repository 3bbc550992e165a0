import Mathlib.Data.Rat.Cast.Defs
import Scenarist.Proofs.Json.Strings
import Scenarist.Proofs.Text.Numbers
import Scenarist.Proofs.Text.Trimming

/-! # Tokens of a Json text

Reading takes any text of the standard, and not only the compact ones that a dump
is made of: whitespace between tokens, the literals, negative numbers, fractions
and powers of ten, and every way to write a character of a string. What a value
is cut into at first are the marks that give it structure, and the scalars. -/

namespace Scenarist.Json

/-- A value of the standard. An object has its fields in the order they are written in. -/
inductive Value where
  | null
  | boolean (value : Bool)
  | number (value : Rat)
  | string (text : Text)
  | array (items : List Value)
  | object (fields : List (Text × Value))

inductive Token where
  | mark (character : Char)
  | scalar (value : Value)

/-! ## Numbers and literals -/

def readDigits (digits : Text) : Option Nat := do
  guard (digits ≠ [] && digits.all Char.isDigit)
  return Nat.ofDigitChars 10 digits 0

/-- A whole number has no zero before its other digits. -/
def readWhole (digits : Text) : Option Nat := do
  guard (digits.head? ≠ some '0' || digits.length = 1)
  readDigits digits

def readFraction : Text → Option Rat
  | [] => some 0
  | _ :: digits => do
    return (← readDigits digits) / 10 ^ digits.length

def readExponent : Text → Option Int
  | [] => some 0
  | _ :: '-' :: digits => do
    return -(← readDigits digits)
  | _ :: '+' :: digits => do
    return ← readDigits digits
  | _ :: digits => do
    return ← readDigits digits

def beginsExponent (character : Char) : Bool :=
  character = 'e' || character = 'E'

/-- A whole number, with a fraction from the point on and a power of ten from the letter on. -/
def readMagnitude (word : Text) : Option Rat := do
  let (decimal, power) := Text.cutWhile (fun character => !beginsExponent character) word
  let (whole, fraction) := Text.cutWhile (fun character => character ≠ '.') decimal
  return ((← readWhole whole) + (← readFraction fraction)) * 10 ^ (← readExponent power)

def readNumber : Text → Option Rat
  | '-' :: word => do
    return -(← readMagnitude word)
  | word => readMagnitude word

def readWord (word : Text) : Option Value :=
  if word = ("null" : Text) then some .null
  else if word = ("true" : Text) then some (.boolean true)
  else if word = ("false" : Text) then some (.boolean false)
  else (readNumber word).map .number

/-! ## Texts -/

def isSpace (character : Char) : Bool :=
  character = ' ' || character = '\t' || character = '\n' || character = '\r'

def isMark (character : Char) : Bool :=
  character = '[' || character = ']' || character = '\x7b' || character = '\x7d' ||
    character = ':' || character = ','

def endsWord (character : Char) : Bool :=
  isSpace character || isMark character || character = '"'

def inWord (character : Char) : Bool :=
  !endsWord character

/-- The tokens of a text. What stands between whitespace, marks and strings is a word. -/
def readTokens (text : Text) : Option (List Token) :=
  match text with
  | [] => some []
  | head :: rest =>
    if isSpace head then
      readTokens rest
    else if isMark head then do
      return .mark head :: (← readTokens rest)
    else if head = '"' then do
      let (text, left) ← readString rest
      return .scalar (.string text) :: (← readTokens left.val)
    else do
      let value ← readWord (head :: rest.takeWhile inWord)
      return .scalar value :: (← readTokens (rest.dropWhile inWord))
termination_by text.length
decreasing_by
  · simp
  · simp
  · simp [Nat.lt_succ_of_lt left.property]
  · simp [Nat.lt_succ_of_le (List.dropWhile_suffix inWord).length_le]

/-! ## Numbers as a dump writes them -/

theorem readDigits_ofNat (value : Nat) : readDigits (Text.ofNat value) = some value := by
  have areDigits : (Text.ofNat value).all Char.isDigit = true :=
    List.all_eq_true.mpr fun _ => Text.isDigit_of_mem_ofNat
  rw [readDigits, areDigits, decide_eq_true (Text.ofNat_ne_nil value), Text.ofNat,
    Nat.ofDigitChars_ten_toDigits]
  rfl

theorem readWhole_ofNat (value : Nat) : readWhole (Text.ofNat value) = some value := by
  have noZero : (Text.ofNat value).head? ≠ some '0' ∨ (Text.ofNat value).length = 1 := by
    cases value with
    | zero => exact .inr rfl
    | succ value => exact .inl (Text.head?_ofNat value.succ_pos)
  have allowed : (decide ((Text.ofNat value).head? ≠ some '0') ||
      decide ((Text.ofNat value).length = 1)) = true := by
    simpa using noZero
  rw [readWhole, allowed, readDigits_ofNat]
  rfl

theorem readMagnitude_ofNat (value : Nat) :
    readMagnitude (Text.ofNat value) = some (value : Rat) := by
  have noExponent : ∀ digit ∈ Text.ofNat value, (!beginsExponent digit) = true := by
    intro digit member
    have notSmall : digit ≠ 'e' := Text.ne_of_mem_ofNat member rfl
    have notLarge : digit ≠ 'E' := Text.ne_of_mem_ofNat member rfl
    simp [beginsExponent, notSmall, notLarge]
  have noPoint : ∀ digit ∈ Text.ofNat value, decide (digit ≠ '.') = true := fun _ member =>
    decide_eq_true (Text.ne_of_mem_ofNat member rfl)
  rw [readMagnitude, Text.cutWhile_of_all noExponent]
  dsimp only
  rw [Text.cutWhile_of_all noPoint]
  simp [readWhole_ofNat, readFraction, readExponent]

theorem readWord_ofNat (value : Nat) :
    readWord (Text.ofNat value) = some (.number (value : Rat)) := by
  have unlike : ∀ {head : Char} {rest : Text}, head.isDigit = false →
      Text.ofNat value ≠ head :: rest := by
    intro head rest notDigit equal
    exact Text.ne_of_mem_ofNat (equal ▸ List.mem_cons_self) notDigit rfl
  have notNull : Text.ofNat value ≠ ("null" : Text) := @unlike 'n' ("ull" : Text) rfl
  have notTrue : Text.ofNat value ≠ ("true" : Text) := @unlike 't' ("rue" : Text) rfl
  have notFalse : Text.ofNat value ≠ ("false" : Text) := @unlike 'f' ("alse" : Text) rfl
  have isNumber : readNumber (Text.ofNat value) = some (value : Rat) := by
    rw [readNumber, readMagnitude_ofNat]
    exact fun _ => unlike rfl
  rw [readWord, if_neg notNull, if_neg notTrue, if_neg notFalse, isNumber]
  rfl

/-! ## Tokens as a dump writes them -/

theorem readTokens_mark {mark : Char} (isMark : isMark mark = true) (rest : Text) :
    readTokens (mark :: rest) = (readTokens rest).map (Token.mark mark :: ·) := by
  have notSpace : isSpace mark = false := by
    simp only [Json.isMark, Bool.or_eq_true, decide_eq_true_eq] at isMark
    rcases isMark with ((((rfl | rfl) | rfl) | rfl) | rfl) | rfl <;> rfl
  rw [readTokens, notSpace, isMark]
  cases readTokens rest <;> rfl

theorem readTokens_renderString (text rest : Text) :
    readTokens (renderString text ++ rest) =
      (readTokens rest).map (Token.scalar (.string text) :: ·) := by
  have quoted : renderString text ++ rest = '"' :: (text.flatMap escape ++ '"' :: rest) := by
    simp [renderString]
  rcases readString_flatMap_escape text rest with ⟨fewer, reads⟩
  rw [quoted, readTokens, reads]
  simp only [isSpace, isMark, Option.bind_eq_bind, Option.bind_some]
  cases readTokens rest <;> rfl

theorem isDigit_of_endsWord {character : Char} (ends : endsWord character = true) :
    character.isDigit = false := by
  simp only [endsWord, isSpace, isMark, Bool.or_eq_true, decide_eq_true_eq] at ends
  rcases ends with ((((rfl | rfl) | rfl) | rfl) | (((((rfl | rfl) | rfl) | rfl) | rfl) | rfl)) | rfl
  all_goals rfl

theorem endsWord_of_mem_ofNat {value : Nat} {digit : Char} (member : digit ∈ Text.ofNat value) :
    endsWord digit = false := by
  by_contra ends
  have notDigit := isDigit_of_endsWord (Bool.eq_true_of_not_eq_false ends)
  exact Text.ne_of_mem_ofNat member notDigit rfl

/-- A number ends where a word ends. -/
theorem readTokens_ofNat {rest : Text} (ends : ∀ head ∈ rest.head?, endsWord head = true)
    (value : Nat) :
    readTokens (Text.ofNat value ++ rest) =
      (readTokens rest).map (Token.scalar (.number value) :: ·) := by
  have ⟨head, digits, whole⟩ := List.exists_cons_of_ne_nil (Text.ofNat_ne_nil value)
  have inNumber : ∀ digit ∈ head :: digits, endsWord digit = false :=
    fun _ member => endsWord_of_mem_ofNat (whole ▸ member)
  have goOn : ∀ digit ∈ digits, inWord digit = true := by
    intro digit member
    rw [inWord, inNumber digit (List.mem_cons_of_mem head member), Bool.not_false]
  have stops : ∀ next ∈ rest.head?, inWord next = false := by
    intro next first
    rw [inWord, ends next first, Bool.not_true]
  have cut : Text.cutWhile inWord (digits ++ rest) = (digits, rest) :=
    Text.cutWhile_append goOn stops
  have isWord : readWord (head :: digits) = some (.number value) := whole ▸ readWord_ofNat value
  rcases Prod.mk.inj cut with ⟨taken, left⟩
  have headInNumber := inNumber head List.mem_cons_self
  simp only [endsWord, Bool.or_eq_false_iff, decide_eq_false_iff_not] at headInNumber
  rcases headInNumber with ⟨⟨notSpace, notMark⟩, notQuote⟩
  rw [whole, List.cons_append, readTokens, notSpace, notMark, if_neg notQuote, taken, left, isWord]
  cases readTokens rest <;> rfl

end Scenarist.Json
