import Scenarist.Text.Line
import Scenarist.Text.Space

/-! # Function declarations

Recognises the line that opens a function and reads the function's name from
it. The line may begin with a visibility, with or without a parenthesised
part, and with `async`. The keyword is `func`, `fn` or `def`, a parenthesised
receiver may follow it, and the name is followed by an opening bracket. -/

namespace Scenarist.Comment

open Text

/-! Each part answers the text after it. An optional part that is absent
leaves the text as it is. -/

def skip (part : Text → Option Text) (text : Text) : Text :=
  (part text).getD text

def afterClosing : Text → Option Text
  | [] => none
  | head :: rest => if head = ')' then some rest else afterClosing rest

def parenthesised : Text → Option Text
  | [] => none
  | head :: rest => if head = '(' then afterClosing rest else none

/-! At least one blank, and all that follow it. -/

def spaced : Text → Option Text
  | [] => none
  | head :: rest => if isBlank head then some (dropBlanks rest) else none

def visibility (text : Text) : Option Text := do
  spaced (skip parenthesised (← strip "pub" text))

def asynchronous (text : Text) : Option Text := do
  spaced (← strip "async" text)

def functionKeyword (text : Text) : Option Text := do
  spaced (← strip "func" text <|> strip "fn" text <|> strip "def" text)

def receiver (text : Text) : Option Text := do
  return dropBlanks (← parenthesised text)

def startsName (character : Char) : Bool :=
  character.isAlpha || character = '_'

def continuesName (character : Char) : Bool :=
  character.isAlphanum || character = '_'

def opensList (character : Char) : Bool :=
  character = '(' || character = '<' || character = '['

/-! A name counts only if an opening bracket follows it. -/

def boundName : Text → Option Text
  | [] => none
  | head :: rest =>
    if startsName head then
      match dropBlanks (rest.dropWhile continuesName) with
      | [] => none
      | next :: _ =>
        if opensList next then some (head :: rest.takeWhile continuesName) else none
    else
      none

def nameInLine (line : Text) : Option Text := do
  let rest := skip asynchronous (skip visibility (dropBlanks line))
  boundName (skip receiver (← functionKeyword rest))

/-- The name of the function that the first line of a text declares. -/
def declaredName (text : Text) : Option Text :=
  (lines text).head? >>= nameInLine

example : declaredName "func (s *Suite) Test_login(t *T) \x7b" =
    some ("Test_login" : Text) := by decide

example : declaredName "pub(crate) async fn parse<T>(t: T)" =
    some ("parse" : Text) := by decide

example : declaredName "\nfn late()" = none := by decide

end Scenarist.Comment
