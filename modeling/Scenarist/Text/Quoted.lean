import Scenarist.Text.Unprintable

/-! # Quoted texts

A text between quotation marks, as diagnostics show it: marks, backslashes and
the common controls by short escapes, other unprintable characters by their
code in braces. -/

namespace Scenarist.Text

def escapeCode (character : Char) : Text :=
  ['\\', 'u', '{'] ++ Nat.toDigits 16 character.toNat ++ ['}']

def quoteCharacter (character : Char) : Text :=
  if character = '\x00' then ['\\', '0']
  else if character = '\t' then ['\\', 't']
  else if character = '\n' then ['\\', 'n']
  else if character = '\r' then ['\\', 'r']
  else if character = '\\' || character = '"' then ['\\', character]
  else if isUnprintable character then escapeCode character
  else [character]

/-- The text in quotation marks. -/
def quoted (text : Text) : Text :=
  ['"'] ++ text.flatMap quoteCharacter ++ ['"']

end Scenarist.Text
