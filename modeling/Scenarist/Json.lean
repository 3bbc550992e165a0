import Scenarist.Text.Basic

/-! # Json

The values a dump is made of, and their compact text: no whitespace, fields in
the order they are given in. -/

namespace Scenarist

/-- A value of a dump. -/
inductive Json where
  | number (value : Nat)
  | string (text : Text)
  | array (items : List Json)
  | object (fields : List (Text × Json))

namespace Json

/-! A string escapes quotation marks, backslashes and control characters. -/

def hexDigits (width value : Nat) : Text :=
  let digits := Nat.toDigits 16 value
  List.replicate (width - digits.length) '0' ++ digits

def escape (character : Char) : Text :=
  if character = '"' || character = '\\' then ['\\', character]
  else if character = '\x08' then ['\\', 'b']
  else if character = '\x0C' then ['\\', 'f']
  else if character = '\n' then ['\\', 'n']
  else if character = '\r' then ['\\', 'r']
  else if character = '\t' then ['\\', 't']
  else if character.toNat < 32 then ['\\', 'u'] ++ hexDigits 4 character.toNat
  else [character]

def renderString (text : Text) : Text :=
  ['"'] ++ text.flatMap escape ++ ['"']

mutual

def render : Json → Text
  | .number value => Text.ofNat value
  | .string text => renderString text
  | .array items => ['['] ++ renderItems items ++ [']']
  | .object fields => ['{'] ++ renderFields fields ++ ['}']

def renderItems : List Json → Text
  | [] => []
  | [item] => item.render
  | item :: rest => item.render ++ [','] ++ renderItems rest

def renderFields : List (Text × Json) → Text
  | [] => []
  | [(name, value)] => renderString name ++ [':'] ++ value.render
  | (name, value) :: rest =>
    renderString name ++ [':'] ++ value.render ++ [','] ++ renderFields rest

end

def strings (texts : List Text) : Json :=
  .array (texts.map .string)

end Json

end Scenarist
