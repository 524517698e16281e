import Gatehouse.Json.Basic

/-!
# Text of documents

A document is written without blanks. In a text the quote, the backslash and the
control characters are escaped, the common ones by a letter and the others by four
hexadecimal digits; all else stands for itself.

## Main definitions

* `Json.escape`: What is written for one character.
* `Json.bytes`: The written form of a document.
-/

namespace Gatehouse

namespace Json

/-- What is written for one character of a text. -/
def escape (c : Char) : List Char :=
  if c = '"' then ['\\', '"']
  else if c = '\\' then ['\\', '\\']
  else if c.toNat = 8 then ['\\', 'b']
  else if c.toNat = 9 then ['\\', 't']
  else if c.toNat = 10 then ['\\', 'n']
  else if c.toNat = 12 then ['\\', 'f']
  else if c.toNat = 13 then ['\\', 'r']
  else if c.toNat < 32 then
    ['\\', 'u', '0', '0', Nat.digitChar (c.toNat / 16), Nat.digitChar (c.toNat % 16)]
  else [c]

/-- A text between quotes. -/
def quoted (s : String) : List Char :=
  '"' :: (s.toList.flatMap escape ++ ['"'])

/-- What opens an object. -/
def openBrace : Char := '\x7b'

/-- What closes an object. -/
def closeBrace : Char := '\x7d'

mutual

/-- The characters of a document. -/
def chars : Json → List Char
  | null => ['n', 'u', 'l', 'l']
  | bool true => ['t', 'r', 'u', 'e']
  | bool false => ['f', 'a', 'l', 's', 'e']
  | number n => n.text.toList
  | string s => quoted s
  | array items => '[' :: itemChars items
  | object members => openBrace :: memberChars members

/-- The characters of the items of a list and of its end. -/
def itemChars : List Json → List Char
  | [] => [']']
  | [value] => chars value ++ [']']
  | value :: rest => chars value ++ ',' :: itemChars rest

/-- The characters of the members of an object and of its end. -/
def memberChars : List (String × Json) → List Char
  | [] => [closeBrace]
  | [(name, value)] => quoted name ++ ':' :: (chars value ++ [closeBrace])
  | (name, value) :: rest => quoted name ++ ':' :: (chars value ++ ',' :: memberChars rest)

end

/-- The written form of a document as a text. -/
def text (v : Json) : String := String.ofList v.chars

/-- The written form of a document. -/
def bytes (v : Json) : Bytes := Text.utf8 v.text

end Json

end Gatehouse
