import Gatehouse.Text.Printable

/-!
# Quoted texts

How a text is shown in a log: between double quotes, with the quote, the backslash and
the unprintable characters escaped.

## Main definitions

* `quoteChar`: The characters that stand for one character.
* `quote`: A text between quotes.
-/

namespace Gatehouse.Text

/-- The digits of a number in lower-case hexadecimal. -/
def lowerHex (n : Nat) : List Char :=
  Nat.toDigits 16 n

/-- What is written for one character between quotes. -/
def quoteChar (c : Char) : List Char :=
  if c = '"' then ['\\', '"']
  else if c = '\\' then ['\\', '\\']
  else if c = '\t' then ['\\', 't']
  else if c = '\n' then ['\\', 'n']
  else if c = '\r' then ['\\', 'r']
  else if c.toNat = 0 then ['\\', '0']
  else if isPrintable c then [c]
  else '\\' :: 'u' :: '\x7b' :: (lowerHex c.toNat ++ ['\x7d'])

/-- A text between double quotes. -/
def quote (s : String) : String :=
  String.ofList ('"' :: (s.toList.flatMap quoteChar ++ ['"']))

end Gatehouse.Text
