import Gatehouse.Text.Utf8

/-!
# Percent coding

A percent sign and two hexadecimal digits stand for one byte. Decoding leaves every
other percent sign as it is; encoding spells out the bytes that may not stand for
themselves, with digits in upper case.

## Main definitions

* `hexValue?`: The value of a hexadecimal digit.
* `percentDecode`: The bytes that a percent-coded text stands for.
* `percentEncode`: The bytes, those outside a set spelled out.
-/

namespace Gatehouse.Text

/-- The byte of an ASCII character. -/
def asciiByte (c : Char) : UInt8 := UInt8.ofNat c.toNat

/-- The character of an ASCII byte. -/
def asciiChar (b : UInt8) : Char := Char.ofNat b.toNat

/-- The value of a hexadecimal digit in either case. -/
def hexValue? (b : UInt8) : Option UInt8 :=
  if 48 ≤ b && b ≤ 57 then some (b - 48)
  else if 65 ≤ b && b ≤ 70 then some (b - 55)
  else if 97 ≤ b && b ≤ 102 then some (b - 87)
  else none

/-- The upper-case hexadecimal digit of a value below sixteen. -/
def hexDigit (n : UInt8) : UInt8 :=
  if n < 10 then n + 48 else n + 55

/-- The bytes that a percent-coded text stands for. -/
def percentDecode : Bytes → Bytes
  | [] => []
  | [b] => [b]
  | [b, c] => [b, c]
  | b :: c :: d :: rest =>
    if b = 37 then
      -- A percent sign without two digits stands for itself.
      match hexValue? c, hexValue? d with
      | some high, some low => (high * 16 + low) :: percentDecode rest
      | _, _ => b :: percentDecode (c :: d :: rest)
    else b :: percentDecode (c :: d :: rest)

/-- A byte spelled as a percent sign and two digits. -/
def percentByte (b : UInt8) : Bytes :=
  [37, hexDigit (b / 16), hexDigit (b % 16)]

/-- The bytes, those that may not stand for themselves spelled out. -/
def percentEncode (plain : UInt8 → Bool) (bytes : Bytes) : Bytes :=
  bytes.flatMap fun b => if plain b then [b] else percentByte b

/-- ASCII letters and digits. -/
def isAlphanumericByte (b : UInt8) : Bool :=
  (48 ≤ b && b ≤ 57) || (65 ≤ b && b ≤ 90) || (97 ≤ b && b ≤ 122)

end Gatehouse.Text
