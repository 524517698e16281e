import Gatehouse.Text.Utf8

/-!
# Base64

The standard alphabet with padding. Three bytes make four characters; a last group of
one or two bytes is filled up with `=`. Decoding is strict: only what encoding
produces is accepted, so every byte string has one written form.

## Main definitions

* `base64Digit`, `base64Value?`: The alphabet, both ways.
* `base64Encode`: The written form of bytes.
* `base64Decode?`: The bytes of a written form.
-/

namespace Gatehouse.Text

/-- The character for a value below 64. -/
def base64Digit (n : Nat) : Char :=
  if n < 26 then Char.ofNat (65 + n)
  else if n < 52 then Char.ofNat (97 + (n - 26))
  else if n < 62 then Char.ofNat (48 + (n - 52))
  else if n = 62 then '+' else '/'

/-- The value of a character of the alphabet. -/
def base64Value? (c : Char) : Option Nat :=
  let n := c.toNat
  if 65 ≤ n && n ≤ 90 then some (n - 65)
  else if 97 ≤ n && n ≤ 122 then some (n - 97 + 26)
  else if 48 ≤ n && n ≤ 57 then some (n - 48 + 52)
  else if c = '+' then some 62
  else if c = '/' then some 63
  else none

/-- The written form of bytes. -/
def base64Encode : Bytes → List Char
  | [] => []
  | [a] =>
    [base64Digit (a.toNat / 4), base64Digit (a.toNat % 4 * 16), '=', '=']
  | [a, b] =>
    [base64Digit (a.toNat / 4), base64Digit (a.toNat % 4 * 16 + b.toNat / 16),
      base64Digit (b.toNat % 16 * 4), '=']
  | a :: b :: c :: rest =>
    base64Digit (a.toNat / 4) :: base64Digit (a.toNat % 4 * 16 + b.toNat / 16) ::
      base64Digit (b.toNat % 16 * 4 + c.toNat / 64) :: base64Digit (c.toNat % 64) ::
      base64Encode rest

/-- The bytes of a last group, which may be filled up; the bits that padding leaves
over must be zero. -/
def base64Last? (p q r s : Char) : Option Bytes := do
  let a ← base64Value? p
  let b ← base64Value? q
  if s = '=' then
    if r = '=' then
      if b % 16 = 0 then some [UInt8.ofNat (a * 4 + b / 16)] else none
    else
      let c ← base64Value? r
      if c % 4 = 0 then
        some [UInt8.ofNat (a * 4 + b / 16), UInt8.ofNat (b % 16 * 16 + c / 4)]
      else none
  else
    let c ← base64Value? r
    let d ← base64Value? s
    some [UInt8.ofNat (a * 4 + b / 16), UInt8.ofNat (b % 16 * 16 + c / 4),
      UInt8.ofNat (c % 4 * 64 + d)]

/-- The bytes of a written form, or nothing when it is none. -/
def base64Decode? : List Char → Option Bytes
  | [] => some []
  | [p, q, r, s] => base64Last? p q r s
  | p :: q :: r :: s :: rest => do
    let a ← base64Value? p
    let b ← base64Value? q
    let c ← base64Value? r
    let d ← base64Value? s
    let bytes ← base64Decode? rest
    some (UInt8.ofNat (a * 4 + b / 16) :: UInt8.ofNat (b % 16 * 16 + c / 4) ::
      UInt8.ofNat (c % 4 * 64 + d) :: bytes)
  | _ => none

example : base64Encode [77, 97] = ['T', 'W', 'E', '='] := by decide

example : base64Decode? ['A', 'B', '=', '='] = none := by decide

end Gatehouse.Text
