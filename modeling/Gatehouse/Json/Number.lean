import Gatehouse.Number.Shortest
import Gatehouse.Text.Utf8

/-!
# Numbers of a document

A numeral without fraction and exponent that fits a 64-bit word is an integer; every
other numeral is a binary64 number. The significand of such a number is gathered in a
word of 64 bits, digits that no longer fit only count as places, and one multiplication
or division by a power of ten gives the value. A value beyond the format is an error.

## Main definitions

* `Number`: An integer or a binary64 number.
* `Number.text`: The written form.
* `Numeral`: The parts of a written number.
* `Numeral.ofBytes?`: The parts that a piece of text has, if it is a numeral.
* `Numeral.number?`: The number that the parts denote.
-/

namespace Gatehouse

/-- A number of a document. -/
inductive Number where
  | integer (n : Int)
  | float (x : Binary64)
  deriving DecidableEq, Repr

namespace Number

/-- The written form of a number. -/
def text : Number → String
  | integer n => toString n
  | float x => x.text

/-- The natural number below `2 ^ 64` that the number is. -/
def toUInt64? : Number → Option UInt64
  | integer (.ofNat n) => if n < UInt64.size then some (UInt64.ofNat n) else none
  | _ => none

/-- The number of a 64-bit word. -/
def ofUInt64 (n : UInt64) : Number := integer n.toNat

end Number

/-- The parts of a written number, digits as their values. The fraction is empty when
there is no point, and the exponent is absent when there is no letter for it. -/
structure Numeral where
  negative : Bool
  whole : List Nat
  fraction : List Nat
  exponent : Option (Bool × List Nat)

namespace Numeral

/-- Whether a byte is a decimal digit. -/
def isDigit (b : UInt8) : Bool := 48 ≤ b && b ≤ 57

/-- The values of the digits at the front and what follows them. -/
def takeDigits (text : Bytes) : List Nat × Bytes :=
  ((text.takeWhile isDigit).map fun b => b.toNat - 48, text.dropWhile isDigit)

/-- The exponent that a text consists of: nothing, or a letter, a sign and digits. -/
def exponentOf? : Bytes → Option (Option (Bool × List Nat))
  | [] => some none
  | b :: rest =>
    if b = 101 || b = 69 then
      let (negative, rest) := match rest with
        | 43 :: rest => (false, rest)
        | 45 :: rest => (true, rest)
        | rest => (false, rest)
      match takeDigits rest with
      | ([], _) => none
      | (digits, []) => some (some (negative, digits))
      | _ => none
    else none

/-- The parts of a piece of text, or nothing when it is no numeral. Only a lone zero
starts with a zero, and a point has a digit on either side. -/
def ofBytes? (text : Bytes) : Option Numeral :=
  let (negative, text) := match text with
    | 45 :: rest => (true, rest)
    | text => (false, text)
  match takeDigits text with
  | ([], _) => none
  | (0 :: _ :: _, _) => none
  | (whole, 46 :: rest) =>
    match takeDigits rest with
    | ([], _) => none
    | (fraction, rest) => (exponentOf? rest).map (⟨negative, whole, fraction, ·⟩)
  | (whole, rest) => (exponentOf? rest).map (⟨negative, whole, [], ·⟩)

/-- Appends digits to a significand as long as it fits 64 bits, and counts the digits
that are left. -/
def gather (significand : Nat) : List Nat → Nat × Nat
  | [] => (significand, 0)
  | d :: rest =>
    let next := significand * 10 + d
    if next < UInt64.size then gather next rest else (significand, rest.length + 1)

/-- The number that digits spell. -/
def value (digits : List Nat) : Nat := digits.foldl (fun n d => n * 10 + d) 0

/-- `x` divided by `10 ^ 308` a number of times, or until nothing is left of it. -/
def lower? : Nat → Binary64 → Option Binary64
  | 0, x => some x
  | times + 1, x =>
    if x.isZero then some x
    else (Binary64.powTen? 308).bind fun p => (x.div? p).bind (lower? times)

/-- `x * 10 ^ power`, by one multiplication or division; a power below those of the
format is taken in several steps. -/
def scale? (x : Binary64) (power : Int) : Option Binary64 :=
  let times := (-power - 1).toNat / 308
  let power := power + 308 * times
  (lower? times x).bind fun x =>
    if x.isZero then some x
    else if power < 0 then (Binary64.powTen? (-power).toNat).bind x.div?
    else if power ≤ 308 then (Binary64.powTen? power.toNat).bind x.mul?
    else none

/-- The binary64 number with these signed parts. An exponent too large for a 32-bit word
makes the number zero or refuses it. -/
def float? (negative : Bool) (significand : Nat) (power : Int)
    (exponent : Option (Bool × List Nat)) : Option Binary64 :=
  let signed (x : Binary64) : Binary64 := { x with negative := negative }
  match exponent with
  | none => ((Binary64.ofNat? significand).bind (scale? · power)).map signed
  | some (down, digits) =>
    let n := value digits
    if n < 1 <<< 31 then
      let power := if down then power - n else power + n
      ((Binary64.ofNat? significand).bind (scale? · power)).map signed
    else if significand = 0 || down then some (Binary64.zeroOf negative)
    else none

/-- The number that the parts denote, or nothing when it is beyond the format. -/
def number? (n : Numeral) : Option Number :=
  let (significand, left) := gather 0 n.whole
  if n.fraction.isEmpty && n.exponent.isNone && left = 0 then
    if !n.negative then some (.integer significand)
    -- A negative zero is no integer, and the least signed word is one.
    else if significand ≠ 0 && significand ≤ 1 <<< 63 then some (.integer (-significand))
    else (Binary64.ofNat? significand).map fun x => .float { x with negative := true }
  else
    let (significand, skipped) := gather significand n.fraction
    let power : Int := left - (n.fraction.length - skipped)
    (float? n.negative significand power n.exponent).map .float

end Numeral

end Gatehouse
