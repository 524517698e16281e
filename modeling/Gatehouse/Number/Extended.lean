import Gatehouse.Number.Shortest

/-!
# Binary64 with its special values

The values of a binary64 computation: finite numbers, the two infinities, and one value
that is no number. A decimal gives the nearest number, which is infinite beyond the
format.

## Main definitions

* `Extended`: The values.
* `Extended.ofDecimal`: The value nearest to a decimal.
* `Extended.text`: The shortest written form, without a power of ten.
* `Extended.toUInt64`: The nearest word of 64 bits.
-/

namespace Gatehouse

/-- A value of a binary64 computation. -/
inductive Extended where
  | finite (x : Binary64)
  | infinite (negative : Bool)
  | undefined
  deriving DecidableEq, Repr

namespace Extended

/-- Where decimals become infinite or zero for certain: this many places before or after
the point. -/
def placeLimit : Int := 400

/-- The value nearest to `± n * 10 ^ power`. -/
def ofDecimal (negative : Bool) (n : Nat) (power : Int) : Extended :=
  let places : Int := (Nat.toDigits 10 n).length + power
  if n = 0 || places < -placeLimit then finite (Binary64.zeroOf negative)
  else if placeLimit < places then infinite negative
  else
    let (num, den) := Shortest.gridRatio n power
    match Binary64.ofRatio? negative num den with
    | some x => finite x
    | none => infinite negative

/-- Digits with the point among or around them; none when nothing follows it. -/
def plain (digits : List Char) (point : Int) : List Char :=
  if point ≤ 0 then '0' :: '.' :: List.replicate (-point).toNat '0' ++ digits
  else
    let whole := point.toNat
    let padded := digits ++ List.replicate (whole - digits.length) '0'
    let fraction := padded.drop whole
    padded.take whole ++ (if fraction.isEmpty then [] else '.' :: fraction)

/-- The shortest text that reads back, without a power of ten. -/
def text : Extended → String
  | undefined => "NaN"
  | infinite negative => if negative then "-inf" else "inf"
  | finite x =>
    let body := if x.isZero then ['0'] else plain (Shortest.digits x).1 (Shortest.digits x).2
    String.ofList (if x.negative then '-' :: body else body)

/-- The nearest word of 64 bits, a half rounded up; the least or the greatest one beyond
them, and the least one for no number. -/
def toUInt64 : Extended → UInt64
  | undefined => 0
  | infinite negative => if negative then 0 else UInt64.ofNat (UInt64.size - 1)
  | finite x =>
    if x.negative then 0
    else UInt64.ofNat (min ((2 * x.num + x.den) / (2 * x.den)) (UInt64.size - 1))

example : plain ['5'] 1 = ['5'] ∧ plain ['2', '5'] 0 = ['0', '.', '2', '5'] := by decide

example : (ofDecimal true 5 400).text = "-inf" := by decide +kernel

example : (ofDecimal false 25 (-1)).toUInt64 = 3 := by decide +kernel

end Extended

end Gatehouse
