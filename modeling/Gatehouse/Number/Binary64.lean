/-!
# Binary64 numbers

Finite numbers of the binary64 format as exact integers: a sign, a significand below
`2 ^ 53` and a power of two. Every operation computes the exact quotient first and
rounds it once, to the nearest number and to the even one of two equally near.

## Main definitions

* `Binary64`: A finite number of the format.
* `roundHalfEven`: The integer nearest to a quotient.
* `Binary64.ofRatio?`: The number nearest to a quotient, unless it is too large.
* `Binary64.mul?`, `Binary64.div?`: Product and quotient, rounded once.
* `Binary64.powTen?`: The number nearest to a power of ten.
-/

namespace Gatehouse

/-- A finite binary64 number, `± significand * 2 ^ exponent`. -/
structure Binary64 where
  negative : Bool
  significand : Nat
  exponent : Int
  deriving DecidableEq, Repr

/-- The integer nearest to `num / den`, the even one of two equally near. -/
def roundHalfEven (num den : Nat) : Nat :=
  let quotient := num / den
  let twice := 2 * (num % den)
  if twice < den || (twice == den && quotient % 2 == 0) then quotient else quotient + 1

namespace Binary64

/-- The least exponent of the format. -/
def minExponent : Int := -1074

/-- The greatest exponent of the format. -/
def maxExponent : Int := 971

/-- Zero with a sign. -/
def zeroOf (negative : Bool) : Binary64 := ⟨negative, 0, minExponent⟩

/-- Whether the number is a zero of either sign. -/
def isZero (x : Binary64) : Bool := x.significand == 0

/-- The number with its sign changed. -/
def neg (x : Binary64) : Binary64 := { x with negative := !x.negative }

/-- The exponent at which a positive quotient has a significand of 53 bits, or the least
exponent when that would be smaller. -/
def exponentOf (num den : Nat) : Int :=
  let guess : Int := (num.log2 : Int) - den.log2 - 52
  let scaled := guess + 52
  let small := if 0 ≤ scaled then num < den <<< scaled.toNat
    else num <<< (-scaled).toNat < den
  max minExponent (if small then guess - 1 else guess)

/-- The number nearest to `num / den`, or nothing when that is beyond the format. -/
def ofRatio? (negative : Bool) (num den : Nat) : Option Binary64 :=
  if num == 0 then some (zeroOf negative)
  else
    let exponent := exponentOf num den
    let significand := if 0 ≤ exponent then roundHalfEven num (den <<< exponent.toNat)
      else roundHalfEven (num <<< (-exponent).toNat) den
    let result : Binary64 := if significand == 1 <<< 53 then ⟨negative, 1 <<< 52, exponent + 1⟩
      else ⟨negative, significand, exponent⟩
    if maxExponent < result.exponent then none else some result

/-- Numerator of the magnitude. -/
def num (x : Binary64) : Nat := x.significand <<< x.exponent.toNat

/-- Denominator of the magnitude. -/
def den (x : Binary64) : Nat := 1 <<< (-x.exponent).toNat

/-- The product, rounded once. -/
def mul? (x y : Binary64) : Option Binary64 :=
  ofRatio? (x.negative != y.negative) (x.num * y.num) (x.den * y.den)

/-- The quotient, rounded once; the divisor is no zero. -/
def div? (x y : Binary64) : Option Binary64 :=
  ofRatio? (x.negative != y.negative) (x.num * y.den) (x.den * y.num)

/-- The number nearest to a natural number. -/
def ofNat? (n : Nat) : Option Binary64 := ofRatio? false n 1

/-- The number nearest to a power of ten. -/
def powTen? (k : Nat) : Option Binary64 := ofNat? (Nat.pow 10 k)

example : ofRatio? false 1 10 = some ⟨false, 7205759403792794, -56⟩ := by decide

example : ofRatio? false 1 (2 ^ 1074) = some ⟨false, 1, -1074⟩ := by decide +kernel

example : ofNat? (2 ^ 1024) = none := by decide +kernel

end Binary64

end Gatehouse
