import Gatehouse.Number.Binary64

/-!
# Shortest decimal text

A binary64 number is written with the fewest significant digits that still read back as
the same number, and of two such decimals with the nearer one. The digits are found on
the decimal grids of 1, 2, … 17 digits: on each grid only the two neighbours of the
number can be candidates.

## Main definitions

* `Shortest.reads`: Whether a decimal reads back as the number.
* `Shortest.digits`: The shortest digits and the position of the point.
* `Binary64.text`: The written form.
-/

namespace Gatehouse

namespace Shortest

/-- A grid of decimals: all multiples of `10 ^ step`. -/
abbrev Grid := Int

/-- Numerator and denominator of `n * 10 ^ step`. -/
def gridRatio (n : Nat) (step : Grid) : Nat × Nat :=
  if 0 ≤ step then (n * Nat.pow 10 step.toNat, 1) else (n, Nat.pow 10 (-step).toNat)

/-- Whether `num / den` lies where all reals round to `x`. The interval is half as wide
below a power of two, and holds its ends when the significand is even. -/
def reads (x : Binary64) (num den : Nat) : Bool :=
  let narrow := x.significand == 1 <<< 52 && Binary64.minExponent < x.exponent
  -- All in quarters of a unit in the last place.
  let value := 4 * num * x.den
  let unit := den <<< x.exponent.toNat
  let low := (4 * x.significand - (if narrow then 1 else 2)) * unit
  let high := (4 * x.significand + 2) * unit
  if x.significand % 2 == 0 then low ≤ value && value ≤ high else low < value && value < high

/-- The number of digits before the point of a positive quotient, negative when zeros
follow the point. `fuel` bounds the search upwards from `k`. -/
def pointFrom (num den : Nat) : Nat → Int → Int
  | 0, k => k
  | fuel + 1, k =>
    let (n, d) := gridRatio 1 k
    if num * d < n * den then k else pointFrom num den fuel (k + 1)

/-- The least `k` with `x < 10 ^ k`. -/
def point (x : Binary64) : Int := pointFrom x.num x.den 700 (-330)

/-- The neighbours of `x` on a grid that read back, the nearer one first; of two equally
near the even one is first. -/
def candidates (x : Binary64) (step : Grid) : List Nat :=
  let (scaleNum, scaleDen) := gridRatio 1 step
  let num := x.num * scaleDen
  let den := x.den * scaleNum
  let below := num / den
  let rest := 2 * (num % den)
  let first := if rest < den || (rest == den && below % 2 == 0) then [below, below + 1]
    else [below + 1, below]
  first.filter fun n =>
    let (a, b) := gridRatio n step
    n != 0 && reads x a b

/-- The first candidate on the grids of `n`, `n + 1`, … digits, with its grid. -/
def search (x : Binary64) (point : Int) : Nat → Nat → Option (Nat × Grid)
  | 0, _ => none
  | fuel + 1, n =>
    let step := point - n
    match candidates x step with
    | best :: _ => some (best, step)
    | [] => search x point fuel (n + 1)

/-- Digits without the zeros at their end. -/
def stripZeros (digits : List Char) : List Char :=
  (digits.reverse.dropWhile (· == '0')).reverse

/-- The significant digits of a number other than zero, and how many of them stand before
the point. -/
def digits (x : Binary64) : List Char × Int :=
  let k := point x
  let (n, step) := (search x k 17 1).getD (0, 0)
  let all := Nat.toDigits 10 n
  (stripZeros all, all.length + step)

end Shortest

namespace Binary64

/-- The digits with the point among or around them, at least one digit after it. -/
def positional (digits : List Char) (point : Int) : List Char :=
  if point ≤ 0 then '0' :: '.' :: List.replicate (-point).toNat '0' ++ digits
  else
    let whole := point.toNat
    let padded := digits ++ List.replicate (whole - digits.length) '0'
    let fraction := padded.drop whole
    padded.take whole ++ '.' :: (if fraction.isEmpty then ['0'] else fraction)

/-- One digit before the point, the others after it, and a signed power of ten. -/
def scientific (digits : List Char) (point : Int) : List Char :=
  let mantissa := match digits with
    | [] => ['0']
    | [d] => [d]
    | d :: rest => d :: '.' :: rest
  let power := point - 1
  mantissa ++ 'e' :: (if power < 0 then '-' else '+') :: Nat.toDigits 10 power.natAbs

/-- The shortest text that reads back. From `10 ^ -5` up to `10 ^ 16` numbers are written
positionally, all others with a power of ten. -/
def text (x : Binary64) : String :=
  let sign := if x.negative then ['-'] else []
  let body :=
    if x.isZero then ['0', '.', '0']
    else
      let (digits, point) := Shortest.digits x
      if -5 < point && point ≤ 16 then positional digits point else scientific digits point
  String.ofList (sign ++ body)

end Binary64

end Gatehouse
