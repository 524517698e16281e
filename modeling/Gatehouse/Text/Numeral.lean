import Gatehouse.Text.Percent

/-!
# Numerals

Numbers in positional notation, in any base up to sixteen, letters of either case standing
for the digits from ten on.

## Main definitions

* `digit?`: The value of a digit.
* `number?`: The number that digits spell.

## Theorems

* `number?_append`: Digits after others count for as many places less.
-/

namespace Gatehouse.Text

/-- The value of a digit in a base up to sixteen. -/
def digit? (base : Nat) (c : Char) : Option Nat :=
  (hexValue? (asciiByte c)).bind fun v =>
    if c.toNat < 128 && v.toNat < base then some v.toNat else none

/-- The number that goes on from another one with more digits. -/
def numberFrom? (base n : Nat) (digits : List Char) : Option Nat :=
  digits.foldlM (fun n c => (digit? base c).map (n * base + ·)) n

/-- The number that digits spell; no digits spell zero. -/
def number? (base : Nat) (digits : List Char) : Option Nat := numberFrom? base 0 digits

theorem number?_append (base : Nat) (front back : List Char) :
    number? base (front ++ back) = (number? base front).bind (numberFrom? base · back) := by
  simp only [number?, numberFrom?, List.foldlM_append]
  rfl

example : number? 16 ['f', 'F'] = some 255 := by decide

example : number? 8 ['8'] = none := by decide

end Gatehouse.Text
