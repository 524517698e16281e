import Gatehouse.Url.Host

/-!
# Addresses to listen on

Where a gateway can listen: a host given by numbers, never by a name, and a number of 16
bits after a colon. A host of 128 bits stands in brackets and may name the network that it
belongs to.

## Main definitions

* `Socket`: Such an address.
* `Socket.ofText?`: The address that a text spells.
-/

namespace Gatehouse

/-- A host, the network that it belongs to, and a number of 16 bits. -/
structure Socket where
  host : Url.Host
  network : Nat
  number : Nat
  deriving DecidableEq

namespace Socket

/-- The number below a bound that decimal digits spell. -/
def numberBelow? (bound : Nat) (digits : List Char) : Option Nat :=
  if digits.isEmpty then none else (Text.number? 10 digits).filter (· < bound)

/-- A host of 32 bits: four bytes in base ten between dots. -/
def four? (text : List Char) : Option Url.Host :=
  match Url.Host.dotted? text with
  | some [high, low] => some (.four (high <<< 16 + low))
  | _ => none

/-- What stands in brackets: a host of 128 bits, and the number of a network after a
percent sign. -/
def bracketed? (text : List Char) : Option (Url.Host × Nat) := do
  let (host, network) := Text.splitFirst '%' text
  let pieces ← Url.Host.six? host
  match network with
  | none => some (.six pieces, 0)
  | some digits => some (.six pieces, ← numberBelow? UInt32.size digits)

/-- The address that a text spells, or nothing when it is none. -/
def ofText? (text : String) : Option Socket :=
  match text.toList with
  | '[' :: rest => do
    let (inside, rest) := Text.splitFirst ']' rest
    let (host, network) ← bracketed? inside
    match rest with
    | some (':' :: digits) => some ⟨host, network, ← numberBelow? UInt16.size digits⟩
    | _ => none
  | text => do
    let (host, digits) := Text.splitFirst ':' text
    some ⟨← four? host, 0, ← numberBelow? UInt16.size (← digits)⟩

example : ofText? "127.0.0.1:80" = some ⟨.four 0x7F000001, 0, 80⟩ := by decide +kernel

example : ofText? "::1:80" = none := by decide +kernel

end Socket

end Gatehouse
