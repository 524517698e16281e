import Gatehouse.Settings.Setting
import Gatehouse.Toml.Moment
import Gatehouse.Toml.Quoted

/-!
# Scalars in configuration files

Texts, truth values, moments and numbers. A moment is kept as its written form. Digits may
be grouped by underscores between them. Integers have 64 bits and may be written in base
two, eight or sixteen; a number with a fraction or an exponent is a binary64 number, which
must not be too large.

## Main definitions

* `Toml.grouped`: Digits with underscores between them.
* `Toml.integer`, `Toml.real`, `Toml.scalar`: The kinds of scalars.
-/

namespace Gatehouse.Toml

open Text

/-- The text after a word at its front. -/
def afterWord? (word : String) (text : List Char) : Option (List Char) :=
  if word.toList.isPrefixOf text then some (text.drop word.length) else none

/-- Digits of a base, of which neighbours may have one underscore between them. -/
def grouped (base : Nat) : Reader (List Char) := fun text =>
  let (taken, rest) := Reader.span (fun c => c == '_' || (digit? base c).isSome) text
  if (splitOn '_' taken).any List.isEmpty then none else some (taken.filter (· != '_'), rest)

/-- The sign in front of a number: whether it is a minus. -/
def sign : List Char → Bool × List Char
  | '+' :: rest => (false, rest)
  | '-' :: rest => (true, rest)
  | text => (false, text)

/-- An integer that has 64 bits. -/
def integerOf? (negative : Bool) (n : Nat) : Option Setting :=
  if negative then (if n ≤ 1 <<< 63 then some (.integer (-n)) else none)
  else if n < 1 <<< 63 then some (.integer n) else none

/-- An integer after the mark of its base. -/
def based (base : Nat) : Reader Setting := fun text => do
  let (digits, rest) ← grouped base text
  let n ← number? base digits
  some (← integerOf? false n, rest)

/-- The exponent after its letter. -/
def exponent : Reader Int := fun text => do
  let (negative, rest) := sign text
  let (digits, rest) ← grouped 10 rest
  let n ← number? 10 digits
  some (if negative then -n else n, rest)

/-- The binary64 number of a decimal, unless it is above all of them. -/
def realOf? (negative : Bool) (digits : List Char) (power : Int) : Option Setting := do
  let n ← number? 10 digits
  let x := Extended.ofDecimal negative n power
  if x = .infinite false then none else some (.real x)

/-- What follows the whole part of a number: a fraction, an exponent, both or none. -/
def afterWhole (negative : Bool) (whole : List Char) : Reader Setting := fun text => do
  let (fraction, rest) ← match text with
    | '.' :: rest => (grouped 10 rest).map fun (digits, rest) => (some digits, rest)
    | rest => some (none, rest)
  let digits := whole ++ fraction.getD []
  let places : Int := (fraction.getD []).length
  let withExponent (rest : List Char) : Option (Setting × List Char) := do
    let (power, rest) ← exponent rest
    some (← realOf? negative digits (power - places), rest)
  match rest with
  | 'e' :: rest => withExponent rest
  | 'E' :: rest => withExponent rest
  | rest =>
    if fraction.isSome then some (← realOf? negative digits (-places), rest)
    else some (← integerOf? negative (← number? 10 whole), rest)

/-- A number in base ten; only a lone zero starts with a zero. -/
def decimal (negative : Bool) : Reader Setting := fun text => do
  let (whole, rest) ← grouped 10 text
  if whole.head? = some '0' && whole.length ≠ 1 then none
  else afterWhole negative whole rest

/-- A number. -/
def number : Reader Setting
  | '0' :: 'x' :: rest => based 16 rest
  | '0' :: 'o' :: rest => based 8 rest
  | '0' :: 'b' :: rest => based 2 rest
  | text =>
    let (negative, rest) := sign text
    match afterWord? "inf" rest, afterWord? "nan" rest with
    | some rest, _ => some (.real (.infinite negative), rest)
    | none, some rest => some (.real .undefined, rest)
    | none, none => decimal negative rest

/-- A truth value. -/
def truth : Reader Setting := fun text =>
  match afterWord? "true" text, afterWord? "false" text with
  | some rest, _ => some (.flag true, rest)
  | none, some rest => some (.flag false, rest)
  | none, none => none

/-- A scalar. -/
def scalar : Reader Setting := fun text =>
  ((quoted text).map fun (s, rest) => (.text s, rest)).orElse fun _ =>
    (truth text).orElse fun _ =>
      ((Moment.read text).map fun (m, rest) => (.text m.text, rest)).orElse fun _ =>
        number text

end Gatehouse.Toml
