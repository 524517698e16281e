import Gatehouse.Text.Form
import Gatehouse.Text.Numeral
import Gatehouse.Url.Coding

/-!
# Hosts

A host is a name, a number of 32 bits in up to four parts, or a number of 128 bits in
brackets. Names are kept in lower case, those of other scripts as they are written.

## Main definitions

* `Url.Host`: The hosts.
* `Url.Host.ofText?`: The host that a text spells.
* `Url.Host.text`: The written form.
-/

namespace Gatehouse.Url

/-- A host. -/
inductive Host where
  | name (text : List Char)
  | four (value : Nat)
  | six (pieces : List Nat)
  deriving DecidableEq

namespace Host

/-- The number that a part spells, in base ten, or in base eight or sixteen after a mark. -/
def part? : List Char → Option Nat
  | [] => none
  | ['0'] => some 0
  | '0' :: 'x' :: digits | '0' :: 'X' :: digits => Text.number? 16 digits
  | '0' :: digits => Text.number? 8 digits
  | digits => Text.number? 10 digits

/-- The parts of a text between dots, without an empty last one. -/
def parts (text : List Char) : List (List Char) :=
  match (Text.splitOn '.' text).reverse with
  | [] :: rest@(_ :: _) => rest.reverse
  | all => all.reverse

/-- Whether a text has to be a number: its last part is one. -/
def endsInNumber (text : List Char) : Bool :=
  match (parts text).getLast? with
  | none => false
  | some last => (!last.isEmpty && last.all Char.isDigit) || (part? last).isSome

/-- The number of 32 bits that up to four parts spell; the last one fills what the others
leave. -/
def four? (text : List Char) : Option Nat := do
  let numbers ← (parts text).mapM part?
  match numbers.reverse with
  | [] => none
  | last :: rest =>
    let left := 8 * (4 - rest.length)
    if 3 < rest.length || rest.any (255 < ·) || 1 <<< left ≤ last then none
    else some (rest.reverse.foldl (fun n p => n * 256 + p) 0 <<< left + last)

/-- A byte in base ten without leading zeros. -/
def byte? (digits : List Char) : Option Nat :=
  if digits.isEmpty || (digits.head? = some '0' && digits.length ≠ 1) then none
  else (Text.number? 10 digits).filter (· < 256)

/-- The two pieces that four bytes between dots make. -/
def dotted? (text : List Char) : Option (List Nat) :=
  match (Text.splitOn '.' text).mapM byte? with
  | some [a, b, c, d] => some [a * 256 + b, c * 256 + d]
  | _ => none

/-- A piece of one to four hexadecimal digits. -/
def piece? (digits : List Char) : Option Nat :=
  if digits.isEmpty || 4 < digits.length then none else Text.number? 16 digits

/-- The pieces between colons, the last one possibly four bytes between dots. -/
def pieces? : List (List Char) → Option (List Nat)
  | [] => some []
  | [last] => if last.contains '.' then dotted? last else (piece? last).map ([·])
  | digits :: rest => do
    let piece ← piece? digits
    let pieces ← pieces? rest
    some (piece :: pieces)

/-- The pieces of a text, which may be empty. -/
def side? (text : List Char) : Option (List Nat) :=
  if text.isEmpty then some [] else pieces? (Text.splitOn ':' text)

/-- What stands before and after the first double colon. -/
def splitGap : List Char → Option (List Char × List Char)
  | [] => none
  | ':' :: ':' :: rest => some ([], rest)
  | c :: rest => (splitGap rest).map fun (before, after) => (c :: before, after)

/-- The eight pieces that a text spells; a double colon stands for the zeros that are left
out. -/
def six? (text : List Char) : Option (List Nat) :=
  match splitGap text with
  | none => (side? text).filter (·.length = 8)
  | some (before, after) => do
    let first ← side? before
    let last ← side? after
    if before.contains '.' || 7 < first.length + last.length then none
    else some (first ++ List.replicate (8 - first.length - last.length) 0 ++ last)

/-- What no name can hold. -/
def isForbidden (c : Char) : Bool :=
  c.toNat ≤ 0x20 || c.toNat = 0x7F || "#/:<>?@[\\]^|%".toList.contains c

/-- The host that a name of a known scheme spells, coded characters decoded. -/
def known? (text : List Char) : Option Host :=
  let decoded := Text.ofUtf8Lossy (Text.percentDecode (Text.utf8 (String.ofList text)))
  let name := decoded.toList.map Char.toLower
  if name.isEmpty || name.any isForbidden then none
  else if endsInNumber name then (four? name).map four
  else some (.name name)

/-- The host that a text spells. Under a scheme that is not known, a name is taken as it
is. -/
def ofText? (known : Bool) (text : List Char) : Option Host :=
  match text with
  | '[' :: rest =>
    if rest.getLast? = some ']' then (six? rest.dropLast).map six else none
  | _ =>
    if known then known? text
    else if text.any fun c => isForbidden c && c != '%' then none
    else some (.name (spell isUnprintable text))

/-- The number of 32 bits as four bytes between dots. -/
def fourText (value : Nat) : List Char :=
  Text.joinWith '.'
    ([value >>> 24, value >>> 16 % 256, value >>> 8 % 256, value % 256].map
      (Nat.toDigits 10))

/-- The lengths of the runs of zeros that start at each piece. -/
def zeroRuns : List Nat → List Nat
  | [] => []
  | piece :: rest =>
    let runs := zeroRuns rest
    (if piece = 0 then runs.headD 0 + 1 else 0) :: runs

/-- The pieces between colons, the first of the longest runs of two or more zeros left
out. -/
def sixText (pieces : List Nat) : List Char :=
  let runs := zeroRuns pieces
  let longest := runs.foldl max 0
  let between (side : List Nat) : List Char := Text.joinWith ':' (side.map (Nat.toDigits 16))
  if longest < 2 then between pieces
  else
    let first := runs.findIdx (· = longest)
    between (pieces.take first) ++ [':', ':'] ++ between (pieces.drop (first + longest))

/-- The written form. -/
def text : Host → List Char
  | name text => text
  | four value => fourText value
  | six pieces => '[' :: (sixText pieces ++ [']'])

end Host

end Gatehouse.Url
