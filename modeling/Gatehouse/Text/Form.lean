import Gatehouse.Text.Percent

/-!
# Form coding

Query strings carry names and values as `name=value` joined by `&`. A plus sign stands
for a space, then percent coding applies; bytes that are no UTF-8 are repaired.

## Main definitions

* `splitOn`: The pieces of a list between separators.
* `formDecode`: The pairs that a query string carries.
* `formEncode`: The query string that carries the pairs.

## Theorems

* `joinWith_splitOn`: The pieces with the separators between them are the list.
-/

namespace Gatehouse.Text

/-- The pieces between the separators: one more piece than there are separators. -/
def splitOn {α : Type} [DecidableEq α] (separator : α) : List α → List (List α)
  | [] => [[]]
  | x :: rest =>
    if x = separator then [] :: splitOn separator rest
    else
      match splitOn separator rest with
      | [] => [[x]]
      | piece :: pieces => (x :: piece) :: pieces

/-- What stands before the first separator and what stands after it. -/
def splitFirst {α : Type} [DecidableEq α] (separator : α) : List α → List α × Option (List α)
  | [] => ([], none)
  | x :: rest =>
    if x = separator then ([], some rest)
    else
      let (before, after) := splitFirst separator rest
      (x :: before, after)

/-- The pieces with a separator between each two neighbours. -/
def joinWith {α : Type} (separator : α) : List (List α) → List α
  | [] => []
  | [piece] => piece
  | piece :: pieces => piece ++ separator :: joinWith separator pieces

theorem splitOn_ne_nil {α : Type} [DecidableEq α] (separator : α) (xs : List α) :
    splitOn separator xs ≠ [] := by
  cases xs with
  | nil => simp [splitOn]
  | cons x rest =>
    simp only [splitOn]
    split
    · simp
    · split <;> simp

theorem joinWith_splitOn {α : Type} [DecidableEq α] (separator : α) (xs : List α) :
    joinWith separator (splitOn separator xs) = xs := by
  induction xs with
  | nil => rfl
  | cons x rest ih =>
    simp only [splitOn]
    cases hs : splitOn separator rest with
    | nil => exact absurd hs (splitOn_ne_nil separator rest)
    | cons piece pieces =>
      rw [hs] at ih
      split
      · next h => subst h; simp [joinWith, ih]
      · cases pieces <;> simpa [joinWith] using ih

/-- The text of one coded name or value. -/
def formText (coded : Bytes) : String :=
  ofUtf8Lossy (percentDecode (coded.map fun b => if b = 43 then 32 else b))

/-- The pairs that a query string carries; a piece without `=` has an empty value, and
empty pieces carry nothing. -/
def formDecode (query : Bytes) : List (String × String) :=
  ((splitOn 38 query).filter (!·.isEmpty)).map fun piece =>
    let (name, value) := splitFirst 61 piece
    (formText name, formText (value.getD []))

/-- Bytes that stand for themselves in a form: letters, digits, `*`, `-`, `.` and `_`. -/
def isFormPlain (b : UInt8) : Bool :=
  isAlphanumericByte b || b == 42 || b == 45 || b == 46 || b == 95

/-- One coded name or value. -/
def formPiece (s : String) : Bytes :=
  (utf8 s).flatMap fun b =>
    if isFormPlain b then [b] else if b = 32 then [43] else percentByte b

/-- The query string that carries the pairs. -/
def formEncode (pairs : List (String × String)) : Bytes :=
  joinWith 38 (pairs.map fun (name, value) => formPiece name ++ 61 :: formPiece value)

end Gatehouse.Text
