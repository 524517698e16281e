/-!
# Readers

A reader takes something from the front of a text and leaves the rest, or finds nothing
that it can take. Repetition goes on as long as every round leaves less than it found, so
it always comes to an end.

## Main definitions

* `Reader`: What takes something from the front of a text.
* `Reader.repeated`: Rounds of a step that says when it is done.
* `Reader.span`: The characters of a kind at the front.
* `Reader.whole?`: What a reader makes of an entire text.
-/

namespace Gatehouse.Text

/-- What takes something from the front of a text and leaves the rest. -/
abbrev Reader (α : Type) := List Char → Option (α × List Char)

/-- What a round leaves: the state to go on with, or the result. -/
inductive Round (σ α : Type) where
  | more (state : σ)
  | done (result : α)

namespace Reader

/-- Rounds of a step until it is done. A round that takes nothing and is not done fails. -/
def repeated {σ α : Type} (step : σ → Reader (Round σ α)) (state : σ) : Reader α := fun text =>
  match step state text with
  | none => none
  | some (.done result, rest) => some (result, rest)
  | some (.more state, rest) =>
    if _h : rest.length < text.length then repeated step state rest else none
termination_by text => text.length

/-- The characters of a kind at the front of a text, and the rest. -/
def span (p : Char → Bool) (text : List Char) : List Char × List Char :=
  (text.takeWhile p, text.dropWhile p)

/-- What a reader makes of an entire text. -/
def whole? {α : Type} (reader : Reader α) (text : List Char) : Option α :=
  match reader text with
  | some (a, []) => some a
  | _ => none

end Reader

end Gatehouse.Text
