import Gatehouse.Settings.Setting
import Gatehouse.Text.Numeral
import Gatehouse.Text.Reader

/-!
# Places in a configuration

A place is reached by names between dots and by positions in brackets. Putting a value at a
place makes the tables and lists on the way there.

## Main definitions

* `Place`: The way to a value.
* `Place.ofText`: The place that a text spells.
* `Setting.putAt`: A tree with a value at a place.
-/

namespace Gatehouse

/-- One step on the way to a value: into a table, or into a list. -/
inductive Place.Step where
  | name (s : String)
  | position (n : Int)
  deriving DecidableEq, Repr

/-- The way to a value. -/
abbrev Place := List Place.Step

namespace Place

open Text

/-- The characters of names. -/
def isNameChar (c : Char) : Bool := c.isAlphanum || c == ' ' || c == '_' || c == '-'

/-- The characters that may stand around a position. -/
def isSpace (c : Char) : Bool := c == ' ' || c == '\t' || c == '\n' || c == '\r'

/-- A name at the front of a text. -/
def readName : Reader Step := fun text =>
  match Reader.span isNameChar text with
  | ([], _) => none
  | (name, rest) => some (.name (String.ofList name), rest)

/-- The position that signed digits spell, unless it is beyond 64 bits. -/
def positionOf? (text : List Char) : Option Int :=
  let (negative, digits) := match text with
    | '-' :: rest => (true, rest)
    | text => (false, text)
  if digits.isEmpty then none
  else do
    let n ← number? 10 digits
    if negative then (if n ≤ 1 <<< 63 then some (-(n : Int)) else none)
    else if n < 1 <<< 63 then some n else none

/-- A step after the first one. -/
def readStep : Reader Step
  | '.' :: rest => readName rest
  | '[' :: rest => do
    let (inside, rest) := Reader.span (· != ']') rest
    let n ← positionOf? (Text.trimList isSpace inside)
    match rest with
    | ']' :: rest => some (.position n, rest)
    | _ => none
  | _ => none

/-- A name and the steps after it. -/
def read : Reader Place := fun text => do
  let (first, rest) ← readName text
  Reader.repeated (fun steps text =>
    match text with
    | [] => some (.done steps.reverse, [])
    | text => (readStep text).map fun (step, rest) => (.more (step :: steps), rest))
    [first] rest

/-- The place that a text spells; a text that spells none is a single name. -/
def ofText (s : String) : Place :=
  (Reader.whole? read s.toList).getD [.name s]

example : ofText "server.host" = [.name "server", .name "host"] := by cbv

example : ofText "server..host" = [.name "server..host"] := by cbv

end Place

namespace Setting

/-- The index that a position has in a list of a length; negative ones count from the
end. -/
def index (position : Int) (length : Nat) : Nat :=
  match position with
  | .ofNat n => n
  | .negSucc n => length - (n + 1)

/-- The items with one of them changed; the list is made long enough. -/
def alterAt (i : Nat) (f : Setting → Setting) (items : List Setting) : List Setting :=
  (items ++ List.replicate (i + 1 - items.length) missing).modify i f

/-- The items of a list; a value that is no list has none. -/
def items : Setting → List Setting
  | list items => items
  | _ => []

/-- A tree with a value at a place. -/
def putAt (value : Setting) : Place → Setting → Setting
  | [], _ => value
  | [.name s], root => put s value root
  | .name s :: rest, root =>
    table (alter (lower s) (fun held => putAt value rest (held.getD missing)) root.entries)
  | .position n :: rest, root =>
    list (alterAt (index n root.items.length) (putAt value rest) root.items)

end Setting

end Gatehouse
