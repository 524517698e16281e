import Gatehouse.Json.Tree

/-!
# Records

A record is read from a written document in one of two forms: an object, whose members
are told by name, or a list, whose items are told by place. Members that the record does
not know are skipped whatever they hold, but a known member may stand there only once.

## Main definitions

* `Tree.fields?`: What stands for each field of a record.
* `Tree.text?`, `Tree.flag?`, `Tree.count?`, `Tree.items?`: The values of fields.
* `Tree.optional?`, `Tree.orElse?`: Fields that may be absent.
* `Json.tree`: A document as it would be written.
-/

namespace Gatehouse

namespace Tree

/-- The values that stand under one name. -/
def under (name : String) (members : List (Option String × Tree)) : List Tree :=
  (members.filter (·.1 = some name)).map (·.2)

/-- The only value that stands under a name, if there is one; nothing when there are
more. -/
def single? (name : String) (members : List (Option String × Tree)) :
    Option (Option Tree) :=
  match under name members with
  | [] => some none
  | [tree] => some (some tree)
  | _ => none

/-- What stands for each of the named fields. A list may stop early, but not before its
first `least` items, and may not be longer than the record. -/
def fields? (names : List String) (least : Nat) : Tree → Option (List (Option Tree))
  | .array items =>
    if least ≤ items.length && items.length ≤ names.length then
      some (items.map some ++ List.replicate (names.length - items.length) none)
    else none
  | .object members =>
    if members.all (·.1.isSome) then names.mapM (single? · members) else none
  | _ => none

/-- The text that a tree is. -/
def text? : Tree → Option String
  | .string s => s
  | _ => none

/-- The truth value that a tree is. -/
def flag? : Tree → Option Bool
  | .bool b => some b
  | _ => none

/-- The 64-bit number that a tree is. -/
def count? : Tree → Option UInt64
  | .number (some n) => n.toUInt64?
  | _ => none

/-- The list that a tree is, each item read. -/
def items? {α : Type} (read : Tree → Option α) : Tree → Option (List α)
  | .array items => items.mapM read
  | _ => none

/-- The value of a field that may be absent or null. -/
def optional? {α : Type} (read : Tree → Option α) : Option Tree → Option (Option α)
  | none | some .null => some none
  | some tree => (read tree).map some

/-- The value of a field that has a default. -/
def orElse? {α : Type} (default : α) (read : Tree → Option α) : Option Tree → Option α
  | none => some default
  | some tree => read tree

end Tree

namespace Json

mutual

/-- A document as it would be written. -/
def tree : Json → Tree
  | .null => .null
  | .bool b => .bool b
  | .number n => .number (some n)
  | .string s => .string (some s)
  | .array items => .array (trees items)
  | .object members => .object (namedTrees members)

/-- Documents as they would be written. -/
def trees : List Json → List Tree
  | [] => []
  | value :: rest => tree value :: trees rest

/-- Named documents as they would be written. -/
def namedTrees : List (String × Json) → List (Option String × Tree)
  | [] => []
  | (name, value) :: rest => (some name, tree value) :: namedTrees rest

end

end Json

end Gatehouse
