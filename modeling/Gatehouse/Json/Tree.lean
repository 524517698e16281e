import Gatehouse.Json.Basic
import Gatehouse.Json.Lexeme

/-!
# Written documents

The tree of a document as it was written: repeated members are all there, and a number
or text without a value may be. It is built from the lexemes by a machine that keeps the
open lists and objects on a stack, so depth costs it nothing. A tree is a document when
everything in it has a value and it is not nested too deeply.

## Main definitions

* `Tree`: Written documents.
* `Frame`: A list or object that is not closed yet.
* `Builder.step`: The effect of one lexeme.
* `Tree.ofBytes?`: The tree that a text is.
* `Json.ofTree?`: The document that a tree is.
* `Json.ofBytes?`: The document that a text is.
-/

namespace Gatehouse

/-- A document as it was written. -/
inductive Tree where
  | null
  | bool (b : Bool)
  | number (n : Option Number)
  | string (s : Option String)
  | array (items : List Tree)
  | object (members : List (Option String × Tree))

instance : Inhabited Tree := ⟨.null⟩

/-- A list or an object with what it holds so far, in reverse; an object also has the
name of the member under way. -/
inductive Frame where
  | array (items : List Tree)
  | object (members : List (Option String × Tree)) (name : Option String)

/-- What has been read and what may come next. -/
inductive Builder where
  /-- A value has to come. -/
  | value (frames : List Frame)
  /-- The first value of a list, or its end. -/
  | firstItem (frames : List Frame)
  /-- The first name of an object, or its end. -/
  | firstName (frames : List Frame) (members : List (Option String × Tree))
  /-- A name has to come. -/
  | nextName (frames : List Frame) (members : List (Option String × Tree))
  /-- The colon after a name. -/
  | colon (frames : List Frame) (members : List (Option String × Tree)) (name : Option String)
  /-- A comma, or the end of the innermost frame. -/
  | next (frame : Frame) (frames : List Frame)
  /-- The document is complete. -/
  | done (tree : Tree)

namespace Builder

/-- The innermost frame takes a value in. -/
def give (value : Tree) : List Frame → Builder
  | [] => done value
  | .array items :: frames => next (.array (value :: items)) frames
  | .object members name :: frames => next (.object ((name, value) :: members) name) frames

/-- The effect of a lexeme where a value has to come. -/
def begin (frames : List Frame) : Lexeme → Option Builder
  | .openArray => some (firstItem frames)
  | .openObject => some (firstName frames [])
  | .null => some (give .null frames)
  | .bool b => some (give (.bool b) frames)
  | .number n => some (give (.number n) frames)
  | .string s => some (give (.string s) frames)
  | _ => none

/-- The effect of one lexeme. -/
def step : Builder → Lexeme → Option Builder
  | value frames, lexeme => begin frames lexeme
  | firstItem frames, .closeArray => some (give (.array []) frames)
  | firstItem frames, lexeme => begin (.array [] :: frames) lexeme
  | firstName frames members, .closeObject => some (give (.object members.reverse) frames)
  | firstName frames members, .string s => some (colon frames members s)
  | nextName frames members, .string s => some (colon frames members s)
  | colon frames members s, .colon => some (value (.object members s :: frames))
  | next (.array items) frames, .comma => some (value (.array items :: frames))
  | next (.array items) frames, .closeArray => some (give (.array items.reverse) frames)
  | next (.object members _) frames, .comma => some (nextName frames members)
  | next (.object members _) frames, .closeObject =>
    some (give (.object members.reverse) frames)
  | _, _ => none

/-- The effect of lexemes in turn. -/
def run : Builder → List Lexeme → Option Builder
  | builder, [] => some builder
  | builder, lexeme :: rest => (step builder lexeme).bind (run · rest)

/-- The complete document. -/
def tree? : Builder → Option Tree
  | done tree => some tree
  | _ => none

end Builder

/-- The tree that a text is, or nothing when it is no document. -/
def Tree.ofBytes? (text : Bytes) : Option Tree := do
  let lexemes ← Lexeme.ofBytes? text
  let builder ← (Builder.value []).run lexemes
  builder.tree?

namespace Json

/-- How many lists and objects a document may be nested in one another. -/
def maxDepth : Nat := 127

mutual

/-- The document that a tree is, nested no deeper than the given depth. -/
def ofTree? (depth : Nat) : Tree → Option Json
  | .null => some .null
  | .bool b => some (.bool b)
  | .number n => n.map .number
  | .string s => s.map .string
  | .array items =>
    match depth with
    | 0 => none
    | depth + 1 => (ofTrees? depth items).map .array
  | .object members =>
    match depth with
    | 0 => none
    | depth + 1 => (ofNamed? depth members).map ofMembers

/-- The documents that trees are. -/
def ofTrees? (depth : Nat) : List Tree → Option (List Json)
  | [] => some []
  | tree :: rest => do
    let value ← ofTree? depth tree
    let values ← ofTrees? depth rest
    some (value :: values)

/-- The named documents that named trees are. -/
def ofNamed? (depth : Nat) : List (Option String × Tree) → Option (List (String × Json))
  | [] => some []
  | (name, tree) :: rest => do
    let name ← name
    let value ← ofTree? depth tree
    let values ← ofNamed? depth rest
    some ((name, value) :: values)

end

/-- The document that a text is. -/
def ofBytes? (text : Bytes) : Option Json :=
  (Tree.ofBytes? text).bind (ofTree? maxDepth)

end Json

end Gatehouse
