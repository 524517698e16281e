import Gatehouse.Number.Extended
import Gatehouse.Params

/-!
# Configuration values

A configuration is a tree: tables whose entries have names, lists, and scalars. Names do
not differ by case. A tree is filled from several sources in turn; a table that comes in
adds to the one that is there, everything else replaces what is there.

## Main definitions

* `Setting`: The trees.
* `Setting.put`: A tree with a value under a name.
* `Setting.member?`: The part of a tree that a field is read from.
* `Setting.text?`, `Setting.natural?`: Scalars as what a field wants.
-/

namespace Gatehouse

/-- A value of a configuration. -/
inductive Setting where
  | missing
  | flag (b : Bool)
  | integer (n : Int)
  | real (x : Extended)
  | text (s : String)
  | list (items : List Setting)
  | table (entries : List (String × Setting))

instance : Inhabited Setting := ⟨.missing⟩

namespace Setting

/-- A character in lower case, as far as that is an ASCII letter. Besides the capitals of
ASCII that is so for the sign of the kelvin. -/
def lowerChar (c : Char) : Char := if c.toNat = 0x212A then 'k' else c.toLower

/-- A name as it is kept. -/
def lower (name : String) : String := String.ofList (name.toList.map lowerChar)

/-- The entries with the one of a name changed; a new one comes last. -/
def alter (name : String) (f : Option Setting → Setting) :
    List (String × Setting) → List (String × Setting)
  | [] => [(name, f none)]
  | (key, value) :: rest =>
    if key = name then (key, f (some value)) :: rest else (key, value) :: alter name f rest

/-- The entries of a table; a value that is no table has none. -/
def entries : Setting → List (String × Setting)
  | table entries => entries
  | _ => []

mutual

/-- A tree with a value under a name. A tree that is no table gives way to one. -/
def put (name : String) (value root : Setting) : Setting :=
  match value with
  | table added =>
    table (alter (lower name) (fun held => putAll added (held.getD (table []))) root.entries)
  | value => table (alter (lower name) (fun _ => value) root.entries)

/-- A tree with several values under their names. -/
def putAll (added : List (String × Setting)) (root : Setting) : Setting :=
  match added with
  | [] => root
  | (name, value) :: rest => putAll rest (put name value root)

end

/-- The part of a tree that a field is read from: the entry of its name in a table, the
item at its position in a list. -/
def member? (name : String) (position : Nat) : Setting → Option Setting
  | table entries => entries.lookup name
  | list items => items[position]?
  | _ => none

/-- A scalar as a text. -/
def text? : Setting → Option String
  | text s => some s
  | flag b => some (if b then "true" else "false")
  | integer n => some (toString n)
  | real x => some x.text
  | _ => none

/-- The word of 64 bits that a text stands for: a numeral, or one or zero as a word. -/
def naturalOfText? (s : String) : Option UInt64 :=
  if ["true", "on", "yes"].contains (lower s) then some 1
  else if ["false", "off", "no"].contains (lower s) then some 0
  else Params.natOfText? s

/-- A scalar as a word of 64 bits. -/
def natural? : Setting → Option UInt64
  | text s => naturalOfText? s
  | flag b => some (if b then 1 else 0)
  | integer (.ofNat n) => if n < UInt64.size then some (UInt64.ofNat n) else none
  | real x => some x.toUInt64
  | _ => none

end Setting

end Gatehouse
