import Gatehouse.Toml.Quoted

/-!
# Keys

A key is a path of names between dots. A name is bare, or a text on one line.

## Main definitions

* `Toml.name`: One name.
* `Toml.key`: A path of names.
-/

namespace Gatehouse.Toml

open Text

/-- The characters of bare names. -/
def isBare (c : Char) : Bool := c.isAlphanum || c == '-' || c == '_'

/-- One name. -/
def name : Reader String
  | '"' :: rest => short rest
  | '\'' :: rest => literal rest
  | text =>
    match Reader.span isBare text with
    | ([], _) => none
    | (taken, rest) => some (String.ofList taken, rest)

/-- How many names a key may have at most, and how many lists and tables a value may be
nested in one another. -/
def maxDepth : Nat := 79

/-- A path of names between dots, with the blanks around it. -/
def key : Reader (List String) := fun text => do
  let (names, rest) ← Reader.repeated (fun names text => do
    let (name, rest) ← name (skipBlanks text)
    match skipBlanks rest with
    | '.' :: rest => some (.more (name :: names), rest)
    | rest => some (.done (name :: names).reverse, rest)) [] text
  if names.length ≤ maxDepth then some (names, rest) else none

example : key "a . 'b.c'=".toList = some (["a", "b.c"], ['=']) := by cbv

end Gatehouse.Toml
