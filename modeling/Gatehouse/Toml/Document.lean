import Gatehouse.Toml.Draft
import Gatehouse.Toml.Key
import Gatehouse.Toml.Scalar

/-!
# Configuration files

A file has one thing on each line: the header of a table, a key with its value, or nothing
but a comment. Values are scalars, lists, which may go on over several lines, and tables
in braces.

## Main definitions

* `Toml.value`: A value.
* `Toml.line`: The effect of one line.
* `Toml.ofText?`: The entries of a file.
-/

namespace Gatehouse.Toml

open Text

/-- The items of a list and its closing bracket. The last item may have a comma. -/
def items (item : Reader Setting) : Reader Setting := Reader.repeated (fun taken text => do
  match ← skipSpace text with
  | ']' :: rest => some (.done (.list taken.reverse), rest)
  | text =>
    let (v, rest) ← item text
    match ← skipSpace rest with
    | ',' :: rest => some (.more (v :: taken), rest)
    | ']' :: rest => some (.done (.list (v :: taken).reverse), rest)
    | _ => none) []

/-- A key, the equals sign and the value. -/
def pair (item : Reader Setting) : Reader (List String × Setting) := fun text => do
  let (path, rest) ← key text
  match rest with
  | '=' :: rest => (item (skipBlanks rest)).map fun (v, rest) => ((path, v), rest)
  | _ => none

/-- The entries of a table in braces and the closing brace. The last one has no comma. -/
def braced (item : Reader Setting) : Reader Setting := fun text =>
  match skipBlanks text with
  | '\x7d' :: rest => some (.table [], rest)
  | text => Reader.repeated (fun draft text => do
      let ((path, v), rest) ← pair item text
      let draft ← Draft.define path v .opened draft
      match skipBlanks rest with
      | ',' :: rest => some (.more draft, rest)
      | '\x7d' :: rest => some (.done (.table (Draft.settings draft)), rest)
      | _ => none) ([] : Draft) text

/-- A value with at most so many lists and tables in one another. -/
def value : Nat → Reader Setting
  | 0 => scalar
  | depth + 1 => fun text =>
    match text with
    | '[' :: rest => items (value depth) rest
    | '\x7b' :: rest => braced (value depth) rest
    | text => scalar text

/-- What has been read of a file, and the path of the table that is open. -/
structure Progress where
  draft : Draft
  path : List String

/-- The effect of a header. -/
def header (progress : Progress) : Reader Progress
  | '[' :: '[' :: rest => do
    let (path, rest) ← key rest
    let draft ← progress.draft.openItem path
    match rest with
    | ']' :: ']' :: rest => some (⟨draft, path⟩, rest)
    | _ => none
  | '[' :: rest => do
    let (path, rest) ← key rest
    let draft ← progress.draft.openTable path
    match rest with
    | ']' :: rest => some (⟨draft, path⟩, rest)
    | _ => none
  | _ => none

/-- The effect of a key with its value, in the table that is open. -/
def entry (progress : Progress) : Reader Progress := fun text => do
  let ((path, v), rest) ← pair (value maxDepth) text
  let draft ← progress.draft.within false (Draft.define path v) progress.path .opened
  some ({ progress with draft := draft }, rest)

/-- The effect of one line. -/
def line (progress : Progress) : Reader (Round Progress (List (String × Setting))) :=
  fun text => do
    let ended : Progress × List Char → Option (Round Progress _ × List Char) :=
      fun (progress, rest) => (endLine? rest).map (.more progress, ·)
    match skipBlanks text with
    | [] => some (.done (Draft.settings progress.draft), [])
    | '[' :: rest => (header progress ('[' :: rest)).bind ended
    | text =>
      match endLine? text with
      | some rest => some (.more progress, rest)
      | none => (entry progress text).bind ended

/-- A text without the mark of byte order at its front. -/
def unmarked : List Char → List Char
  | '\ufeff' :: rest => rest
  | text => text

/-- The entries of a file, or nothing when it is malformed. -/
def ofText? (text : String) : Option (List (String × Setting)) :=
  Reader.whole? (Reader.repeated line ⟨[], []⟩) (unmarked text.toList)

end Gatehouse.Toml
