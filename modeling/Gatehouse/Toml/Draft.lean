import Gatehouse.Settings.Setting

/-!
# Tables under construction

A table may be opened by a header, be implied by the header of a table inside it, or come
from the dots of a key. Each table is opened once, one that comes from dots is filled by
dots only, and a value that is complete is never added to. A list of tables grows by one
table with each of its headers, and the last one is filled.

## Main definitions

* `Origin`: Where a table comes from.
* `Node`, `Draft`: What a table holds so far.
* `Draft.define`: A draft with a value under a key.
* `Draft.openTable`, `Draft.openItem`: A draft with a table opened.
* `Draft.settings`: The entries of a complete draft.
-/

namespace Gatehouse.Toml

/-- Where a table comes from: a header, the header of a table inside it, or dots. -/
inductive Origin where
  | opened
  | implied
  | dotted
  deriving DecidableEq

/-- What a name stands for so far. -/
inductive Node where
  | value (v : Setting)
  | table (origin : Origin) (entries : List (String × Node))
  | tables (list : List (List (String × Node)))

/-- The entries of a table so far. -/
abbrev Draft := List (String × Node)

namespace Draft

/-- A draft with the entry of a name changed; a new one comes last. -/
def edit (name : String) (f : Option Node → Option Node) : Draft → Option Draft
  | [] => (f none).map fun node => [(name, node)]
  | (key, node) :: rest =>
    if key = name then (f (some node)).map fun node => (key, node) :: rest
    else (edit name f rest).map ((key, node) :: ·)

/-- A draft with a table in it changed. The names lead to the table through tables and the
last tables of lists; those that are not there yet are made. Dots do not lead into a table
that was opened. -/
def within (dotted : Bool) (f : Origin → Draft → Option Draft) :
    List String → Origin → Draft → Option Draft
  | [], origin, draft => f origin draft
  | name :: path, _, draft =>
    edit name (fun held =>
      match held with
      | none =>
        let origin := if dotted then .dotted else .implied
        (within dotted f path origin []).map (.table origin)
      | some (.value _) => none
      | some (.table origin entries) =>
        if dotted && origin = .opened then none
        else (within dotted f path origin entries).map (.table origin)
      | some (.tables list) =>
        -- A list of tables stands for its last one.
        match list.getLast? with
        | none => none
        | some last =>
          (within dotted f path .opened last).map fun last => .tables (list.dropLast ++ [last]))
      draft

/-- A draft with a value under a key. The table that the dots of the key lead to comes from
dots itself, and a key without dots is for any other table. -/
def define (key : List String) (v : Setting) (origin : Origin) (draft : Draft) :
    Option Draft :=
  match key.getLast? with
  | none => none
  | some name =>
    within true (fun origin draft =>
      if (origin = .dotted) = (key.dropLast = []) then none
      else edit name (fun held => if held.isNone then some (.value v) else none) draft)
      key.dropLast origin draft

/-- A draft with an empty table at a path, or with the table there opened that was only
implied so far. -/
def openTable (path : List String) (draft : Draft) : Option Draft :=
  match path.getLast? with
  | none => none
  | some name =>
    within false (fun _ draft => edit name (fun held =>
      match held with
      | none => some (.table .opened [])
      | some (.table .implied entries) => some (.table .opened entries)
      | some _ => none) draft)
      path.dropLast .opened draft

/-- A draft with one more table in the list at a path. -/
def openItem (path : List String) (draft : Draft) : Option Draft :=
  match path.getLast? with
  | none => none
  | some name =>
    within false (fun _ draft => edit name (fun held =>
      match held with
      | none => some (.tables [[]])
      | some (.tables list) => some (.tables (list ++ [[]]))
      | some _ => none) draft)
      path.dropLast .opened draft

mutual

/-- What a name stands for in the end. -/
def setting : Node → Setting
  | .value v => v
  | .table _ entries => .table (settings entries)
  | .tables list => .list (lists list)

/-- The entries of a complete draft. -/
def settings : List (String × Node) → List (String × Setting)
  | [] => []
  | (name, node) :: rest => (name, setting node) :: settings rest

/-- The tables of a complete list. -/
def lists : List (List (String × Node)) → List Setting
  | [] => []
  | entries :: rest => .table (settings entries) :: lists rest

end

end Draft

end Gatehouse.Toml
