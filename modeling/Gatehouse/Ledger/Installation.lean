import Gatehouse.Ledger.Schema

/-!
# Installations

A database as its migrations find it and leave it, down to the columns of its tables and of its
indexes. A migration is a script of alterations in each direction. An alteration fails where
something is missing that it needs, or something is still in use that it takes away; what is there
already is not created again, whatever it looks like. So what a script leaves behind, the next one
fails on or takes for its own.

## Main definitions

* `Column`, `TableShape`, `Index`, `Layout`: What tables and indexes look like.
* `Layout.uniqueKeys`: The columns in which no two rows of a table agree.
* `Alteration`, `Script`, `scripts`: The migrations, alteration by alteration.
* `Installation`: The applied migrations, the layout and the ledger.
* `Installation.alter`, `Installation.apply`, `Installation.revert`: One alteration, and one
  migration in each direction.
* `Installation.up`, `Installation.down`, `Installation.move`: Any number of migrations, and any
  move.
* `Installation.database`: The database without the looks of its tables and indexes.
-/

namespace Gatehouse

/-- What is known of the values in a column: they are numbers that are given out one by one, or no
two of them are the same, or nothing. -/
inductive Column.Trait where
  | serial
  | unique
  | plain
  deriving DecidableEq, Repr

/-- A column of a table. -/
structure Column where
  name : String
  kind : Column.Trait
  deriving DecidableEq, Repr

/-- What a table looks like, with the table that its rows belong to. -/
structure TableShape where
  name : TableName
  columns : List Column
  parent : Option TableName
  deriving DecidableEq, Repr

/-- An index on some columns of a table. -/
structure Index where
  name : String
  on : TableName
  columns : List String
  unique : Bool
  deriving DecidableEq, Repr

/-- Tables and indexes in the order of their creation. -/
structure Layout where
  tables : List TableShape
  indexes : List Index
  deriving DecidableEq, Repr

namespace Layout

/-- The table of a name. -/
def table? (layout : Layout) (name : TableName) : Option TableShape :=
  layout.tables.find? (·.name = name)

/-- Whether there is an index of a name. -/
def hasIndex (layout : Layout) (name : String) : Bool := layout.indexes.any (·.name = name)

/-- The columns in which no two rows of a table agree, apart from those that are numbered. -/
def uniqueKeys (layout : Layout) : List (TableName × List String) :=
  layout.tables.flatMap (fun shape =>
    (shape.columns.filter (·.kind = .unique)).map fun column => (shape.name, [column.name])) ++
  (layout.indexes.filter (·.unique)).map fun index => (index.on, index.columns)

end Layout

/-- An alteration of a layout. -/
inductive Alteration where
  | createTable (shape : TableShape)
  | createIndex (index : Index)
  | dropTable (name : TableName)
  | dropIndex (name : String)
  deriving DecidableEq, Repr

/-- A migration, alteration by alteration. -/
structure Script where
  name : String
  up : List Alteration
  down : List Alteration

/-- The table of the grants of a kind. -/
def Kind.tableName : Kind → TableName
  | experiment => .experimentGrants
  | model => .modelGrants

namespace TableShape

/-- The table of the users. -/
def accounts : TableShape where
  name := .accounts
  columns := [⟨"id", .serial⟩, ⟨"username", .unique⟩, ⟨"password_hash", .plain⟩,
    ⟨"is_admin", .plain⟩]
  parent := none

/-- The table of the grants of a kind; a grant belongs to a user. -/
def grants (kind : Kind) : TableShape where
  name := kind.tableName
  columns := [⟨"id", .serial⟩, ⟨kind.keyName, .plain⟩, ⟨"user_id", .plain⟩,
    ⟨"permission", .plain⟩]
  parent := some .accounts

end TableShape

namespace Index

/-- The index that keeps the grants of a kind from clashing. -/
def apart (kind : Kind) (name : String) : Index :=
  ⟨name, kind.tableName, [kind.keyName, "user_id"], true⟩

/-- The index by which the grants of a user are found. -/
def lookup (kind : Kind) (name : String) : Index :=
  ⟨name, kind.tableName, ["user_id"], false⟩

end Index

/-- All migrations in order. -/
def scripts : List Script :=
  [{ name := "m20250101_000001_initial_schema"
     up := [.createTable .accounts, .createTable (.grants .experiment),
       .createIndex (.apart .experiment "unique_experiment_user"), .createTable (.grants .model),
       .createIndex (.apart .model "unique_name_user")]
     down := [.dropTable .modelGrants, .dropTable .experimentGrants, .dropTable .accounts] },
   { name := "m20250114_000001_add_grant_lookup_indexes"
     up := [.createIndex (.lookup .experiment "idx_experiment_permissions_user"),
       .createIndex (.lookup .model "idx_registered_model_permissions_user")]
     down := [.dropIndex "idx_registered_model_permissions_user",
       .dropIndex "idx_experiment_permissions_user"] }]

/-- A database: the names of the applied migrations, its layout and its ledger. -/
structure Installation where
  applied : List String
  layout : Layout
  ledger : Ledger

/-- Whether two rows of a table agree where rows of it should not: two users in their name, or two
grants in their user and their resource. -/
def Ledger.clashes (ledger : Ledger) : TableName → Bool
  | .accounts => (ledger.accounts.elim [] (·.rows)).any fun account =>
    (ledger.accounts.elim [] (·.rows)).any fun other =>
      account.id ≠ other.id && account.username = other.username
  | .experimentGrants => Grant.anyClash (ledger.experimentGrants.elim [] (·.rows))
  | .modelGrants => Grant.anyClash (ledger.modelGrants.elim [] (·.rows))

namespace Installation

/-- A database without anything in it. -/
def empty : Installation := ⟨[], ⟨[], []⟩, .bare⟩

/-- The database with a table that was not there. It needs the table that its rows belong to. -/
def createTable (installation : Installation) (shape : TableShape) : Except Error Installation :=
  let created : Installation := { installation with
    layout := { installation.layout with tables := installation.layout.tables ++ [shape] }
    ledger := installation.ledger.withTable shape.name }
  match shape.parent with
  | none => .ok created
  | some parent =>
    if (installation.layout.table? parent).isSome then .ok created
    else .error (Ledger.missing parent.text)

/-- The database with an index that was not there. It needs its table with its columns, and rows
that do not agree where it forbids that. -/
def createIndex (installation : Installation) (index : Index) : Except Error Installation :=
  match installation.layout.table? index.on with
  | none => .error (Ledger.missing index.on.text)
  | some shape =>
    match index.columns.find? fun column => !shape.columns.any (·.name = column) with
    | some column => .error (.database s!"no such column: {column}")
    | none =>
      if index.unique && installation.ledger.clashes index.on then
        .error (.database s!"UNIQUE constraint failed: {index.name}")
      else .ok { installation with
        layout := { installation.layout with indexes := installation.layout.indexes ++ [index] } }

/-- The database after an alteration. What is there is not created again, whatever it looks like,
and what is not there cannot be dropped; a table is not dropped before those whose rows belong to
its rows, and takes its indexes along. -/
def alter (installation : Installation) : Alteration → Except Error Installation
  | .createTable shape =>
    if (installation.layout.table? shape.name).isSome then .ok installation
    else installation.createTable shape
  | .createIndex index =>
    if installation.layout.hasIndex index.name then .ok installation
    else installation.createIndex index
  | .dropTable name =>
    if (installation.layout.table? name).isNone then .error (Ledger.missing name.text)
    else if installation.layout.tables.any (·.parent = some name) then
      .error (.database "FOREIGN KEY constraint failed")
    else .ok { installation with
      layout := ⟨installation.layout.tables.filter (·.name ≠ name),
        installation.layout.indexes.filter (·.on ≠ name)⟩
      ledger := installation.ledger.withoutTable name }
  | .dropIndex name =>
    if installation.layout.hasIndex name then .ok { installation with
      layout := { installation.layout with
        indexes := installation.layout.indexes.filter (·.name ≠ name) } }
    else .error (.database s!"no such index: {name}")

/-- The database after a migration. -/
def apply (installation : Installation) (script : Script) : Except Error Installation := do
  let altered ← script.up.foldlM alter installation
  .ok { altered with applied := altered.applied ++ [script.name] }

/-- The database before a migration. -/
def revert (installation : Installation) (script : Script) : Except Error Installation := do
  let altered ← script.down.foldlM alter installation
  .ok { altered with applied := altered.applied.filter (· ≠ script.name) }

/-- The migrations that are not applied yet. -/
def pending (installation : Installation) : List Script :=
  scripts.filter fun script => !installation.applied.contains script.name

/-- The migrations that are applied, the latest first. -/
def revertible (installation : Installation) : List Script :=
  (scripts.filter fun script => installation.applied.contains script.name).reverse

/-- Applies the next migrations. -/
def up (count : Option Nat) (installation : Installation) : Except Error Installation :=
  (Database.atMost count installation.pending).foldlM apply installation

/-- Reverts the latest migrations. -/
def down (count : Option Nat) (installation : Installation) : Except Error Installation :=
  (Database.atMost count installation.revertible).foldlM revert installation

/-- The database after a move. To start afresh everything is dropped. -/
def move (installation : Installation) : Database.Move → Except Error Installation
  | .up count => installation.up count
  | .down count => installation.down count
  | .fresh => empty.up none
  | .refresh => do (← installation.down none).up none
  | .reset => installation.down none

/-- The database without the looks of its tables and indexes. -/
def database (installation : Installation) : Database :=
  ⟨installation.applied, installation.layout.indexes.map fun index => (index.name, index.on),
    installation.ledger⟩

end Installation

end Gatehouse
