import Gatehouse.Ledger.Basic

/-!
# The schema and its history

The schema of a database is brought up to date by migrations, each of which creates some
tables and indexes. The database remembers which ones have been applied. They are applied
in order and reverted in reverse order, any number at a time.

## Main definitions

* `TableName`, `Creation`, `Migration`: What a migration creates.
* `migrations`: All migrations in order.
* `Database`: The applied migrations, the indexes and the ledger.
* `Database.up`, `Database.down`, `Database.restart`: Applying, reverting, and starting
  again from nothing.
* `Database.move`: Any of these.
* `Database.schema`: The tables and indexes by name.
-/

namespace Gatehouse

/-- The tables of the ledger. -/
inductive TableName where
  | accounts
  | experimentGrants
  | modelGrants
  deriving DecidableEq, Repr

/-- The name of a table. -/
def TableName.text : TableName → String
  | accounts => "users"
  | experimentGrants => Kind.experiment.table
  | modelGrants => Kind.model.table

/-- Something that a migration creates. -/
inductive Creation where
  | table (name : TableName)
  | index (name : String) (on : TableName)
  deriving DecidableEq, Repr

/-- A step in the history of the schema. -/
structure Migration where
  name : String
  creations : List Creation

/-- All migrations in order: the tables with the indexes that keep grants from clashing,
and the indexes by which the grants of a user are found. -/
def migrations : List Migration :=
  [⟨"m20250101_000001_initial_schema",
    [.table .accounts, .table .experimentGrants, .index "unique_experiment_user" .experimentGrants,
     .table .modelGrants, .index "unique_name_user" .modelGrants]⟩,
   ⟨"m20250114_000001_add_grant_lookup_indexes",
    [.index "idx_experiment_permissions_user" .experimentGrants,
     .index "idx_registered_model_permissions_user" .modelGrants]⟩]

namespace Ledger

/-- Whether a table is there. -/
def hasTable (ledger : Ledger) : TableName → Bool
  | .accounts => ledger.accounts.isSome
  | .experimentGrants => ledger.experimentGrants.isSome
  | .modelGrants => ledger.modelGrants.isSome

/-- The ledger with a table, without rows if it was not there. -/
def withTable (ledger : Ledger) : TableName → Ledger
  | .accounts => { ledger with accounts := some (ledger.accounts.getD .empty) }
  | .experimentGrants =>
    { ledger with experimentGrants := some (ledger.experimentGrants.getD .empty) }
  | .modelGrants => { ledger with modelGrants := some (ledger.modelGrants.getD .empty) }

/-- The ledger without a table. -/
def withoutTable (ledger : Ledger) : TableName → Ledger
  | .accounts => { ledger with accounts := none }
  | .experimentGrants => { ledger with experimentGrants := none }
  | .modelGrants => { ledger with modelGrants := none }

/-- The ledger without any table. -/
def bare : Ledger := ⟨none, none, none⟩

end Ledger

/-- A database: the names of the applied migrations, the indexes with their tables, and
the ledger. -/
structure Database where
  applied : List String
  indexes : List (String × TableName)
  ledger : Ledger

namespace Database

/-- A database without anything in it. -/
def empty : Database := ⟨[], [], .bare⟩

/-- The database with something created that was not there. -/
def create (db : Database) : Creation → Database
  | .table name => { db with ledger := db.ledger.withTable name }
  | .index name on =>
    if db.indexes.contains (name, on) then db
    else { db with indexes := db.indexes ++ [(name, on)] }

/-- The database without something that was created; a table takes its indexes along. -/
def discard (db : Database) : Creation → Database
  | .table name =>
    { db with
      ledger := db.ledger.withoutTable name
      indexes := db.indexes.filter (·.2 ≠ name) }
  | .index name on => { db with indexes := db.indexes.filter (· ≠ (name, on)) }

/-- The database after a migration. -/
def apply (db : Database) (migration : Migration) : Database :=
  let db := migration.creations.foldl create db
  { db with applied := db.applied ++ [migration.name] }

/-- The database before a migration. -/
def revert (db : Database) (migration : Migration) : Database :=
  let db := migration.creations.reverse.foldl discard db
  { db with applied := db.applied.filter (· ≠ migration.name) }

/-- The first so many items, or all of them. -/
def atMost {α : Type} (count : Option Nat) (items : List α) : List α :=
  match count with
  | some n => items.take n
  | none => items

/-- The migrations that are not applied yet. -/
def pending (db : Database) : List Migration :=
  migrations.filter fun migration => !db.applied.contains migration.name

/-- The migrations that are applied, the latest first. -/
def revertible (db : Database) : List Migration :=
  (migrations.filter fun migration => db.applied.contains migration.name).reverse

/-- Applies the next migrations. -/
def up (count : Option Nat) (db : Database) : Database :=
  (atMost count db.pending).foldl apply db

/-- Reverts the latest migrations. -/
def down (count : Option Nat) (db : Database) : Database :=
  (atMost count db.revertible).foldl revert db

/-- Drops everything and applies all migrations. -/
def restart : Database := up none empty

/-- A move in the history of the schema. -/
inductive Move where
  | up (count : Option Nat)
  | down (count : Option Nat)
  | fresh
  | refresh
  | reset

/-- The database after a move. -/
def move (db : Database) : Move → Database
  | .up count => db.up count
  | .down count => db.down count
  | .fresh => restart
  | .refresh => (db.down none).up none
  | .reset => db.down none

/-- The tables and indexes in the order of their names. -/
def schema (db : Database) : List String :=
  let tables := [TableName.accounts, .experimentGrants, .modelGrants].filter db.ledger.hasTable
  ((tables.map fun table => "table:" ++ table.text) ++
    db.indexes.map fun index => "index:" ++ index.1).mergeSort fun a b => a ≤ b

end Database

end Gatehouse
