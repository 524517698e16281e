import Gatehouse.Ledger.Secret
import Gatehouse.Level

/-!
# The ledger

What the gateway keeps: accounts, and grants of levels on experiments and on registered
models. Each kind is a table whose rows have ids in the order of their entry; an id is
never issued twice, not even after its row is gone. A table may be missing, and then every
statement on it fails.

A statement is all or nothing: it either succeeds with a new ledger or fails and leaves
the ledger as it was.

## Main definitions

* `Account`, `Grant`: The rows.
* `Table`: Rows with the number of ids issued.
* `Kind`: The two kinds of grants.
* `Ledger`: The tables.
* `Statement`: What is done on a ledger.
* `Held`, `Details`: A grant as it is told, and an account with its grants.
-/

namespace Gatehouse

/-- A user. -/
structure Account where
  id : Nat
  username : String
  secret : Secret
  admin : Bool
  deriving DecidableEq, Repr

/-- A level granted on a resource to the account of an id. The level is kept by name, and
reading it may fail. -/
structure Grant where
  id : Nat
  key : String
  holder : Nat
  level : String
  deriving DecidableEq, Repr

/-- Rows in the order of their entry, and how many ids have been issued. -/
structure Table (α : Type) where
  rows : List α
  issued : Nat

/-- What a grant is on. -/
inductive Kind where
  | experiment
  | model
  deriving DecidableEq, Repr

/-- The tables. -/
structure Ledger where
  accounts : Option (Table Account)
  experimentGrants : Option (Table Grant)
  modelGrants : Option (Table Grant)

/-- What is done on a ledger, all or nothing. -/
abbrev Statement (α : Type) := StateT Ledger (Except Error) α

/-- A grant as it is told. -/
structure Held where
  kind : Kind
  key : String
  holder : Nat
  level : Level
  deriving DecidableEq, Repr

/-- An account with its grants. -/
structure Details where
  account : Account
  experimentGrants : List Held
  modelGrants : List Held

/-- A table without rows. -/
def Table.empty {α : Type} : Table α := ⟨[], 0⟩

/-- The table with one more row, made from the next id. -/
def Table.add {α : Type} (table : Table α) (row : Nat → α) : Table α :=
  ⟨table.rows ++ [row (table.issued + 1)], table.issued + 1⟩

/-- The table without the rows that satisfy a condition. -/
def Table.drop {α : Type} (table : Table α) (p : α → Bool) : Table α :=
  { table with rows := table.rows.filter (!p ·) }

/-- The table with every row changed. -/
def Table.map {α : Type} (table : Table α) (f : α → α) : Table α :=
  { table with rows := table.rows.map f }

namespace Kind

/-- The name of the table of grants. -/
def table : Kind → String
  | experiment => "experiment_permissions"
  | model => "registered_model_permissions"

/-- The name under which the key of a grant is told. -/
def keyName : Kind → String
  | experiment => "experiment_id"
  | model => "name"

/-- The absence of a grant. -/
def absent (key username : String) : Kind → Error
  | experiment => .absent (.experimentGrant key username)
  | model => .absent (.modelGrant key username)

/-- The presence of a grant where a new one should go. -/
def conflict (key username : String) : Kind → Error
  | experiment => .conflict (.experimentGrant key username)
  | model => .conflict (.modelGrant key username)

end Kind

namespace Grant

/-- Whether two grants are to the same account on the same resource, which a table does
not allow. -/
def clashes (a b : Grant) : Bool := a.key = b.key && a.holder = b.holder

/-- Whether any two of the grants clash. -/
def anyClash : List Grant → Bool
  | [] => false
  | grant :: rest => rest.any (clashes grant) || anyClash rest

/-- The grant as it is told; its level must be a known one. -/
def held (kind : Kind) (grant : Grant) : Except Error Held :=
  (Level.ofName grant.level).map fun level => ⟨kind, grant.key, grant.holder, level⟩

end Grant

namespace Ledger

/-- The ledger with all its tables and no rows. -/
def fresh : Ledger := ⟨some .empty, some .empty, some .empty⟩

/-- The failure of a statement on a table that is missing. -/
def missing (table : String) : Error := .database s!"no such table: {table}"

/-- The accounts. -/
def accountTable (ledger : Ledger) : Except Error (Table Account) :=
  match ledger.accounts with
  | some table => .ok table
  | none => .error (missing "users")

/-- The grants of a kind, if their table is there. -/
def grants? (kind : Kind) (ledger : Ledger) : Option (Table Grant) :=
  match kind with
  | .experiment => ledger.experimentGrants
  | .model => ledger.modelGrants

/-- The grants of a kind. -/
def grantTable (kind : Kind) (ledger : Ledger) : Except Error (Table Grant) :=
  match ledger.grants? kind with
  | some table => .ok table
  | none => .error (missing kind.table)

/-- The ledger with other accounts. -/
def withAccounts (ledger : Ledger) (table : Table Account) : Ledger :=
  { ledger with accounts := some table }

/-- The ledger with other grants of a kind. -/
def withGrants (ledger : Ledger) (kind : Kind) (table : Table Grant) : Ledger :=
  match kind with
  | .experiment => { ledger with experimentGrants := some table }
  | .model => { ledger with modelGrants := some table }

end Ledger

/-- A statement that only looks. -/
def Statement.look {α : Type} (f : Ledger → Except Error α) : Statement α :=
  fun ledger => (f ledger).map (·, ledger)

/-- The document of an account. -/
def Account.members (account : Account) : List (String × Json) :=
  [("id", .ofNat account.id), ("username", .string account.username),
    ("is_admin", .bool account.admin)]

/-- The document of a grant. -/
def Held.toJson (held : Held) : Json :=
  .ofMembers [(held.kind.keyName, .string held.key), ("user_id", .ofNat held.holder),
    ("permission", .string held.level.name)]

/-- The document of an account with its grants. -/
def Details.toJson (details : Details) : Json :=
  .ofMembers (details.account.members ++
    [("experiment_permissions", .array (details.experimentGrants.map Held.toJson)),
     ("registered_model_permissions", .array (details.modelGrants.map Held.toJson))])

end Gatehouse
