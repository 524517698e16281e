import Gatehouse.Ledger.Accounts

/-!
# Unchecked changes

What somebody with direct access to the tables can do: enter grants with any level, keep
any stored form for a password, and drop a table. The rules of the tables themselves still
hold: no two grants clash, and every grant belongs to an account.

## Main definitions

* `Ledger.enterGrant`: A grant with an unchecked level.
* `Ledger.enterSecret`: The stored form of a password.
* `Ledger.enterAccount`: An account with any secret.
* `Ledger.dropTable`: The ledger without a table.
-/

namespace Gatehouse

namespace Ledger

/-- Enters a grant whose level is not checked. -/
def enterGrant (kind : Kind) (key username level : String) : Statement Unit := do
  let ledger ← get
  let grants ← ledger.grantTable kind
  let accounts ← ledger.accountTable
  match accounts.rows.find? (·.username = username) with
  | none => throw (.database "FOREIGN KEY constraint failed")
  | some account =>
    let row (id : Nat) : Grant := ⟨id, key, account.id, level⟩
    -- The id has no part in the index.
    if grants.rows.any (Grant.clashes (row 0)) then
      throw (.database "UNIQUE constraint failed")
    set (ledger.withGrants kind (grants.add row))

/-- Keeps a stored form for the password of a user, if there is such a user. -/
def enterSecret (username stored : String) : Statement Unit := do
  let ledger ← get
  let accounts ← ledger.accountTable
  set (ledger.withAccounts (accounts.map fun account =>
    if account.username = username then { account with secret := .ofStored stored }
    else account))

/-- Enters an account with any secret. -/
def enterAccount (username : String) (secret : Secret) (admin : Bool) : Statement Unit := do
  let ledger ← get
  let accounts ← ledger.accountTable
  if accounts.rows.any (·.username = username) then
    throw (.database "UNIQUE constraint failed")
  set (ledger.withAccounts (accounts.add (⟨·, username, secret, admin⟩)))

/-- The ledger without a table. The accounts take all grants along, because every grant
belongs to an account. -/
def dropTable (name : String) : Statement Unit := do
  let ledger ← get
  if name = "users" then
    let _ ← ledger.accountTable
    let cleared (table : Table Grant) : Table Grant := { table with rows := [] }
    set ({ accounts := none
           experimentGrants := ledger.experimentGrants.map cleared
           modelGrants := ledger.modelGrants.map cleared } : Ledger)
  else if name = Kind.experiment.table then
    let _ ← ledger.grantTable .experiment
    set { ledger with experimentGrants := none }
  else if name = Kind.model.table then
    let _ ← ledger.grantTable .model
    set { ledger with modelGrants := none }
  else throw (missing name)

end Ledger

end Gatehouse
