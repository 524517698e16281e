import Gatehouse.Ledger.Basic

/-!
# Grants

Grants are made, told, changed and dropped one at a time, by the key of the resource and
the name of the user. Those of a registered model can also be dropped or moved to another
name all at once.

## Main definitions

* `Ledger.findAccount`, `Ledger.findGrant`: The row of a user, and of a grant.
* `Ledger.grant`, `Ledger.grantsOf`: A grant as it is told, and all of a user.
* `Ledger.createGrant`, `Ledger.updateGrant`, `Ledger.deleteGrant`: Statements on one
  grant.
* `Ledger.dropModelGrants`, `Ledger.renameModelGrants`: Statements on all grants of a
  name.
-/

namespace Gatehouse

namespace Ledger

/-- The row of a user. -/
def findAccount (username : String) (ledger : Ledger) : Except Error Account := do
  let accounts ← ledger.accountTable
  match accounts.rows.find? (·.username = username) with
  | some account => .ok account
  | none => .error (.absent (.account username))

/-- Whether a grant belongs to the user of a name. -/
def belongs (accounts : List Account) (username : String) (grant : Grant) : Bool :=
  accounts.any fun account => account.id = grant.holder && account.username = username

/-- The row of a grant. -/
def findGrant (kind : Kind) (key username : String) (ledger : Ledger) :
    Except Error Grant := do
  let grants ← ledger.grantTable kind
  let accounts ← ledger.accountTable
  match grants.rows.find? fun grant => grant.key = key && belongs accounts.rows username grant
  with
  | some grant => .ok grant
  | none => .error (kind.absent key username)

/-- A grant as it is told. -/
def grant (kind : Kind) (key username : String) (ledger : Ledger) : Except Error Held := do
  (← ledger.findGrant kind key username).held kind

/-- All grants of a user in the order of their entry. -/
def grantsOf (kind : Kind) (username : String) (ledger : Ledger) :
    Except Error (List Held) := do
  let grants ← ledger.grantTable kind
  let accounts ← ledger.accountTable
  (grants.rows.filter (belongs accounts.rows username)).mapM (Grant.held kind)

/-- Grants a level to a user who has none yet on the resource. -/
def createGrant (kind : Kind) (key username levelName : String) : Statement Held := do
  let ledger ← get
  let level ← Level.ofName levelName
  let account ← ledger.findAccount username
  let grants ← ledger.grantTable kind
  let row (id : Nat) : Grant := ⟨id, key, account.id, level.name⟩
  if grants.rows.any (Grant.clashes (row 0)) then throw (kind.conflict key username)
  set (ledger.withGrants kind (grants.add row))
  pure ⟨kind, key, account.id, level⟩

/-- The grant of an id with another level; any other as it is. -/
def relevelled (id : Nat) (level : Level) (grant : Grant) : Grant :=
  if grant.id = id then { grant with level := level.name } else grant

/-- Changes the level of a grant. -/
def updateGrant (kind : Kind) (key username levelName : String) : Statement Unit := do
  let ledger ← get
  let level ← Level.ofName levelName
  let found ← ledger.findGrant kind key username
  let grants ← ledger.grantTable kind
  set (ledger.withGrants kind (grants.map (relevelled found.id level)))

/-- Takes a grant back. -/
def deleteGrant (kind : Kind) (key username : String) : Statement Unit := do
  let ledger ← get
  let found ← ledger.findGrant kind key username
  let grants ← ledger.grantTable kind
  set (ledger.withGrants kind (grants.drop (·.id = found.id)))

/-- Drops all grants on a registered model, and tells how many there were. -/
def dropModelGrants (name : String) : Statement Nat := do
  let ledger ← get
  let grants ← ledger.grantTable .model
  set (ledger.withGrants .model (grants.drop (·.key = name)))
  pure (grants.rows.countP (·.key = name))

/-- The grant under another name if it is under the old one. -/
def renamed (old new : String) (grant : Grant) : Grant :=
  if grant.key = old then { grant with key := new } else grant

/-- Moves all grants on a registered model to another name, and tells how many there were.
Nothing is moved when a user would hold two grants then. -/
def renameModelGrants (old new : String) : Statement Nat := do
  let ledger ← get
  let grants ← ledger.grantTable .model
  let moved := grants.map (renamed old new)
  if Grant.anyClash moved.rows then throw (.conflict (.modelGrants new))
  set (ledger.withGrants .model moved)
  pure (grants.rows.countP (·.key = old))

end Ledger

end Gatehouse
