import Gatehouse.Ledger.Grants

/-!
# Accounts

Users are created, told, changed and deleted by name. Deleting a user takes all his
grants along.

## Main definitions

* `Ledger.hasUser`, `Ledger.details`: Whether a user exists, and what he holds.
* `Ledger.authenticate`: Whether a password is that of a user.
* `Ledger.createUser`, `Ledger.updateUser`, `Ledger.deleteUser`: Statements on one user.
* `Ledger.createAdmin`: Makes sure that an administrator exists.
-/

namespace Gatehouse

namespace Ledger

/-- Whether a user exists. -/
def hasUser (username : String) (ledger : Ledger) : Except Error Bool :=
  match ledger.findAccount username with
  | .ok _ => .ok true
  | .error e => if e.isNotFound then .ok false else .error e

/-- A user with all his grants. -/
def details (username : String) (ledger : Ledger) : Except Error Details := do
  let account ← ledger.findAccount username
  let experimentGrants ← ledger.grantsOf .experiment username
  let modelGrants ← ledger.grantsOf .model username
  .ok ⟨account, experimentGrants, modelGrants⟩

/-- Whether a password is that of a user; nobody's password is that of an unknown user. -/
def authenticate (username password : String) (ledger : Ledger) : Except Error Bool :=
  match ledger.findAccount username with
  | .ok account =>
    match account.secret.verify? password with
    | some verified => .ok verified
    | none => .error (.fault .passwordHash)
  | .error e => if e.isNotFound then .ok false else .error e

/-- Creates a user under a name that is not taken. -/
def createUser (username password : String) (admin : Bool) : Statement Account := do
  if username.isEmpty || password.isEmpty then throw (.badRequest .emptyCredentials)
  let ledger ← get
  let accounts ← ledger.accountTable
  let row (id : Nat) : Account := ⟨id, username, .password password, admin⟩
  if accounts.rows.any (·.username = username) then throw (.conflict (.account username))
  set (ledger.withAccounts (accounts.add row))
  pure (row (accounts.issued + 1))

/-- The account of an id with what is given of a password and a rank; any other as it is. -/
def revised (id : Nat) (password : Option String) (admin : Option Bool) (account : Account) :
    Account :=
  if account.id = id then
    { account with
      secret := (password.map Secret.password).getD account.secret
      admin := admin.getD account.admin }
  else account

/-- Changes the password of a user, or whether he is an administrator, or both. -/
def updateUser (username : String) (password : Option String) (admin : Option Bool) :
    Statement Unit := do
  let ledger ← get
  let found ← ledger.findAccount username
  if password = some "" then throw (.badRequest .emptyPassword)
  let accounts ← ledger.accountTable
  set (ledger.withAccounts (accounts.map (revised found.id password admin)))

/-- Deletes a user with all his grants. -/
def deleteUser (username : String) : Statement Unit := do
  let ledger ← get
  let found ← ledger.findAccount username
  let experimentGrants ← ledger.grantTable .experiment
  let modelGrants ← ledger.grantTable .model
  let accounts ← ledger.accountTable
  set ({ accounts := some (accounts.drop (·.id = found.id))
         experimentGrants := some (experimentGrants.drop (·.holder = found.id))
         modelGrants := some (modelGrants.drop (·.holder = found.id)) } : Ledger)

/-- Creates an administrator; a name that is taken meanwhile is no failure. -/
def enterAdmin (username password : String) : Statement Unit := fun ledger =>
  match createUser username password true ledger with
  | .ok (_, ledger) => .ok ((), ledger)
  | .error (.conflict _) => .ok ((), ledger)
  | .error e => .error e

/-- Makes sure that an administrator exists. -/
def createAdmin (username password : String) : Statement Unit := do
  if ← (← get).hasUser username then pure () else enterAdmin username password

end Ledger

end Gatehouse
