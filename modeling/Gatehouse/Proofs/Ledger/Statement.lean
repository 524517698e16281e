import Gatehouse.Ledger.Accounts

/-!
# Statements written out

What each statement does on a ledger, step by step: the first step that fails gives the
failure, and a statement that succeeds leaves the ledger of its last step. The lookups that the
statements start with are read as facts about the rows of the tables.

## Main definitions

* `Statement.after`: The ledger that a statement leaves, whether or not it succeeds.

## Theorems

* `Ledger.createUser_eq`, `Ledger.updateUser_eq`, `Ledger.deleteUser_eq`: Statements on users.
* `Ledger.createGrant_eq`, `Ledger.updateGrant_eq`, `Ledger.deleteGrant_eq`: Statements on one
  grant.
* `Ledger.dropModelGrants_eq`, `Ledger.renameModelGrants_eq`: Statements on all grants of a name.
* `Ledger.findAccount_eq_ok_iff`, `Ledger.findGrant_eq_ok_iff`: The rows that are found.
-/

namespace Gatehouse

namespace Statement

variable {α β : Type}

/-- The ledger that a statement leaves; a failed one leaves it as it was. -/
def after (statement : Statement α) (ledger : Ledger) : Ledger :=
  match statement ledger with
  | .ok (_, after) => after
  | .error _ => ledger

theorem bind_get (f : Ledger → Statement α) (ledger : Ledger) :
    (get >>= f : Statement α) ledger = f ledger ledger := rfl

theorem bind_set (after : Ledger) (f : PUnit → Statement α) (ledger : Ledger) :
    (set after >>= f : Statement α) ledger = f ⟨⟩ after := rfl

theorem bind_throw (e : Error) (f : α → Statement β) (ledger : Ledger) :
    (throw e >>= f : Statement β) ledger = .error e := rfl

/-- A step that only looks passes its outcome on. -/
theorem bind_lift (x : Except Error α) (f : α → Statement β) (ledger : Ledger) :
    (liftM x >>= f : Statement β) ledger = x >>= fun a => f a ledger := by
  cases x <;> rfl

theorem set_eq (after ledger : Ledger) : (set after : Statement PUnit) ledger = .ok (⟨⟩, after) :=
  rfl

theorem pure_eq (a : α) (ledger : Ledger) : (pure a : Statement α) ledger = .ok (a, ledger) := rfl

theorem map_eq (f : α → β) (statement : Statement α) (ledger : Ledger) :
    (f <$> statement : Statement β) ledger = (statement ledger).map fun result =>
      (f result.1, result.2) := by
  change (do
    let result ← statement ledger
    pure (f result.1, result.2) : Except Error (β × Ledger)) = _
  cases statement ledger <;> rfl

theorem ite_eq (c : Prop) [Decidable c] (x y : Statement α) (ledger : Ledger) :
    (if c then x else y : Statement α) ledger = if c then x ledger else y ledger := by
  split <;> rfl

theorem after_look (f : Ledger → Except Error α) (ledger : Ledger) :
    (look f).after ledger = ledger := by
  unfold after look
  cases f ledger <;> rfl

theorem after_of_ok {statement : Statement α} {ledger changed : Ledger} {a : α}
    (h : statement ledger = .ok (a, changed)) : statement.after ledger = changed := by
  rw [after, h]

/-- What holds of the ledger, and of every ledger that a statement can succeed with, holds of the
ledger that it leaves. -/
theorem after_induction {p : Ledger → Prop} (statement : Statement α) {ledger : Ledger}
    (hsame : p ledger) (hok : ∀ a changed, statement ledger = .ok (a, changed) → p changed) :
    p (statement.after ledger) := by
  unfold after
  cases h : statement ledger with
  | error e => exact hsame
  | ok result => exact hok result.1 result.2 h

end Statement

namespace Ledger

open Statement

section Tables

variable {ledger : Ledger} {kind : Kind}

theorem accounts_withAccounts (ledger : Ledger) (table : Table Account) :
    (ledger.withAccounts table).accounts = some table := rfl

theorem grants?_withAccounts (ledger : Ledger) (table : Table Account) (kind : Kind) :
    (ledger.withAccounts table).grants? kind = ledger.grants? kind := by
  cases kind <;> rfl

theorem accounts_withGrants (ledger : Ledger) (kind : Kind) (table : Table Grant) :
    (ledger.withGrants kind table).accounts = ledger.accounts := by
  cases kind <;> rfl

theorem grants?_withGrants (ledger : Ledger) (kind other : Kind) (table : Table Grant) :
    (ledger.withGrants kind table).grants? other =
      if other = kind then some table else ledger.grants? other := by
  cases kind <;> cases other <;> rfl

theorem accountTable_eq_ok_iff {table : Table Account} :
    ledger.accountTable = .ok table ↔ ledger.accounts = some table := by
  unfold accountTable
  cases ledger.accounts <;> simp

theorem grantTable_eq_ok_iff {table : Table Grant} :
    ledger.grantTable kind = .ok table ↔ ledger.grants? kind = some table := by
  unfold grantTable
  cases ledger.grants? kind <;> simp

/-- A user is found by the first row with his name. -/
theorem findAccount_eq_ok_iff {username : String} {account : Account} :
    ledger.findAccount username = .ok account ↔ ∃ accounts, ledger.accounts = some accounts ∧
      accounts.rows.find? (·.username = username) = some account := by
  unfold findAccount
  rw [Error.bind_eq_ok_iff]
  constructor
  · rintro ⟨accounts, htable, hfound⟩
    refine ⟨accounts, accountTable_eq_ok_iff.1 htable, ?_⟩
    split at hfound
    · next found hrow =>
      obtain rfl := Except.ok.inj hfound
      exact hrow
    · exact nomatch hfound
  · rintro ⟨accounts, htable, hrow⟩
    refine ⟨accounts, accountTable_eq_ok_iff.2 htable, ?_⟩
    rw [hrow]

theorem mem_of_findAccount {username : String} {account : Account} {accounts : Table Account}
    (htable : ledger.accounts = some accounts) (h : ledger.findAccount username = .ok account) :
    account ∈ accounts.rows ∧ account.username = username := by
  obtain ⟨table, hsome, hrow⟩ := findAccount_eq_ok_iff.1 h
  rw [htable] at hsome
  obtain rfl := Option.some.inj hsome
  exact ⟨List.mem_of_find?_eq_some hrow, by simpa using List.find?_some hrow⟩

/-- A grant is found by the first row with its key that belongs to a user of the name. -/
theorem findGrant_eq_ok_iff {key username : String} {grant : Grant} :
    ledger.findGrant kind key username = .ok grant ↔ ∃ grants accounts,
      ledger.grants? kind = some grants ∧ ledger.accounts = some accounts ∧
        grants.rows.find? (fun grant => grant.key = key && belongs accounts.rows username grant) =
          some grant := by
  unfold findGrant
  rw [Error.bind_eq_ok_iff]
  constructor
  · rintro ⟨grants, hgrants, hrest⟩
    obtain ⟨accounts, haccounts, hfound⟩ := Error.bind_eq_ok_iff.1 hrest
    refine ⟨grants, accounts, grantTable_eq_ok_iff.1 hgrants,
      accountTable_eq_ok_iff.1 haccounts, ?_⟩
    split at hfound
    · next found hrow =>
      obtain rfl := Except.ok.inj hfound
      exact hrow
    · exact nomatch hfound
  · rintro ⟨grants, accounts, hgrants, haccounts, hrow⟩
    refine ⟨grants, grantTable_eq_ok_iff.2 hgrants, Error.bind_eq_ok_iff.2
      ⟨accounts, accountTable_eq_ok_iff.2 haccounts, ?_⟩⟩
    rw [hrow]

end Tables

section Users

variable (username password : String) (admin : Bool) (ledger : Ledger)

theorem createUser_eq : createUser username password admin ledger =
    if username.isEmpty || password.isEmpty then .error (.badRequest .emptyCredentials)
    else (do
      let accounts ← ledger.accountTable
      if accounts.rows.any (·.username = username) then .error (.conflict (.account username))
      else .ok (⟨accounts.issued + 1, username, .password password, admin⟩,
        ledger.withAccounts (accounts.add (⟨·, username, .password password, admin⟩)))) := by
  simp only [createUser, bind_get, ite_eq, bind_throw, bind_lift, bind_set, pure_eq]

theorem updateUser_eq (password : Option String) (admin : Option Bool) :
    updateUser username password admin ledger = (do
      let found ← ledger.findAccount username
      if password = some "" then .error (.badRequest .emptyPassword)
      else do
        let accounts ← ledger.accountTable
        .ok ((), ledger.withAccounts (accounts.map (revised found.id password admin)))) := by
  simp only [updateUser, bind_get, ite_eq, bind_throw, bind_lift, set_eq]

theorem deleteUser_eq : deleteUser username ledger = (do
    let found ← ledger.findAccount username
    let experimentGrants ← ledger.grantTable .experiment
    let modelGrants ← ledger.grantTable .model
    let accounts ← ledger.accountTable
    .ok ((), ⟨some (accounts.drop (·.id = found.id)),
      some (experimentGrants.drop (·.holder = found.id)),
      some (modelGrants.drop (·.holder = found.id))⟩)) := by
  simp only [deleteUser, bind_get, bind_lift, set_eq]

end Users

section Grants

variable (kind : Kind) (key username levelName : String) (ledger : Ledger)

theorem createGrant_eq : createGrant kind key username levelName ledger = (do
    let level ← Level.ofName levelName
    let account ← ledger.findAccount username
    let grants ← ledger.grantTable kind
    if grants.rows.any (Grant.clashes ⟨0, key, account.id, level.name⟩) then
      .error (kind.conflict key username)
    else .ok (⟨kind, key, account.id, level⟩,
      ledger.withGrants kind (grants.add (⟨·, key, account.id, level.name⟩)))) := by
  simp only [createGrant, bind_get, ite_eq, bind_throw, bind_lift, bind_set, pure_eq]

theorem updateGrant_eq : updateGrant kind key username levelName ledger = (do
    let level ← Level.ofName levelName
    let found ← ledger.findGrant kind key username
    let grants ← ledger.grantTable kind
    .ok ((), ledger.withGrants kind (grants.map (relevelled found.id level)))) := by
  simp only [updateGrant, bind_get, bind_lift, set_eq]

theorem deleteGrant_eq : deleteGrant kind key username ledger = (do
    let found ← ledger.findGrant kind key username
    let grants ← ledger.grantTable kind
    .ok ((), ledger.withGrants kind (grants.drop (·.id = found.id)))) := by
  simp only [deleteGrant, bind_get, bind_lift, set_eq]

theorem dropModelGrants_eq (name : String) : dropModelGrants name ledger = (do
    let grants ← ledger.grantTable .model
    .ok (grants.rows.countP (·.key = name),
      ledger.withGrants .model (grants.drop (·.key = name)))) := by
  simp only [dropModelGrants, bind_get, bind_lift, bind_set, pure_eq]

theorem renameModelGrants_eq (old new : String) : renameModelGrants old new ledger = (do
    let grants ← ledger.grantTable .model
    if Grant.anyClash (grants.map (renamed old new)).rows then .error (.conflict (.modelGrants new))
    else .ok (grants.rows.countP (·.key = old),
      ledger.withGrants .model (grants.map (renamed old new)))) := by
  simp only [renameModelGrants, bind_get, ite_eq, bind_throw, bind_lift, bind_set, pure_eq]

end Grants

end Ledger

end Gatehouse
