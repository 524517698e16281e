import Gatehouse.Owner
import Gatehouse.Proofs.Ledger.Sound

/-!
# The rows of one user

What the gateway reads of a ledger to decide about a user are his account and one grant. Both are
found by joining tables, by his name and over his id, but where the unique indexes hold there is
one row at most that the join can give: so what is found can be said without ids, and two ledgers
that say the same of a user and a key are read alike, whatever else stands in them.

The levels of grants need not be known ones: reading such a grant fails, and it fails in the same
way on both sides.

## Main definitions

* `Ledger.Unique`: A ledger whose unique indexes hold.
* `Ledger.HasAccount`, `Ledger.HoldsLevel`: What a ledger says of a user, and of his grant on a key.
* `Ledger.SameAccount`, `Ledger.SameGrant`: Two ledgers say the same of that.

## Theorems

* `Ledger.Unique.findAccount_congr`: Two ledgers that say the same of a user.
* `Ledger.Unique.levelOn_congr`: Two ledgers that say the same of his grant on a key.
-/

namespace Gatehouse

namespace Ledger

/-- A ledger whose unique indexes hold: no two users have a name in common, and no two grants of a
kind are to one user on one key. -/
structure Unique (ledger : Ledger) : Prop where
  accounts : ∃ accounts, ledger.accounts = some accounts ∧
    accounts.rows.Pairwise fun a b => a.username ≠ b.username
  grants : ∀ kind, ∃ grants, ledger.grants? kind = some grants ∧
    grants.rows.Pairwise fun a b => ¬ (a.key = b.key ∧ a.holder = b.holder)

/-- There is a user of a name, with a secret, and he is an administrator or not. -/
def HasAccount (ledger : Ledger) (username : String) (secret : Secret) (admin : Bool) : Prop :=
  ∃ accounts account, ledger.accounts = some accounts ∧ account ∈ accounts.rows ∧
    account.username = username ∧ account.secret = secret ∧ account.admin = admin

/-- The user of a name holds a grant on a key, of a level that is told by its name. -/
def HoldsLevel (ledger : Ledger) (kind : Kind) (key username level : String) : Prop :=
  ∃ accounts grants account grant, ledger.accounts = some accounts ∧
    ledger.grants? kind = some grants ∧ account ∈ accounts.rows ∧ grant ∈ grants.rows ∧
    account.username = username ∧ grant.holder = account.id ∧ grant.key = key ∧
    grant.level = level

/-- Two ledgers say the same of a user: there is none of his name in either, or there is one in both
with the same secret and the same rank. -/
def SameAccount (ledger other : Ledger) (username : String) : Prop :=
  ∀ secret admin, ledger.HasAccount username secret admin ↔ other.HasAccount username secret admin

/-- Two ledgers say the same of the grant of a user on a resource: he holds none in either, or one
of the same level in both. -/
def SameGrant (ledger other : Ledger) (owner : Owner) (username : String) : Prop :=
  ∀ level, ledger.HoldsLevel owner.kind owner.key username level ↔
    other.HoldsLevel owner.kind owner.key username level

namespace Unique

variable {ledger other : Ledger} {username : String}

/-- The user of a name is found. -/
theorem findAccount_of_hasAccount (h : ledger.Unique) {secret : Secret} {admin : Bool}
    (hhas : ledger.HasAccount username secret admin) : ∃ account,
      ledger.findAccount username = .ok account ∧ account.username = username ∧
        account.secret = secret ∧ account.admin = admin := by
  rcases hhas with ⟨accounts, account, haccounts, hmem, hname, hsecret, hadmin⟩
  rcases h.accounts with ⟨table, htable, hnames⟩
  obtain rfl := Option.some.inj (haccounts.symm.trans htable)
  cases hrow : accounts.rows.find? (·.username = username) with
  | none =>
      have hother := List.find?_eq_none.1 hrow account hmem
      rw [decide_eq_true_eq] at hother
      exact absurd hname hother
  | some found =>
      have hfound : found.username = username := by simpa using List.find?_some hrow
      -- Two rows of one name would be two users of it.
      obtain rfl : found = account :=
        eq_of_pairwise_ne hnames (List.mem_of_find?_eq_some hrow) hmem (hfound.trans hname.symm)
      exact ⟨found, findAccount_eq_ok_iff.2 ⟨accounts, haccounts, hrow⟩, hname, hsecret, hadmin⟩

/-- Where there is none the search says so. -/
theorem findAccount_of_none (h : ledger.Unique)
    (hnone : ∀ secret admin, ¬ ledger.HasAccount username secret admin) :
    ledger.findAccount username = .error (.absent (.account username)) := by
  rcases h.accounts with ⟨accounts, haccounts, -⟩
  have hrow : accounts.rows.find? (·.username = username) = none := by
    refine List.find?_eq_none.2 ?_
    intro account hmem hname
    exact hnone account.secret account.admin
      ⟨accounts, account, haccounts, hmem, of_decide_eq_true hname, rfl, rfl⟩
  rw [findAccount, accountTable_eq_ok_iff.2 haccounts]
  simp only [bind, Except.bind, hrow]

/-- In two ledgers that say the same of a user, he is found in both or in neither. -/
theorem findAccount_congr (h : ledger.Unique) (hother : other.Unique)
    (hsame : ledger.SameAccount other username) :
    (∃ a b, ledger.findAccount username = .ok a ∧ other.findAccount username = .ok b ∧
      a.username = username ∧ b.username = username ∧ a.secret = b.secret ∧ a.admin = b.admin) ∨
    (ledger.findAccount username = .error (.absent (.account username)) ∧
      other.findAccount username = .error (.absent (.account username))) := by
  by_cases hhas : ∃ secret admin, ledger.HasAccount username secret admin
  · rcases hhas with ⟨secret, admin, hhas⟩
    rcases h.findAccount_of_hasAccount hhas with ⟨a, ha, hnameA, hsecretA, hadminA⟩
    rcases hother.findAccount_of_hasAccount ((hsame secret admin).1 hhas) with
      ⟨b, hb, hnameB, hsecretB, hadminB⟩
    exact .inl ⟨a, b, ha, hb, hnameA, hnameB, hsecretA.trans hsecretB.symm,
      hadminA.trans hadminB.symm⟩
  · have hnone : ∀ secret admin, ¬ ledger.HasAccount username secret admin :=
      fun secret admin hone => hhas ⟨secret, admin, hone⟩
    exact .inr ⟨h.findAccount_of_none hnone,
      hother.findAccount_of_none fun secret admin => mt (hsame secret admin).2 (hnone secret admin)⟩

variable {kind : Kind} {key : String}

/-- The grant that a user holds on a key is found: there is no other one. -/
theorem findGrant_of_mem (h : ledger.Unique) {accounts : Table Account} {grants : Table Grant}
    (haccounts : ledger.accounts = some accounts) (hgrants : ledger.grants? kind = some grants)
    {account : Account} (hmem : account ∈ accounts.rows) {grant : Grant}
    (hgrant : grant ∈ grants.rows) (hholder : grant.holder = account.id) :
    ledger.findGrant kind grant.key account.username = .ok grant := by
  rcases h.accounts with ⟨accounts', haccounts', hnames⟩
  obtain rfl := Option.some.inj (haccounts.symm.trans haccounts')
  rcases h.grants kind with ⟨grants', hgrants', hclash⟩
  obtain rfl := Option.some.inj (hgrants.symm.trans hgrants')
  -- The index is on key and holder together.
  have hdistinct : grants.rows.Pairwise fun a b => (a.key, a.holder) ≠ (b.key, b.holder) :=
    hclash.imp fun hno hsame => hno ⟨congrArg Prod.fst hsame, congrArg Prod.snd hsame⟩
  refine findGrant_eq_ok_iff.2 ⟨grants, accounts, hgrants, haccounts, ?_⟩
  cases hrow : grants.rows.find? fun row =>
      row.key = grant.key && belongs accounts.rows account.username row with
  | none =>
      have hmissed := List.find?_eq_none.1 hrow grant hgrant
      rw [Bool.and_eq_true, decide_eq_true_eq, belongs_iff_holder hnames hmem] at hmissed
      exact absurd ⟨rfl, hholder⟩ hmissed
  | some found =>
      have hfound := List.find?_some hrow
      rw [Bool.and_eq_true, decide_eq_true_eq, belongs_iff_holder hnames hmem] at hfound
      rw [eq_of_pairwise_ne hdistinct (List.mem_of_find?_eq_some hrow) hgrant
        (Prod.ext hfound.1 (hfound.2.trans hholder.symm))]

/-- The level on a key is that of the grant that the user holds, if it is a known one. -/
theorem levelOn_of_holdsLevel (h : ledger.Unique) {level : String}
    (hholds : ledger.HoldsLevel kind key username level) (default : Level) :
    ledger.levelOn default (some ⟨kind, key⟩) username = Level.ofName level := by
  rcases hholds with
    ⟨accounts, grants, account, grant, haccounts, hgrants, hmem, hgrant, rfl, hholder, rfl, rfl⟩
  have hfound := h.findGrant_of_mem haccounts hgrants hmem hgrant hholder
  have hgrant : ledger.grant kind grant.key account.username = grant.held kind := by
    rw [Ledger.grant, hfound]
    rfl
  rw [levelOn, hgrant, Grant.held, Level.ofName]
  cases Level.all.find? (·.name = grant.level) <;> rfl

/-- Where he holds none it is the default. -/
theorem levelOn_of_none (h : ledger.Unique)
    (hnone : ∀ level, ¬ ledger.HoldsLevel kind key username level) (default : Level) :
    ledger.levelOn default (some ⟨kind, key⟩) username = .ok default := by
  rcases h.accounts with ⟨accounts, haccounts, -⟩
  rcases h.grants kind with ⟨grants, hgrants, -⟩
  -- A row that is found is held by a user of the name.
  have hrow : (grants.rows.find? fun grant =>
      grant.key = key && belongs accounts.rows username grant) = none := by
    refine List.find?_eq_none.2 ?_
    intro grant hgrant hboth
    rw [Bool.and_eq_true, decide_eq_true_eq] at hboth
    rcases List.any_eq_true.1 hboth.2 with ⟨account, hmem, hholds⟩
    rw [Bool.and_eq_true, decide_eq_true_eq, decide_eq_true_eq] at hholds
    exact hnone grant.level ⟨accounts, grants, account, grant, haccounts, hgrants, hmem, hgrant,
      hholds.2, hholds.1.symm, hboth.1, rfl⟩
  have hgrant : ledger.grant kind key username = .error (kind.absent key username) := by
    rw [Ledger.grant, findGrant, grantTable_eq_ok_iff.2 hgrants, accountTable_eq_ok_iff.2 haccounts]
    simp only [bind, Except.bind, hrow]
  rw [levelOn, hgrant]
  cases kind <;> rfl

/-- In two ledgers that say the same of a user and a key, he has the same level on it. -/
theorem levelOn_congr (h : ledger.Unique) (hother : other.Unique) {owner : Owner}
    (hsame : ledger.SameGrant other owner username) (default : Level) :
    ledger.levelOn default (some owner) username =
      other.levelOn default (some owner) username := by
  rcases owner with ⟨kind, key⟩
  by_cases hholds : ∃ level, ledger.HoldsLevel kind key username level
  · rcases hholds with ⟨level, hholds⟩
    rw [h.levelOn_of_holdsLevel hholds, hother.levelOn_of_holdsLevel ((hsame level).1 hholds)]
  · have hnone : ∀ level, ¬ ledger.HoldsLevel kind key username level :=
      fun level hone => hholds ⟨level, hone⟩
    rw [h.levelOn_of_none hnone,
      hother.levelOn_of_none fun level => mt (hsame level).2 (hnone level)]

end Unique

end Ledger

end Gatehouse
