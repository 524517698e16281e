import Gatehouse.Proofs.Ledger.Sound

/-!
# Statements on one key

A statement on one grant neither writes nor reads the grants on other keys: it leaves them and the
users as they are, and what comes of it is the same in every ledger with the same users and the
same grants on its key. All that is needed of the ledger is that ids are numbered in the order of
entry, so that a row is told by its id.

## Main definitions

* `Ledger.Numbered`: A ledger whose ids are numbered.
* `Ledger.Keeps`: A change that leaves the users, and ids numbered.
* `Ledger.SameBut`: Two ledgers whose grants differ on one key only.
* `Ledger.AgreesOn`: Two ledgers with the same users and the same grants on one key.
* `Ledger.OnKey`: A statement that writes and reads the grants on one key only.
* `Ledger.Repassworded`: A change that gives an account a new password.
* `Ledger.identities`: Who the users are, and which of them are administrators.

## Theorems

* `Ledger.createGrant_onKey`, `Ledger.grant_onKey`, `Ledger.updateGrant_onKey`,
  `Ledger.deleteGrant_onKey`: Statements on one grant.
* `Ledger.updateUser_repasswords`: A new password for a user.
* `Ledger.dropModelGrants_keeps`, `Ledger.renameModelGrants_keeps`: Statements on all grants of a
  name.
-/

namespace Gatehouse

namespace Ledger

open Statement

variable {α β : Type} {kind : Kind} {key username levelName : String}
  {ledger other changed : Ledger}

/-- A ledger whose ids are numbered in the order of entry. -/
structure Numbered (ledger : Ledger) : Prop where
  accounts : ∀ table, ledger.accounts = some table → table.Numbered (·.id)
  grants : ∀ kind table, ledger.grants? kind = some table → table.Numbered (·.id)

/-- A change that leaves the users as they are, and ids numbered. -/
structure Keeps (before after : Ledger) : Prop where
  accounts : after.accounts = before.accounts
  numbered : before.Numbered → after.Numbered

/-- Two ledgers whose grants differ on one key only. -/
structure SameBut (kind : Kind) (key : String) (before after : Ledger) : Prop where
  kinds : ∀ other, other ≠ kind → after.grants? other = before.grants? other
  rows : (after.grants? kind).map (fun table => table.rows.filter (·.key ≠ key)) =
    (before.grants? kind).map (fun table => table.rows.filter (·.key ≠ key))

/-- Two ledgers with the same users and the same grants on one key. -/
structure AgreesOn (kind : Kind) (key : String) (ledger other : Ledger) : Prop where
  accounts : other.accounts = ledger.accounts
  rows : (other.grants? kind).map (fun table => table.rows.filter (·.key = key)) =
    (ledger.grants? kind).map (fun table => table.rows.filter (·.key = key))

/-- A statement that writes and reads the grants on one key only. -/
structure OnKey (kind : Kind) (key : String) (statement : Statement α) : Prop where
  writes : ∀ ledger a changed, statement ledger = .ok (a, changed) →
    Keeps ledger changed ∧ (ledger.Numbered → SameBut kind key ledger changed)
  reads : ∀ ledger other, AgreesOn kind key ledger other →
    (statement other).map (·.1) = (statement ledger).map (·.1)

theorem Keeps.refl (ledger : Ledger) : Keeps ledger ledger := ⟨rfl, id⟩

theorem Keeps.after (statement : Statement α)
    (hok : ∀ a changed, statement ledger = .ok (a, changed) → Keeps ledger changed) :
    Keeps ledger (statement.after ledger) := after_induction statement (.refl ledger) hok

theorem SameBut.refl (kind : Kind) (key : String) (ledger : Ledger) :
    SameBut kind key ledger ledger := ⟨fun _ _ => rfl, rfl⟩

/-- Other grants of a kind, with the same rows on other keys. -/
theorem SameBut.withGrants {grants table : Table Grant} (hgrants : ledger.grants? kind = some grants)
    (hrows : table.rows.filter (·.key ≠ key) = grants.rows.filter (·.key ≠ key)) :
    SameBut kind key ledger (ledger.withGrants kind table) where
  kinds other hother := by rw [grants?_withGrants, if_neg hother]
  rows := by
    rw [grants?_withGrants, if_pos rfl, hgrants, Option.map_some, Option.map_some, hrows]

namespace Numbered

theorem withAccounts (h : ledger.Numbered) {table : Table Account}
    (htable : table.Numbered (·.id)) : (ledger.withAccounts table).Numbered where
  accounts found hfound := by
    obtain rfl := Option.some.inj hfound
    exact htable
  grants kind found hfound := by
    rw [grants?_withAccounts] at hfound
    exact h.grants kind found hfound

theorem withGrants (h : ledger.Numbered) {table : Table Grant}
    (htable : table.Numbered (·.id)) : (ledger.withGrants kind table).Numbered where
  accounts found hfound := by
    rw [accounts_withGrants] at hfound
    exact h.accounts found hfound
  grants other found hfound := by
    rw [grants?_withGrants] at hfound
    by_cases hother : other = kind
    · rw [if_pos hother] at hfound
      obtain rfl := Option.some.inj hfound
      exact htable
    · rw [if_neg hother] at hfound
      exact h.grants other found hfound

end Numbered

/-- Other grants of a kind, if their ids stay numbered. -/
theorem Keeps.withGrants {grants table : Table Grant} (hgrants : ledger.grants? kind = some grants)
    (htable : grants.Numbered (·.id) → table.Numbered (·.id)) :
    Keeps ledger (ledger.withGrants kind table) where
  accounts := accounts_withGrants ledger kind table
  numbered h := h.withGrants (htable (h.grants kind grants hgrants))

namespace AgreesOn

theorem findAccount (h : AgreesOn kind key ledger other) (username : String) :
    other.findAccount username = ledger.findAccount username := by
  unfold Ledger.findAccount accountTable
  rw [h.accounts]

/-- Both have the table, or none of them has. -/
theorem grantTable (h : AgreesOn kind key ledger other) :
    (∃ e, ledger.grantTable kind = .error e ∧ other.grantTable kind = .error e) ∨
      ∃ grants more, ledger.grantTable kind = .ok grants ∧ other.grantTable kind = .ok more ∧
        more.rows.filter (·.key = key) = grants.rows.filter (·.key = key) := by
  have hrows := h.rows
  unfold Ledger.grantTable
  cases hledger : ledger.grants? kind with
  | none =>
      rw [hledger, Option.map_none, Option.map_eq_none_iff] at hrows
      rw [hrows]
      exact .inl ⟨_, rfl, rfl⟩
  | some grants =>
      rw [hledger, Option.map_some] at hrows
      rcases Option.map_eq_some_iff.1 hrows with ⟨more, hmore, hsame⟩
      rw [hmore]
      exact .inr ⟨grants, more, rfl, rfl, hsame⟩

/-- A grant is looked for among those on its key. -/
theorem findGrant (h : AgreesOn kind key ledger other) (username : String) :
    other.findGrant kind key username = ledger.findGrant kind key username := by
  -- To look for the key and the user is to look for the user among the grants on the key.
  have hfilter (accounts : List Account) (rows : List Grant) :
      rows.find? (fun grant => grant.key = key && belongs accounts username grant) =
        (rows.filter (·.key = key)).find? (belongs accounts username) := by
    rw [List.find?_filter]
    congr 1
    funext grant
    simp
  unfold Ledger.findGrant
  rcases h.grantTable with ⟨e, hledger, hother⟩ | ⟨grants, more, hledger, hother, hsame⟩
  · rw [hledger, hother]
    rfl
  · have haccounts : other.accountTable = ledger.accountTable := by
      unfold accountTable
      rw [h.accounts]
    rw [hledger, hother, haccounts]
    change (ledger.accountTable >>= fun accounts => _) = (ledger.accountTable >>= fun accounts => _)
    congr 1
    funext accounts
    rw [hfilter, hfilter, hsame]

end AgreesOn

/-- The grant that is found is one on the key. -/
theorem mem_of_findGrant {grant : Grant} {grants : Table Grant}
    (hgrants : ledger.grants? kind = some grants)
    (h : ledger.findGrant kind key username = .ok grant) :
    grant ∈ grants.rows ∧ grant.key = key := by
  rcases findGrant_eq_ok_iff.1 h with ⟨table, accounts, htable, -, hrow⟩
  obtain rfl := Option.some.inj (hgrants.symm.trans htable)
  have hfound := List.find?_some hrow
  simp only [Bool.and_eq_true, decide_eq_true_eq] at hfound
  exact ⟨List.mem_of_find?_eq_some hrow, hfound.1⟩

namespace OnKey

/-- What is told of an outcome does not matter. -/
theorem map {statement : Statement α} (h : OnKey kind key statement) (f : α → β) :
    OnKey kind key (f <$> statement) where
  writes ledger b changed hok := by
    rw [map_eq] at hok
    cases hstatement : statement ledger with
    | error e =>
        rw [hstatement] at hok
        exact nomatch hok
    | ok result =>
        rw [hstatement] at hok
        obtain rfl := (Prod.mk.inj (Except.ok.inj hok)).2
        exact h.writes ledger result.1 result.2 hstatement
  reads ledger other hagrees := by
    have hsame := h.reads ledger other hagrees
    rw [map_eq, map_eq]
    -- Both succeed with the same result, or fail in the same way.
    cases hother : statement other <;> cases hledger : statement ledger
    all_goals
      rw [hother, hledger] at hsame
    · exact congrArg Except.error (Except.error.inj hsame)
    · exact nomatch hsame
    · exact nomatch hsame
    · exact congrArg (Except.ok ∘ f) (Except.ok.inj hsame)

theorem refused (e : Error) : OnKey kind key (fun _ => .error e : Statement α) where
  writes _ _ _ hok := nomatch hok
  reads _ _ _ := rfl

end OnKey

theorem createGrant_onKey (kind : Kind) (key username levelName : String) :
    OnKey kind key (createGrant kind key username levelName) where
  writes ledger held changed hok := by
    rw [createGrant_eq] at hok
    rcases Error.bind_eq_ok_iff.1 hok with ⟨level, -, hrest⟩
    rcases Error.bind_eq_ok_iff.1 hrest with ⟨account, -, hrest⟩
    rcases Error.bind_eq_ok_iff.1 hrest with ⟨grants, htable, hrest⟩
    have hgrants := grantTable_eq_ok_iff.1 htable
    split at hrest
    · exact nomatch hrest
    · obtain rfl := (Prod.mk.inj (Except.ok.inj hrest)).2
      refine ⟨.withGrants hgrants fun hids => hids.add rfl, fun _ => .withGrants hgrants ?_⟩
      simp [Table.add, List.filter_append]
  reads ledger other hagrees := by
    rw [createGrant_eq, createGrant_eq, hagrees.findAccount]
    cases Level.ofName levelName with
    | error e => rfl
    | ok level =>
        cases ledger.findAccount username with
        | error e => rfl
        | ok account =>
            rcases hagrees.grantTable with
              ⟨e, hledger, hother⟩ | ⟨grants, more, hledger, hother, hsame⟩
            · rw [hledger, hother]
              rfl
            · -- Only grants on the key can clash.
              have hclash (rows : List Grant) :
                  rows.any (Grant.clashes ⟨0, key, account.id, level.name⟩) =
                    (rows.filter (·.key = key)).any (·.holder = account.id) := by
                rw [List.any_filter]
                congr 1
                funext grant
                simp [Grant.clashes, eq_comm]
              have hany : more.rows.any (Grant.clashes ⟨0, key, account.id, level.name⟩) =
                  grants.rows.any (Grant.clashes ⟨0, key, account.id, level.name⟩) := by
                rw [hclash, hclash, hsame]
              rw [hledger, hother]
              simp only [bind, Except.bind, hany]
              split <;> rfl

theorem grant_onKey (kind : Kind) (key username : String) :
    OnKey kind key (look (grant kind key username)) where
  writes ledger held changed hok := by
    have hsame := after_of_ok hok
    rw [after_look] at hsame
    rw [← hsame]
    exact ⟨.refl ledger, fun _ => .refl kind key ledger⟩
  reads ledger other hagrees := by
    unfold look grant
    rw [hagrees.findGrant]
    cases ledger.findGrant kind key username with
    | error e => rfl
    | ok found =>
        change ((found.held kind).map (·, other)).map (·.1) =
          ((found.held kind).map (·, ledger)).map (·.1)
        cases found.held kind <;> rfl

theorem updateGrant_onKey (kind : Kind) (key username levelName : String) :
    OnKey kind key (updateGrant kind key username levelName) where
  writes ledger _ changed hok := by
    rw [updateGrant_eq] at hok
    rcases Error.bind_eq_ok_iff.1 hok with ⟨level, -, hrest⟩
    rcases Error.bind_eq_ok_iff.1 hrest with ⟨found, hfound, hrest⟩
    rcases Error.bind_eq_ok_iff.1 hrest with ⟨grants, htable, hset⟩
    obtain rfl := (Prod.mk.inj (Except.ok.inj hset)).2
    have hgrants := grantTable_eq_ok_iff.1 htable
    rcases mem_of_findGrant hgrants hfound with ⟨hmem, hkey⟩
    refine ⟨.withGrants hgrants fun hids => hids.map (relevelled_id found.id level),
      fun hnumbered => .withGrants hgrants ?_⟩
    have hids := hnumbered.grants kind grants hgrants
    -- The row with another level is on the key, before and after.
    have hkeys : ((fun grant : Grant => decide (grant.key ≠ key)) ∘ relevelled found.id level) =
        fun grant => decide (grant.key ≠ key) := by
      funext grant
      rw [Function.comp_apply, relevelled_key]
    have hsame : ∀ grant ∈ grants.rows.filter (·.key ≠ key),
        relevelled found.id level grant = id grant := by
      intro grant hgrant
      rcases List.mem_filter.1 hgrant with ⟨hin, hother⟩
      refine if_neg ?_
      intro hid
      obtain rfl := hids.eq_of_id hin hmem hid
      exact of_decide_eq_true hother hkey
    rw [Table.map, List.filter_map, hkeys, List.map_congr_left hsame, List.map_id]
  reads ledger other hagrees := by
    rw [updateGrant_eq, updateGrant_eq, hagrees.findGrant]
    cases Level.ofName levelName with
    | error e => rfl
    | ok level =>
        cases ledger.findGrant kind key username with
        | error e => rfl
        | ok found =>
            rcases hagrees.grantTable with
              ⟨e, hledger, hother⟩ | ⟨grants, more, hledger, hother, -⟩
            · rw [hledger, hother]
              rfl
            · rw [hledger, hother]
              rfl

theorem deleteGrant_onKey (kind : Kind) (key username : String) :
    OnKey kind key (deleteGrant kind key username) where
  writes ledger _ changed hok := by
    rw [deleteGrant_eq] at hok
    rcases Error.bind_eq_ok_iff.1 hok with ⟨found, hfound, hrest⟩
    rcases Error.bind_eq_ok_iff.1 hrest with ⟨grants, htable, hset⟩
    obtain rfl := (Prod.mk.inj (Except.ok.inj hset)).2
    have hgrants := grantTable_eq_ok_iff.1 htable
    rcases mem_of_findGrant hgrants hfound with ⟨hmem, hkey⟩
    refine ⟨.withGrants hgrants fun hids => hids.drop (·.id = found.id),
      fun hnumbered => .withGrants hgrants ?_⟩
    have hids := hnumbered.grants kind grants hgrants
    rw [Table.drop, List.filter_filter]
    refine List.filter_congr ?_
    intro grant hgrant
    by_cases hother : grant.key = key
    · simp [hother]
    · -- A row on another key is not the row that goes.
      have hid : grant.id ≠ found.id := by
        intro hid
        obtain rfl := hids.eq_of_id hgrant hmem hid
        exact hother hkey
      simp [hother, hid]
  reads ledger other hagrees := by
    rw [deleteGrant_eq, deleteGrant_eq, hagrees.findGrant]
    cases ledger.findGrant kind key username with
    | error e => rfl
    | ok found =>
        rcases hagrees.grantTable with
          ⟨e, hledger, hother⟩ | ⟨grants, more, hledger, hother, -⟩
        · rw [hledger, hother]
          rfl
        · rw [hledger, hother]
          rfl

/-- A new password for an account, and nothing else. -/
def Repassworded (account : Account) (before after : Ledger) : Prop :=
  ∃ accounts password, before.accounts = some accounts ∧
    after = before.withAccounts (accounts.map (revised account.id (some password) none))

/-- Who the users are, and which of them are administrators. -/
def identities (ledger : Ledger) : Option (List (Nat × String × Bool)) :=
  ledger.accounts.map fun table => table.rows.map fun account =>
    (account.id, account.username, account.admin)

theorem Keeps.identities (h : Keeps ledger changed) : changed.identities = ledger.identities := by
  rw [Ledger.identities, Ledger.identities, h.accounts]

namespace Repassworded

variable {account : Account}

theorem identities (h : Repassworded account ledger changed) :
    changed.identities = ledger.identities := by
  rcases h with ⟨accounts, password, haccounts, rfl⟩
  have hrow : (fun row : Account => (row.id, row.username, row.admin)) ∘
      revised account.id (some password) none = fun row => (row.id, row.username, row.admin) := by
    funext row
    rw [Function.comp_apply, revised]
    split <;> rfl
  simp only [Ledger.identities, accounts_withAccounts, haccounts, Option.map_some, Table.map,
    List.map_map, hrow]

theorem numbered (h : Repassworded account ledger changed) (hnumbered : ledger.Numbered) :
    changed.Numbered := by
  rcases h with ⟨accounts, password, haccounts, rfl⟩
  exact hnumbered.withAccounts ((hnumbered.accounts accounts haccounts).map (revised_id _ _ _))

end Repassworded

/-- A new password for the user of a name is one for the account that is found under it. -/
theorem updateUser_repasswords {account : Account}
    (hfound : ledger.findAccount username = .ok account) (password : String) :
    (updateUser username (some password) none).after ledger = ledger ∨
      Repassworded account ledger ((updateUser username (some password) none).after ledger) := by
  cases hok : updateUser username (some password) none ledger with
  | error e =>
      -- A statement that fails leaves the ledger as it was.
      left
      rw [after, hok]
  | ok result =>
      right
      rw [after_of_ok hok]
      rw [updateUser_eq] at hok
      rcases Error.bind_eq_ok_iff.1 hok with ⟨row, hrow, hrest⟩
      obtain rfl := Except.ok.inj (hrow.symm.trans hfound)
      split at hrest
      · cases hrest
      · rcases Error.bind_eq_ok_iff.1 hrest with ⟨accounts, htable, hset⟩
        exact ⟨accounts, password, accountTable_eq_ok_iff.1 htable,
          (Prod.mk.inj (Except.ok.inj hset)).2.symm⟩

theorem dropModelGrants_keeps {name : String} {count : Nat}
    (hok : dropModelGrants name ledger = .ok (count, changed)) : Keeps ledger changed := by
  rw [dropModelGrants_eq] at hok
  rcases Error.bind_eq_ok_iff.1 hok with ⟨grants, htable, hset⟩
  obtain rfl := (Prod.mk.inj (Except.ok.inj hset)).2
  exact .withGrants (grantTable_eq_ok_iff.1 htable) fun hids => hids.drop _

theorem renameModelGrants_keeps {old new : String} {count : Nat}
    (hok : renameModelGrants old new ledger = .ok (count, changed)) : Keeps ledger changed := by
  rw [renameModelGrants_eq] at hok
  rcases Error.bind_eq_ok_iff.1 hok with ⟨grants, htable, hrest⟩
  split at hrest
  · exact nomatch hrest
  · obtain rfl := (Prod.mk.inj (Except.ok.inj hrest)).2
    refine .withGrants (grantTable_eq_ok_iff.1 htable) fun hids => hids.map ?_
    intro grant
    unfold renamed
    split <;> rfl

end Ledger

end Gatehouse
