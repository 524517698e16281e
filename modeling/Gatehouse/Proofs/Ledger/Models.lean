import Gatehouse.Proofs.Visibility

/-!
# Grants on registered models

What the statements on the grants of a registered model do to their rows, and to nothing else: all
grants of a name go, all of them come under another name, or one is entered at the end. Grants do
not come under another name where somebody would hold two of them; then nothing is done at all.
What a user is told of a grant of his stands in a row, since no two users share a name and no two
rows are to one user on one model.

## Main definitions

* `Ledger.modelRows`: The grants on registered models.
* `Ledger.Dropped`, `Ledger.Moved`, `Ledger.Entered`: What becomes of them.
* `Ledger.Shared`: Somebody holds grants on both of two models.
* `Ledger.HoldsManage`, `Ledger.HoldsNone`: What a user is told of a grant of his.
* `Ledger.Knows`: A sound ledger in which a user is entered.

## Theorems

* `Ledger.after_dropModelGrants`, `Ledger.after_renameModelGrants`, `Ledger.after_createGrant`:
  One statement each.
* `Ledger.grant_eq_ok_iff`, `Ledger.grant_absent_iff`: What is told of a grant.
* `Ledger.Entered.holdsManage`, `Ledger.Dropped.holdsNone`, `Ledger.Moved.holdsNone`,
  `Ledger.Moved.holdsManage`: What a user is told when grants have been entered, dropped or moved.
-/

namespace Gatehouse

namespace Ledger

/-- The grants on registered models. -/
def modelRows (ledger : Ledger) : List Grant := ledger.modelGrants.elim [] (·.rows)

/-- The grant of a user on a registered model. -/
def rowOf? (ledger : Ledger) (key : String) (holder : Nat) : Option Grant :=
  ledger.modelRows.find? fun grant => grant.key = key && grant.holder = holder

/-- The grants on a registered model are gone, and nothing else is. -/
structure Dropped (name : String) (before after : Ledger) : Prop where
  accounts : after.accounts = before.accounts
  experiments : after.experimentGrants = before.experimentGrants
  gone : ∀ grant ∈ after.modelRows, grant.key ≠ name
  others : after.modelRows.filter (·.key ≠ name) = before.modelRows.filter (·.key ≠ name)

/-- The grants on a registered model are under another name now, each with its level, and nothing
else has changed. -/
structure Moved (old new : String) (before after : Ledger) : Prop where
  accounts : after.accounts = before.accounts
  experiments : after.experimentGrants = before.experimentGrants
  gone : ∀ grant ∈ after.modelRows, grant.key ≠ old
  moved : ∀ grant ∈ before.modelRows, grant.key = old →
    { grant with key := new } ∈ after.modelRows
  kept : ∀ grant ∈ before.modelRows, grant.key ≠ old → grant ∈ after.modelRows
  only : ∀ grant ∈ after.modelRows, (∃ earlier ∈ before.modelRows, earlier.key = old ∧
    grant = { earlier with key := new }) ∨ grant ∈ before.modelRows

/-- The level to manage a registered model is granted, and nothing else has changed. -/
structure Entered (name : String) (holder : Nat) (before after : Ledger) : Prop where
  accounts : after.accounts = before.accounts
  experiments : after.experimentGrants = before.experimentGrants
  rows : ∃ id, after.modelRows = before.modelRows ++ [⟨id, name, holder, Level.manage.name⟩]

/-- Whether somebody holds grants on two registered models. -/
def Shared (ledger : Ledger) (old new : String) : Prop :=
  ∃ a ∈ ledger.modelRows, ∃ b ∈ ledger.modelRows, a.key = old ∧ b.key = new ∧ a.holder = b.holder

/-- Where there are no grants of the name nothing has to be done. -/
theorem Dropped.of_none {name : String} {ledger : Ledger}
    (h : ∀ grant ∈ ledger.modelRows, grant.key ≠ name) : Dropped name ledger ledger :=
  ⟨rfl, rfl, h, rfl⟩

theorem Moved.of_none {old new : String} {ledger : Ledger}
    (h : ∀ grant ∈ ledger.modelRows, grant.key ≠ old) : Moved old new ledger ledger where
  accounts := rfl
  experiments := rfl
  gone := h
  moved _ hgrant hold := absurd hold (h _ hgrant)
  kept _ hgrant _ := hgrant
  only _ hgrant := .inr hgrant

/-- All grants of a name are dropped. -/
theorem after_dropModelGrants (name : String) (ledger : Ledger) :
    Dropped name ledger ((dropModelGrants name).after ledger) := by
  cases hgrants : ledger.modelGrants with
  | none =>
      -- Without a table the call fails, and there is no grant to be dropped.
      have hsame : (dropModelGrants name).after ledger = ledger := by
        rw [Statement.after, dropModelGrants_eq, grantTable, grants?, hgrants]
        rfl
      rw [hsame]
      refine .of_none ?_
      rw [modelRows, hgrants]
      intro _ h
      cases h
  | some grants =>
      have hafter : (dropModelGrants name).after ledger =
          { ledger with modelGrants := some (grants.drop (·.key = name)) } := by
        rw [Statement.after, dropModelGrants_eq, grantTable, grants?, hgrants]
        rfl
      rw [hafter]
      refine ⟨rfl, rfl, ?_, ?_⟩
      · intro grant hgrant
        have hother := (List.mem_filter.1 hgrant).2
        simpa using hother
      · -- On both sides the rows of the other names are left.
        rw [modelRows, modelRows, hgrants]
        change List.filter _ (List.filter _ grants.rows) = grants.rows.filter _
        rw [List.filter_filter]
        refine List.filter_congr ?_
        intro grant _
        simp

theorem modelRows_of_some {ledger : Ledger} {grants : Table Grant}
    (hgrants : ledger.modelGrants = some grants) : ledger.modelRows = grants.rows := by
  rw [modelRows, hgrants]
  rfl

/-- Rows with another name are moved. -/
theorem Moved.of_rows {old new : String} {ledger : Ledger} {grants : Table Grant}
    (hne : old ≠ new) (hgrants : ledger.modelGrants = some grants) :
    Moved old new ledger { ledger with modelGrants := some (grants.map (renamed old new)) } := by
  have hmoved : ({ ledger with modelGrants := some (grants.map (renamed old new)) } :
      Ledger).modelRows = ledger.modelRows.map (renamed old new) := by
    rw [modelRows_of_some hgrants]
    rfl
  -- In turn: the old name is gone, its rows are moved, the others stay, and there are no more.
  refine ⟨rfl, rfl, ?_, ?_, ?_, ?_⟩
  all_goals rw [hmoved]
  · intro grant hgrant hold
    rcases List.mem_map.1 hgrant with ⟨earlier, -, rfl⟩
    rw [renamed_key] at hold
    split at hold
    · exact hne hold.symm
    · next hother => exact hother hold
  · intro grant hgrant hold
    refine List.mem_map.2 ⟨grant, hgrant, ?_⟩
    rw [renamed, if_pos hold]
  · intro grant hgrant hother
    refine List.mem_map.2 ⟨grant, hgrant, ?_⟩
    rw [renamed, if_neg hother]
  · intro grant hgrant
    rcases List.mem_map.1 hgrant with ⟨earlier, hearlier, rfl⟩
    unfold renamed
    split
    · next hold => exact .inl ⟨earlier, hearlier, hold, rfl⟩
    · exact .inr hearlier

/-- Under another name go all grants or none: none where somebody holds one under both names. -/
theorem after_renameModelGrants {old new : String} {ledger : Ledger} (hne : old ≠ new)
    (hunique : ledger.modelRows.Pairwise fun a b => ¬ (a.key = b.key ∧ a.holder = b.holder)) :
    (ledger.Shared old new → (renameModelGrants old new).after ledger = ledger) ∧
      (¬ ledger.Shared old new →
        Moved old new ledger ((renameModelGrants old new).after ledger)) := by
  cases hgrants : ledger.modelGrants with
  | none =>
      have hsame : (renameModelGrants old new).after ledger = ledger := by
        rw [Statement.after, renameModelGrants_eq, grantTable, grants?, hgrants]
        rfl
      have hempty : ledger.modelRows = [] := by
        rw [modelRows, hgrants]
        rfl
      rw [hsame]
      refine ⟨fun _ => rfl, fun _ => .of_none ?_⟩
      rw [hempty]
      intro _ h
      cases h
  | some grants =>
      rw [modelRows_of_some hgrants] at hunique
      -- The rename is refused where two rows would come to one name and one holder.
      have hclash : Grant.anyClash (grants.map (renamed old new)).rows = true ↔ _ :=
        anyClash_renamed_iff hne hunique
      have heq := renameModelGrants_eq ledger old new
      rw [grantTable_eq_ok_iff.2 (show ledger.grants? .model = some grants from hgrants)] at heq
      change _ = ite _ _ _ at heq
      rw [Shared, modelRows_of_some hgrants]
      constructor
      · intro hshared
        rw [if_pos (hclash.2 hshared)] at heq
        rw [Statement.after, heq]
      · intro hnone
        rw [if_neg fun hboth => hnone (hclash.1 hboth)] at heq
        rw [Statement.after_of_ok heq]
        exact .of_rows hne hgrants

section Users

variable {ledger changed : Ledger} {key username : String} {account : Account} {level : Level}

theorem findAccount_congr (h : changed.accounts = ledger.accounts) (username : String) :
    changed.findAccount username = ledger.findAccount username := by
  unfold findAccount accountTable
  rw [h]

/-- A user who has no grant yet on a registered model is granted the level to manage it. -/
theorem after_createGrant (hsound : ledger.Sound)
    (hfound : ledger.findAccount username = .ok account)
    (hnone : ∀ grant ∈ ledger.modelRows, grant.key = key → grant.holder ≠ account.id) :
    Entered key account.id ledger
      ((createGrant .model key username Level.manage.name).after ledger) := by
  rcases hsound with ⟨accounts, -, -, hall⟩
  rcases hall .model with ⟨grants, hgrants, -⟩
  rw [modelRows_of_some hgrants] at hnone
  -- The user holds nothing on the model, so no row is in the way of the new one.
  have hfree :
      ¬ grants.rows.any (Grant.clashes ⟨0, key, account.id, Level.manage.name⟩) = true := by
    rw [List.any_eq_true]
    rintro ⟨grant, hgrant, hclash⟩
    rw [Grant.clashes, Bool.and_eq_true, decide_eq_true_eq, decide_eq_true_eq] at hclash
    exact hnone grant hgrant hclash.1.symm hclash.2.symm
  have heq := createGrant_eq .model key username Level.manage.name ledger
  rw [hfound, grantTable_eq_ok_iff.2 hgrants] at heq
  change _ = ite _ _ _ at heq
  rw [if_neg hfree] at heq
  rw [Statement.after_of_ok heq]
  refine ⟨rfl, rfl, grants.issued + 1, ?_⟩
  rw [modelRows_of_some hgrants]
  rfl

/-- The grants of a user are those that his id holds. -/
theorem belongs_iff (hsound : ledger.Sound) {accounts : Table Account}
    (haccounts : ledger.accounts = some accounts)
    (hfound : ledger.findAccount username = .ok account) (grant : Grant) :
    belongs accounts.rows username grant = true ↔ grant.holder = account.id := by
  rcases mem_of_findAccount haccounts hfound with ⟨hmem, rfl⟩
  exact belongs_iff_holder (hsound.accountsSound haccounts).distinct hmem grant

/-- What a sound ledger says of its grants on registered models. -/
theorem Sound.models (hsound : ledger.Sound) : ∃ accounts grants,
    ledger.modelGrants = some grants ∧ ledger.modelRows = grants.rows ∧
      GrantsSound accounts grants := by
  rcases hsound with ⟨accounts, -, -, hall⟩
  rcases hall .model with ⟨grants, hgrants, hmodels⟩
  exact ⟨accounts.rows, grants, hgrants, modelRows_of_some hgrants, hmodels⟩

theorem Sound.modelRows_distinct (hsound : ledger.Sound) :
    ledger.modelRows.Pairwise fun a b => ¬ (a.key = b.key ∧ a.holder = b.holder) := by
  rcases hsound.models with ⟨accounts, grants, -, hrows, hmodels⟩
  rw [hrows]
  exact hmodels.distinct

/-- Its levels are known, so they are told. -/
theorem Sound.held_eq (hsound : ledger.Sound) {grant : Grant} (hmem : grant ∈ ledger.modelRows) :
    grant.held .model = .ok ⟨.model, grant.key, grant.holder, grant.levelOf⟩ := by
  rcases hsound.models with ⟨accounts, grants, -, hrows, hmodels⟩
  exact Grant.held_eq (hmodels.levelled grant (hrows ▸ hmem)) .model

/-- The row of a user on a model is the only one where no two rows are to one user on one model. -/
theorem rowOf?_iff_of_distinct
    (hdistinct : ledger.modelRows.Pairwise fun a b => ¬ (a.key = b.key ∧ a.holder = b.holder))
    {key : String} {holder : Nat} {grant : Grant} : ledger.rowOf? key holder = some grant ↔
      grant ∈ ledger.modelRows ∧ grant.key = key ∧ grant.holder = holder := by
  have hpairs : ledger.modelRows.Pairwise fun a b => (a.key, a.holder) ≠ (b.key, b.holder) :=
    hdistinct.imp fun happart hsame => happart (Prod.mk.inj hsame)
  rw [rowOf?]
  constructor
  · intro hfound
    have hboth := List.find?_some hfound
    rw [Bool.and_eq_true, decide_eq_true_eq, decide_eq_true_eq] at hboth
    exact ⟨List.mem_of_find?_eq_some hfound, hboth⟩
  · rintro ⟨hmem, rfl, rfl⟩
    -- The search ends at a row of the same key and holder, which can only be this one.
    cases hfound : ledger.modelRows.find? fun other =>
        other.key = grant.key && other.holder = grant.holder with
    | none => simpa using List.find?_eq_none.1 hfound grant hmem
    | some other =>
        have hboth := List.find?_some hfound
        rw [Bool.and_eq_true, decide_eq_true_eq, decide_eq_true_eq] at hboth
        rw [eq_of_pairwise_ne hpairs (List.mem_of_find?_eq_some hfound) hmem
          (Prod.ext hboth.1 hboth.2)]

theorem rowOf?_eq_some_iff (hsound : ledger.Sound) {key : String} {holder : Nat} {grant : Grant} :
    ledger.rowOf? key holder = some grant ↔
      grant ∈ ledger.modelRows ∧ grant.key = key ∧ grant.holder = holder :=
  rowOf?_iff_of_distinct hsound.modelRows_distinct

theorem rowOf?_eq_none_iff {key : String} {holder : Nat} : ledger.rowOf? key holder = none ↔
    ∀ grant ∈ ledger.modelRows, grant.key = key → grant.holder ≠ holder := by
  rw [rowOf?, List.find?_eq_none]
  simp

/-- A grant is told from the row of the user on the model. -/
theorem grant_eq (hsound : ledger.Sound) (hfound : ledger.findAccount username = .ok account)
    (key : String) : ledger.grant .model key username =
      match ledger.rowOf? key account.id with
      | some grant => grant.held .model
      | none => .error (.absent (.modelGrant key username)) := by
  rcases findAccount_eq_ok_iff.1 hfound with ⟨accounts, haccounts, -⟩
  rcases hsound.models with ⟨-, grants, hgrants, hrows, -⟩
  -- To be of the user of a name is to be held by his id.
  have hrow : (fun grant : Grant => decide (grant.key = key) &&
      belongs accounts.rows username grant) =
        fun grant => decide (grant.key = key) && decide (grant.holder = account.id) := by
    funext grant
    have hbelongs := (belongs_iff hsound haccounts hfound grant).trans decide_eq_true_iff.symm
    rw [Bool.eq_iff_iff.2 hbelongs]
  have htable : ledger.grantTable .model = .ok grants := grantTable_eq_ok_iff.2 hgrants
  rw [rowOf?, hrows, Ledger.grant, findGrant, htable, accountTable_eq_ok_iff.2 haccounts, ← hrow]
  change (match grants.rows.find? _ with
    | some grant => Except.ok grant
    | none => .error (Kind.absent key username .model)) >>= (Grant.held .model ·) = _
  cases grants.rows.find? _ <;> rfl

/-- A user is told that he holds no grant exactly where no row of the model is to him. -/
theorem grant_absent_iff (hsound : ledger.Sound)
    (hfound : ledger.findAccount username = .ok account) (key : String) :
    ledger.grant .model key username = .error (.absent (.modelGrant key username)) ↔
      ∀ grant ∈ ledger.modelRows, grant.key = key → grant.holder ≠ account.id := by
  rw [grant_eq hsound hfound, ← rowOf?_eq_none_iff]
  cases hrow : ledger.rowOf? key account.id with
  | none => simp
  | some grant =>
      simp only [hsound.held_eq ((rowOf?_eq_some_iff hsound).1 hrow).1, reduceCtorEq]

/-- A user is told the level of the row that is to him. -/
theorem grant_eq_ok_iff (hsound : ledger.Sound)
    (hfound : ledger.findAccount username = .ok account) (key : String) (level : Level) :
    ledger.grant .model key username = .ok ⟨.model, key, account.id, level⟩ ↔
      ∃ grant ∈ ledger.modelRows, grant.key = key ∧ grant.holder = account.id ∧
        grant.levelOf = level := by
  rw [grant_eq hsound hfound]
  constructor
  · intro h
    cases hrow : ledger.rowOf? key account.id with
    | none =>
        rw [hrow] at h
        exact nomatch h
    | some grant =>
        rcases (rowOf?_eq_some_iff hsound).1 hrow with ⟨hmem, hkey, hholder⟩
        rw [hrow] at h
        change grant.held .model = _ at h
        rw [hsound.held_eq hmem] at h
        exact ⟨grant, hmem, hkey, hholder, congrArg Held.level (Except.ok.inj h)⟩
  · rintro ⟨grant, hmem, rfl, hholder, rfl⟩
    rw [(rowOf?_eq_some_iff hsound).2 ⟨hmem, rfl, hholder⟩, ← hholder]
    exact hsound.held_eq hmem

end Users

/-- A user manages a registered model. -/
def HoldsManage (ledger : Ledger) (account : Account) (name : String) : Prop :=
  ledger.grant .model name account.username = .ok ⟨.model, name, account.id, .manage⟩

/-- A user holds no grant on a registered model. -/
def HoldsNone (ledger : Ledger) (account : Account) (name : String) : Prop :=
  ledger.grant .model name account.username =
    .error (.absent (.modelGrant name account.username))

/-- A sound ledger in which a user is entered. -/
structure Knows (ledger : Ledger) (account : Account) : Prop where
  sound : ledger.Sound
  found : ledger.findAccount account.username = .ok account

section Knows

variable {ledger before after : Ledger} {account : Account} {old new name other : String}

theorem Knows.call (h : ledger.Knows account) (call : Call)
    (haccounts : (call.after ledger).accounts = ledger.accounts) :
    (call.after ledger).Knows account :=
  ⟨(call.after_advances h.sound).sound, (findAccount_congr haccounts _).trans h.found⟩

theorem Knows.holdsManage_iff (h : ledger.Knows account) : ledger.HoldsManage account name ↔
    ∃ grant ∈ ledger.modelRows, grant.key = name ∧ grant.holder = account.id ∧
      grant.levelOf = .manage :=
  grant_eq_ok_iff h.sound h.found name .manage

theorem Knows.holdsNone_iff (h : ledger.Knows account) : ledger.HoldsNone account name ↔
    ∀ grant ∈ ledger.modelRows, grant.key = name → grant.holder ≠ account.id :=
  grant_absent_iff h.sound h.found name

/-- Who enters a model on which he holds no grant is granted the level to manage it. -/
theorem Knows.entered (h : ledger.Knows account) (hnone : ledger.HoldsNone account name) :
    Entered name account.id ledger
      ((createGrant .model name account.username Level.manage.name).after ledger) :=
  after_createGrant h.sound h.found (h.holdsNone_iff.1 hnone)

section Entered

variable (h : Entered name account.id before after) (hbefore : before.Knows account)
  (hafter : after.Knows account)
include h hafter

theorem Entered.holdsManage : after.HoldsManage account name := by
  rcases h.rows with ⟨id, hrows⟩
  refine hafter.holdsManage_iff.2 ⟨⟨id, name, account.id, Level.manage.name⟩, ?_, rfl, rfl, ?_⟩
  · rw [hrows]
    exact List.mem_append_right _ (List.mem_singleton.2 rfl)
  · rw [Grant.levelOf, Level.ofName_name]

include hbefore

theorem Entered.holdsNone (hne : name ≠ other) (hnone : before.HoldsNone account other) :
    after.HoldsNone account other := by
  rcases h.rows with ⟨id, hrows⟩
  rw [hafter.holdsNone_iff, hrows]
  intro grant hgrant hkey
  rcases List.mem_append.1 hgrant with hold | hnew
  · exact hbefore.holdsNone_iff.1 hnone grant hold hkey
  · rw [List.mem_singleton.1 hnew] at hkey
    exact absurd hkey hne

omit hafter in
/-- The new grant is to somebody who holds none on the other model. -/
theorem Entered.apart (hne : name ≠ other) (hnone : before.HoldsNone account other)
    (happart : ¬ before.Shared name other) : ¬ after.Shared name other := by
  rcases h.rows with ⟨id, hrows⟩
  rintro ⟨a, ha, b, hb, hkey, hother, hholder⟩
  rw [hrows] at ha hb
  have hb' : b ∈ before.modelRows := by
    refine (List.mem_append.1 hb).resolve_right ?_
    intro hnew
    rw [List.mem_singleton.1 hnew] at hother
    exact hne hother
  rcases List.mem_append.1 ha with hold | hnew
  · exact happart ⟨a, hold, b, hb', hkey, hother, hholder⟩
  · rw [List.mem_singleton.1 hnew] at hholder
    exact hbefore.holdsNone_iff.1 hnone b hb' hother hholder.symm

end Entered

section Dropped

variable (h : Dropped name before after) (hafter : after.Knows account)
include h hafter

theorem Dropped.holdsNone : after.HoldsNone account name :=
  hafter.holdsNone_iff.2 fun grant hgrant hkey => absurd hkey (h.gone grant hgrant)

theorem Dropped.holdsNone_other (hbefore : before.Knows account) (hne : other ≠ name)
    (hnone : before.HoldsNone account other) : after.HoldsNone account other := by
  rw [hafter.holdsNone_iff]
  intro grant hgrant hkey
  have hstays : grant ∈ before.modelRows.filter (·.key ≠ name) := by
    rw [← h.others]
    exact List.mem_filter.2 ⟨hgrant, decide_eq_true (hkey ▸ hne)⟩
  exact hbefore.holdsNone_iff.1 hnone grant (List.mem_filter.1 hstays).1 hkey

end Dropped

section Moved

variable (h : Moved old new before after) (hbefore : before.Knows account)
  (hafter : after.Knows account)
include h hafter

theorem Moved.holdsNone : after.HoldsNone account old :=
  hafter.holdsNone_iff.2 fun grant hgrant hkey => absurd hkey (h.gone grant hgrant)

include hbefore

theorem Moved.holdsNone_new (hold : before.HoldsNone account old)
    (hnew : before.HoldsNone account new) : after.HoldsNone account new := by
  rw [hafter.holdsNone_iff]
  intro grant hgrant hkey
  rcases h.only grant hgrant with ⟨earlier, hearlier, hname, rfl⟩ | hsame
  · exact hbefore.holdsNone_iff.1 hold earlier hearlier hname
  · exact hbefore.holdsNone_iff.1 hnew grant hsame hkey

/-- Whoever managed the model manages it under its other name. -/
theorem Moved.holdsManage (hmanage : before.HoldsManage account old) :
    after.HoldsManage account new := by
  rcases hbefore.holdsManage_iff.1 hmanage with ⟨grant, hgrant, hkey, hholder, hlevel⟩
  exact hafter.holdsManage_iff.2
    ⟨{ grant with key := new }, h.moved grant hgrant hkey, rfl, hholder, hlevel⟩

end Moved

end Knows

end Ledger

end Gatehouse
