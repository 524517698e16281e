import Gatehouse.Proofs.Ledger.Statement

/-!
# Sound ledgers

What the tables of a ledger keep to: ids increase and come from those that were issued, no two
users share a name and no two grants clash, every name says something, every grant belongs to a
user and has a level that is known. Each statement keeps all of that, and a later ledger tells
which rows it has from an earlier one: those whose ids had been issued by then.

## Main definitions

* `Table.Numbered`: Ids increase, and all of them have been issued.
* `Table.Follows`: A later state of a table.
* `Ledger.AccountsSound`, `Ledger.GrantsSound`, `Ledger.Sound`: What the tables keep to.
* `Ledger.Follows`: A later state of a ledger.
* `Ledger.Advances`: What one statement does to a sound ledger.

## Theorems

* `Ledger.belongs_iff_holder`: The grants of a user.
* `Ledger.createUser_advances`, `Ledger.updateUser_advances`, `Ledger.deleteUser_advances`,
  `Ledger.createGrant_advances`, `Ledger.updateGrant_advances`, `Ledger.deleteGrant_advances`,
  `Ledger.dropModelGrants_advances`, `Ledger.renameModelGrants_advances`: One statement each.
-/

namespace Gatehouse

/-- Of items that differ in something no two are alike in it. -/
theorem eq_of_pairwise_ne {α β : Type} {f : α → β} {items : List α}
    (h : items.Pairwise fun a b => f a ≠ f b) {a b : α} (ha : a ∈ items) (hb : b ∈ items)
    (hsame : f a = f b) : a = b := by
  induction items with
  | nil => exact nomatch ha
  | cons item rest ih =>
      rcases List.pairwise_cons.1 h with ⟨hfirst, hrest⟩
      rcases List.mem_cons.1 ha with rfl | ha'
      · rcases List.mem_cons.1 hb with rfl | hb'
        · rfl
        · exact absurd hsame (hfirst b hb')
      · rcases List.mem_cons.1 hb with rfl | hb'
        · exact absurd hsame.symm (hfirst a ha')
        · exact ih hrest ha' hb'

namespace Ledger

/-- The grants of a user are those that his id holds, if nobody else has his name. -/
theorem belongs_iff_holder {accounts : List Account}
    (hnames : accounts.Pairwise fun a b => a.username ≠ b.username) {account : Account}
    (hmem : account ∈ accounts) (grant : Grant) :
    belongs accounts account.username grant = true ↔ grant.holder = account.id := by
  rw [belongs, List.any_eq_true]
  constructor
  · rintro ⟨other, hother, hboth⟩
    rw [Bool.and_eq_true, decide_eq_true_eq, decide_eq_true_eq] at hboth
    rw [← hboth.1, eq_of_pairwise_ne hnames hother hmem hboth.2]
  · intro hholder
    refine ⟨account, hmem, ?_⟩
    rw [Bool.and_eq_true, decide_eq_true_eq, decide_eq_true_eq]
    exact ⟨hholder.symm, rfl⟩

end Ledger

namespace Table

variable {α β : Type} {id : α → Nat} {mark : α → β} {table before after last : Table α}

/-- The ids of the rows increase, and all of them have been issued. -/
structure Numbered (id : α → Nat) (table : Table α) : Prop where
  increasing : table.rows.Pairwise fun a b => id a < id b
  issued : ∀ row ∈ table.rows, id row ≤ table.issued

/-- A later state of a table: ids go on where they were, and a row whose id had been issued before
is one of the rows of then, with the same mark. -/
structure Follows (id : α → Nat) (mark : α → β) (before after : Table α) : Prop where
  issued : before.issued ≤ after.issued
  kept : ∀ row ∈ after.rows, id row ≤ before.issued →
    ∃ old ∈ before.rows, id old = id row ∧ mark old = mark row

namespace Numbered

/-- A row is told by its id. -/
theorem eq_of_id (h : table.Numbered id) {a b : α} (ha : a ∈ table.rows) (hb : b ∈ table.rows)
    (hid : id a = id b) : a = b :=
  eq_of_pairwise_ne (h.increasing.imp Nat.ne_of_lt) ha hb hid

theorem empty : (Table.empty : Table α).Numbered id where
  increasing := List.Pairwise.nil
  issued _ h := nomatch h

theorem add (h : table.Numbered id) {row : Nat → α}
    (hrow : id (row (table.issued + 1)) = table.issued + 1) : (table.add row).Numbered id where
  increasing := by
    refine List.pairwise_append.2 ⟨h.increasing, List.pairwise_singleton _ _, ?_⟩
    intro a ha b hb
    rw [List.mem_singleton.1 hb, hrow]
    have := h.issued a ha
    omega
  issued := by
    intro a ha
    change id a ≤ table.issued + 1
    rcases List.mem_append.1 ha with hold | hnew
    · have := h.issued a hold
      omega
    · rw [List.mem_singleton.1 hnew]
      exact Nat.le_of_eq hrow

theorem drop (h : table.Numbered id) (p : α → Bool) : (table.drop p).Numbered id where
  increasing := h.increasing.filter _
  issued row hrow := h.issued row (List.mem_filter.1 hrow).1

theorem map (h : table.Numbered id) {f : α → α} (hf : ∀ row, id (f row) = id row) :
    (table.map f).Numbered id where
  increasing := by
    refine List.pairwise_map.2 (h.increasing.imp ?_)
    intro a b hab
    rw [hf, hf]
    exact hab
  issued := by
    intro row hrow
    rcases List.mem_map.1 hrow with ⟨old, hold, rfl⟩
    rw [hf]
    exact h.issued old hold

end Numbered

namespace Follows

theorem refl (id : α → Nat) (mark : α → β) (table : Table α) : Follows id mark table table where
  issued := Nat.le_refl _
  kept row hrow _ := ⟨row, hrow, rfl, rfl⟩

theorem trans (h₁ : Follows id mark before after) (h₂ : Follows id mark after last) :
    Follows id mark before last where
  issued := Nat.le_trans h₁.issued h₂.issued
  kept := by
    intro row hrow hid
    rcases h₂.kept row hrow (Nat.le_trans hid h₁.issued) with ⟨mid, hmid, hsame, hmark⟩
    rcases h₁.kept mid hmid (hsame ▸ hid) with ⟨old, hold, hsame', hmark'⟩
    exact ⟨old, hold, hsame'.trans hsame, hmark'.trans hmark⟩

theorem add {row : Nat → α} (hrow : id (row (table.issued + 1)) = table.issued + 1) :
    Follows id mark table (table.add row) where
  issued := Nat.le_succ _
  kept := by
    intro a ha hid
    rcases List.mem_append.1 ha with hold | hnew
    · exact ⟨a, hold, rfl, rfl⟩
    · -- The new row has an id beyond those that had been issued.
      rw [List.mem_singleton.1 hnew, hrow] at hid
      omega

theorem drop (p : α → Bool) : Follows id mark table (table.drop p) where
  issued := Nat.le_refl _
  kept row hrow _ := ⟨row, (List.mem_filter.1 hrow).1, rfl, rfl⟩

theorem map {f : α → α} (hid : ∀ row, id (f row) = id row)
    (hmark : ∀ row, mark (f row) = mark row) : Follows id mark table (table.map f) where
  issued := Nat.le_refl _
  kept := by
    intro row hrow _
    rcases List.mem_map.1 hrow with ⟨old, hold, rfl⟩
    exact ⟨old, hold, (hid old).symm, (hmark old).symm⟩

end Follows

end Table

/-- Without a clash no two of the grants are to one account on one resource. -/
theorem Grant.anyClash_eq_false {grants : List Grant} (h : Grant.anyClash grants = false) :
    grants.Pairwise fun a b => ¬ (a.key = b.key ∧ a.holder = b.holder) := by
  induction grants with
  | nil => exact List.Pairwise.nil
  | cons grant rest ih =>
      rw [Grant.anyClash, Bool.or_eq_false_iff, List.any_eq_false] at h
      refine List.Pairwise.cons ?_ (ih h.2)
      intro other hother hclash
      refine h.1 other hother ?_
      rw [Grant.clashes, Bool.and_eq_true, decide_eq_true_eq, decide_eq_true_eq]
      exact hclash

/-- Grants of which no two are to one account on one resource do not clash. -/
theorem Grant.anyClash_of_pairwise {grants : List Grant}
    (h : grants.Pairwise fun a b => ¬ (a.key = b.key ∧ a.holder = b.holder)) :
    Grant.anyClash grants = false := by
  induction h with
  | nil => rfl
  | @cons grant rest hfirst _ ih =>
      rw [Grant.anyClash, ih, Bool.or_false, List.any_eq_false]
      intro other hother hclash
      rw [Grant.clashes, Bool.and_eq_true, decide_eq_true_eq, decide_eq_true_eq] at hclash
      exact hfirst other hother hclash

namespace Ledger

/-- What the users keep to. -/
structure AccountsSound (accounts : Table Account) : Prop where
  numbered : accounts.Numbered (·.id)
  distinct : accounts.rows.Pairwise fun a b => a.username ≠ b.username
  named : ∀ account ∈ accounts.rows, account.username ≠ ""

/-- What the grants of a kind keep to, with these users. -/
structure GrantsSound (accounts : List Account) (grants : Table Grant) : Prop where
  numbered : grants.Numbered (·.id)
  distinct : grants.rows.Pairwise fun a b => ¬ (a.key = b.key ∧ a.holder = b.holder)
  held : ∀ grant ∈ grants.rows, ∃ account ∈ accounts, account.id = grant.holder
  levelled : ∀ grant ∈ grants.rows, ∃ level : Level, grant.level = level.name

/-- A ledger with all its tables, each of which keeps to what it has to. -/
def Sound (ledger : Ledger) : Prop :=
  ∃ accounts, ledger.accounts = some accounts ∧ AccountsSound accounts ∧
    ∀ kind, ∃ grants, ledger.grants? kind = some grants ∧ GrantsSound accounts.rows grants

/-- A later state of a ledger: in no table is an id used for another row than before, a user keeps
his name and a grant its holder. -/
structure Follows (before after : Ledger) : Prop where
  accounts : ∀ old new, before.accounts = some old → after.accounts = some new →
    Table.Follows (·.id) (·.username) old new
  grants : ∀ kind old new, before.grants? kind = some old → after.grants? kind = some new →
    Table.Follows (·.id) (·.holder) old new

/-- What one statement does to a sound ledger: it stays sound, and no statement enters a user and
a grant at once. -/
structure Advances (before after : Ledger) : Prop where
  sound : after.Sound
  follows : Follows before after
  apart : after.accounts.map (·.issued) = before.accounts.map (·.issued) ∨
    ∀ kind, after.grants? kind = before.grants? kind

theorem sound_fresh : fresh.Sound := by
  refine ⟨.empty, rfl, ⟨.empty, List.Pairwise.nil, fun _ h => nomatch h⟩, ?_⟩
  intro kind
  refine ⟨.empty, by cases kind <;> rfl, .empty, List.Pairwise.nil, ?_, ?_⟩
  · exact fun _ h => nomatch h
  · exact fun _ h => nomatch h

namespace GrantsSound

variable {accounts others : List Account} {grants : Table Grant}

/-- Only the ids of the users matter to the grants. -/
theorem of_accounts (h : GrantsSound accounts grants)
    (hids : ∀ account ∈ accounts, ∃ other ∈ others, other.id = account.id) :
    GrantsSound others grants where
  numbered := h.numbered
  distinct := h.distinct
  held := by
    intro grant hgrant
    rcases h.held grant hgrant with ⟨account, haccount, hid⟩
    rcases hids account haccount with ⟨other, hother, hsame⟩
    exact ⟨other, hother, hsame.trans hid⟩
  levelled := h.levelled

theorem add (h : GrantsSound accounts grants) {key : String} {holder : Nat} {level : Level}
    (hholder : ∃ account ∈ accounts, account.id = holder)
    (hclash : ¬ grants.rows.any (Grant.clashes ⟨0, key, holder, level.name⟩) = true) :
    GrantsSound accounts (grants.add (⟨·, key, holder, level.name⟩)) where
  numbered := h.numbered.add rfl
  distinct := by
    refine List.pairwise_append.2 ⟨h.distinct, List.pairwise_singleton _ _, ?_⟩
    intro old hold new hnew hsame
    rw [List.mem_singleton.1 hnew] at hsame
    -- An old grant to the same account on the same key would clash with the new one.
    refine hclash (List.any_eq_true.2 ⟨old, hold, ?_⟩)
    rw [Grant.clashes, Bool.and_eq_true, decide_eq_true_eq, decide_eq_true_eq]
    exact ⟨hsame.1.symm, hsame.2.symm⟩
  held := by
    intro grant hgrant
    rcases List.mem_append.1 hgrant with hold | hnew
    · exact h.held grant hold
    · rw [List.mem_singleton.1 hnew]
      exact hholder
  levelled := by
    intro grant hgrant
    rcases List.mem_append.1 hgrant with hold | hnew
    · exact h.levelled grant hold
    · rw [List.mem_singleton.1 hnew]
      exact ⟨level, rfl⟩

theorem drop (h : GrantsSound accounts grants) (p : Grant → Bool) :
    GrantsSound accounts (grants.drop p) where
  numbered := h.numbered.drop p
  distinct := h.distinct.filter _
  held grant hgrant := h.held grant (List.mem_filter.1 hgrant).1
  levelled grant hgrant := h.levelled grant (List.mem_filter.1 hgrant).1

theorem map (h : GrantsSound accounts grants) {f : Grant → Grant} (hid : ∀ g, (f g).id = g.id)
    (hholder : ∀ g, (f g).holder = g.holder)
    (hlevel : ∀ g, (f g).level = g.level ∨ ∃ level : Level, (f g).level = level.name)
    (hdistinct : (grants.map f).rows.Pairwise fun a b =>
      ¬ (a.key = b.key ∧ a.holder = b.holder)) : GrantsSound accounts (grants.map f) where
  numbered := h.numbered.map hid
  distinct := hdistinct
  held := by
    intro grant hgrant
    rcases List.mem_map.1 hgrant with ⟨old, hold, rfl⟩
    rw [hholder]
    exact h.held old hold
  levelled := by
    intro grant hgrant
    rcases List.mem_map.1 hgrant with ⟨old, hold, rfl⟩
    rcases hlevel old with hsame | hnew
    · rw [hsame]
      exact h.levelled old hold
    · exact hnew

end GrantsSound

namespace Follows

variable {before middle after : Ledger}

theorem refl (ledger : Ledger) : Follows ledger ledger where
  accounts old new hold hnew := by
    obtain rfl := Option.some.inj (hold.symm.trans hnew)
    exact .refl _ _ old
  grants kind old new hold hnew := by
    obtain rfl := Option.some.inj (hold.symm.trans hnew)
    exact .refl _ _ old

theorem trans (h₁ : Follows before middle) (hsound : middle.Sound) (h₂ : Follows middle after) :
    Follows before after := by
  -- In between all tables are there, since the ledger is sound.
  rcases hsound with ⟨accounts, haccounts, -, hgrants⟩
  constructor
  · intro old new hold hnew
    exact (h₁.accounts old accounts hold haccounts).trans (h₂.accounts accounts new haccounts hnew)
  · intro kind old new hold hnew
    rcases hgrants kind with ⟨grants, hthere, -⟩
    exact (h₁.grants kind old grants hold hthere).trans (h₂.grants kind grants new hthere hnew)

end Follows

namespace Advances

variable {ledger : Ledger} {accounts : Table Account}

theorem refl (h : ledger.Sound) : Advances ledger ledger := ⟨h, .refl ledger, .inl rfl⟩

/-- Other users in place of those that were there, all of their ids among them. -/
theorem withAccounts (h : ledger.Sound) (haccounts : ledger.accounts = some accounts)
    {table : Table Account} (hsound : AccountsSound table)
    (hfollows : Table.Follows (·.id) (·.username) accounts table)
    (hids : ∀ account ∈ accounts.rows, ∃ other ∈ table.rows, other.id = account.id) :
    Advances ledger (ledger.withAccounts table) := by
  rcases h with ⟨held, hheld, -, hgrants⟩
  obtain rfl := Option.some.inj (haccounts.symm.trans hheld)
  refine ⟨⟨table, rfl, hsound, ?_⟩, ⟨?_, ?_⟩, .inr (grants?_withAccounts ledger table)⟩
  · intro kind
    -- The holders of grants are among the ids that stay.
    rcases hgrants kind with ⟨grants, hthere, hkind⟩
    exact ⟨grants, (grants?_withAccounts ledger table kind).trans hthere, hkind.of_accounts hids⟩
  · intro old new hold hnew
    obtain rfl := Option.some.inj (haccounts.symm.trans hold)
    obtain rfl := Option.some.inj hnew
    exact hfollows
  · intro kind old new hold hnew
    -- No table of grants changes.
    rw [grants?_withAccounts] at hnew
    obtain rfl := Option.some.inj (hold.symm.trans hnew)
    exact .refl _ _ old

/-- Other grants of one kind in place of those that were there. -/
theorem withGrants (h : ledger.Sound) (haccounts : ledger.accounts = some accounts) {kind : Kind}
    {grants table : Table Grant} (hgrants : ledger.grants? kind = some grants)
    (hsound : GrantsSound accounts.rows table)
    (hfollows : Table.Follows (·.id) (·.holder) grants table) :
    Advances ledger (ledger.withGrants kind table) := by
  rcases h with ⟨held, hheld, haccountsSound, hall⟩
  obtain rfl := Option.some.inj (haccounts.symm.trans hheld)
  refine ⟨⟨accounts, (accounts_withGrants ledger kind table).trans haccounts, haccountsSound, ?_⟩,
    ⟨?_, ?_⟩, .inl (by rw [accounts_withGrants])⟩
  · intro other
    -- The table of the one kind is the new one, and that of the other kind stays.
    rw [grants?_withGrants]
    by_cases hother : other = kind
    · rw [if_pos hother]
      exact ⟨table, rfl, hsound⟩
    · rw [if_neg hother]
      exact hall other
  · intro old new hold hnew
    rw [accounts_withGrants] at hnew
    obtain rfl := Option.some.inj (hold.symm.trans hnew)
    exact .refl _ _ old
  · intro other old new hold hnew
    rw [grants?_withGrants] at hnew
    by_cases hother : other = kind
    · rw [if_pos hother] at hnew
      obtain rfl := Option.some.inj hnew
      rw [hother, hgrants] at hold
      obtain rfl := Option.some.inj hold
      exact hfollows
    · rw [if_neg hother] at hnew
      obtain rfl := Option.some.inj (hold.symm.trans hnew)
      exact .refl _ _ old

end Advances

section Statements

variable {ledger changed : Ledger} {kind : Kind} {key username levelName : String}

/-- The users of a sound ledger. -/
theorem Sound.accountsSound (h : ledger.Sound) {accounts : Table Account}
    (haccounts : ledger.accounts = some accounts) : AccountsSound accounts := by
  rcases h with ⟨table, htable, hsound, -⟩
  obtain rfl := Option.some.inj (haccounts.symm.trans htable)
  exact hsound

/-- The grants of a sound ledger. -/
theorem Sound.grantsSound (h : ledger.Sound) {accounts : Table Account} {grants : Table Grant}
    (haccounts : ledger.accounts = some accounts) (hgrants : ledger.grants? kind = some grants) :
    GrantsSound accounts.rows grants := by
  rcases h with ⟨table, htable, -, hall⟩
  obtain rfl := Option.some.inj (haccounts.symm.trans htable)
  rcases hall kind with ⟨there, hthere, hsound⟩
  obtain rfl := Option.some.inj (hgrants.symm.trans hthere)
  exact hsound

theorem createUser_advances {password : String} {admin : Bool} {account : Account}
    (h : ledger.Sound) (hok : createUser username password admin ledger = .ok (account, changed)) :
    Advances ledger changed := by
  rw [createUser_eq] at hok
  by_cases hempty : (username.isEmpty || password.isEmpty) = true
  · rw [if_pos hempty] at hok
    exact nomatch hok
  · rw [if_neg hempty] at hok
    rcases Error.bind_eq_ok_iff.1 hok with ⟨accounts, htable, hrest⟩
    have haccounts := accountTable_eq_ok_iff.1 htable
    by_cases htaken : accounts.rows.any (·.username = username) = true
    · rw [if_pos htaken] at hrest
      exact nomatch hrest
    · rw [if_neg htaken] at hrest
      obtain rfl := (Prod.mk.inj (Except.ok.inj hrest)).2
      have hsound := h.accountsSound haccounts
      refine .withAccounts h haccounts ⟨hsound.numbered.add rfl, ?_, ?_⟩ (.add rfl) ?_
      · -- The name of the new user is none of the names that are taken.
        refine List.pairwise_append.2 ⟨hsound.distinct, List.pairwise_singleton _ _, ?_⟩
        intro old hold new hnew hsame
        rw [List.mem_singleton.1 hnew] at hsame
        exact htaken (List.any_eq_true.2 ⟨old, hold, decide_eq_true hsame⟩)
      · intro row hrow
        rcases List.mem_append.1 hrow with hold | hnew
        · exact hsound.named row hold
        · rw [List.mem_singleton.1 hnew]
          intro hname
          change username = "" at hname
          rw [hname] at hempty
          exact hempty rfl
      · intro old hold
        exact ⟨old, List.mem_append_left _ hold, rfl⟩

theorem revised_id (id : Nat) (password : Option String) (admin : Option Bool) (row : Account) :
    (revised id password admin row).id = row.id := by
  unfold revised
  split <;> rfl

theorem revised_username (id : Nat) (password : Option String) (admin : Option Bool)
    (row : Account) : (revised id password admin row).username = row.username := by
  unfold revised
  split <;> rfl

theorem updateUser_advances {password : Option String} {admin : Option Bool} (h : ledger.Sound)
    (hok : updateUser username password admin ledger = .ok ((), changed)) :
    Advances ledger changed := by
  rw [updateUser_eq] at hok
  rcases Error.bind_eq_ok_iff.1 hok with ⟨found, -, hrest⟩
  by_cases hempty : password = some ""
  · rw [if_pos hempty] at hrest
    exact nomatch hrest
  · rw [if_neg hempty] at hrest
    rcases Error.bind_eq_ok_iff.1 hrest with ⟨accounts, htable, hset⟩
    obtain rfl := (Prod.mk.inj (Except.ok.inj hset)).2
    have haccounts := accountTable_eq_ok_iff.1 htable
    have hsound := h.accountsSound haccounts
    -- Neither ids nor names change.
    refine .withAccounts h haccounts ⟨hsound.numbered.map (revised_id _ _ _), ?_, ?_⟩
      (.map (revised_id _ _ _) (revised_username _ _ _)) ?_
    · refine List.pairwise_map.2 (hsound.distinct.imp ?_)
      intro a b hne
      rw [revised_username, revised_username]
      exact hne
    · intro row hrow
      rcases List.mem_map.1 hrow with ⟨old, hold, rfl⟩
      rw [revised_username]
      exact hsound.named old hold
    · intro old hold
      exact ⟨_, List.mem_map_of_mem hold, revised_id _ _ _ old⟩

theorem deleteUser_advances (h : ledger.Sound)
    (hok : deleteUser username ledger = .ok ((), changed)) : Advances ledger changed := by
  rw [deleteUser_eq] at hok
  rcases Error.bind_eq_ok_iff.1 hok with ⟨found, -, hrest⟩
  rcases Error.bind_eq_ok_iff.1 hrest with ⟨experiments, hexperiments, hrest⟩
  rcases Error.bind_eq_ok_iff.1 hrest with ⟨models, hmodels, hrest⟩
  rcases Error.bind_eq_ok_iff.1 hrest with ⟨accounts, htable, hset⟩
  obtain rfl := (Prod.mk.inj (Except.ok.inj hset)).2
  have haccounts := accountTable_eq_ok_iff.1 htable
  have hsound := h.accountsSound haccounts
  -- With the user go the grants that he holds, so the others still have their holders.
  have hleft {grants : Table Grant} (hgrants : GrantsSound accounts.rows grants) :
      GrantsSound (accounts.drop (·.id = found.id)).rows (grants.drop (·.holder = found.id)) :=
    { hgrants.drop (·.holder = found.id) with
      held := by
        intro grant hgrant
        rcases List.mem_filter.1 hgrant with ⟨hin, hother⟩
        rcases hgrants.held grant hin with ⟨account, haccount, hid⟩
        refine ⟨account, List.mem_filter.2 ⟨haccount, ?_⟩, hid⟩
        change (!decide (account.id = found.id)) = true
        rw [hid]
        exact hother }
  refine ⟨⟨_, rfl, ⟨hsound.numbered.drop _, hsound.distinct.filter _,
    fun row hrow => hsound.named row (List.mem_filter.1 hrow).1⟩, ?_⟩, ⟨?_, ?_⟩,
    .inl (by rw [haccounts]; rfl)⟩
  · intro kind
    cases kind with
    | experiment =>
        exact ⟨_, rfl, hleft (h.grantsSound haccounts (grantTable_eq_ok_iff.1 hexperiments))⟩
    | model => exact ⟨_, rfl, hleft (h.grantsSound haccounts (grantTable_eq_ok_iff.1 hmodels))⟩
  · intro old new hold hnew
    obtain rfl := Option.some.inj (haccounts.symm.trans hold)
    obtain rfl := Option.some.inj hnew
    exact .drop _
  · intro kind old new hold hnew
    cases kind with
    | experiment =>
        obtain rfl := Option.some.inj ((grantTable_eq_ok_iff.1 hexperiments).symm.trans hold)
        obtain rfl := Option.some.inj hnew
        exact .drop _
    | model =>
        obtain rfl := Option.some.inj ((grantTable_eq_ok_iff.1 hmodels).symm.trans hold)
        obtain rfl := Option.some.inj hnew
        exact .drop _

theorem createGrant_advances {held : Held} (h : ledger.Sound)
    (hok : createGrant kind key username levelName ledger = .ok (held, changed)) :
    Advances ledger changed := by
  rw [createGrant_eq] at hok
  rcases Error.bind_eq_ok_iff.1 hok with ⟨level, -, hrest⟩
  rcases Error.bind_eq_ok_iff.1 hrest with ⟨account, hfound, hrest⟩
  rcases Error.bind_eq_ok_iff.1 hrest with ⟨grants, htable, hrest⟩
  by_cases hclash : grants.rows.any (Grant.clashes ⟨0, key, account.id, level.name⟩) = true
  · rw [if_pos hclash] at hrest
    exact nomatch hrest
  · rw [if_neg hclash] at hrest
    obtain rfl := (Prod.mk.inj (Except.ok.inj hrest)).2
    have hgrants := grantTable_eq_ok_iff.1 htable
    rcases findAccount_eq_ok_iff.1 hfound with ⟨accounts, haccounts, -⟩
    -- The holder is the user who was looked up before.
    have hholder := (mem_of_findAccount haccounts hfound).1
    exact .withGrants h haccounts hgrants
      ((h.grantsSound haccounts hgrants).add ⟨account, hholder, rfl⟩ hclash) (.add rfl)

/-- Other grants of one kind that were made from those that were there. -/
theorem Sound.withGrants_advances (h : ledger.Sound) {grants table : Table Grant}
    (hgrants : ledger.grants? kind = some grants)
    (hsound : ∀ accounts, GrantsSound accounts grants → GrantsSound accounts table)
    (hfollows : Table.Follows (·.id) (·.holder) grants table) :
    Advances ledger (ledger.withGrants kind table) := by
  rcases id h with ⟨accounts, haccounts, -, -⟩
  exact .withGrants h haccounts hgrants (hsound _ (h.grantsSound haccounts hgrants)) hfollows

theorem relevelled_id (id : Nat) (level : Level) (grant : Grant) :
    (relevelled id level grant).id = grant.id := by
  unfold relevelled
  split <;> rfl

theorem relevelled_key (id : Nat) (level : Level) (grant : Grant) :
    (relevelled id level grant).key = grant.key := by
  unfold relevelled
  split <;> rfl

theorem relevelled_holder (id : Nat) (level : Level) (grant : Grant) :
    (relevelled id level grant).holder = grant.holder := by
  unfold relevelled
  split <;> rfl

theorem updateGrant_advances (h : ledger.Sound)
    (hok : updateGrant kind key username levelName ledger = .ok ((), changed)) :
    Advances ledger changed := by
  rw [updateGrant_eq] at hok
  rcases Error.bind_eq_ok_iff.1 hok with ⟨level, -, hrest⟩
  rcases Error.bind_eq_ok_iff.1 hrest with ⟨found, -, hrest⟩
  rcases Error.bind_eq_ok_iff.1 hrest with ⟨grants, htable, hset⟩
  obtain rfl := (Prod.mk.inj (Except.ok.inj hset)).2
  refine h.withGrants_advances (grantTable_eq_ok_iff.1 htable) ?_
    (.map (relevelled_id _ _) (relevelled_holder _ _))
  intro accounts hsound
  refine hsound.map (relevelled_id _ _) (relevelled_holder _ _) ?_ ?_
  · intro grant
    unfold relevelled
    split
    · exact .inr ⟨level, rfl⟩
    · exact .inl rfl
  · -- A grant keeps its key and its holder.
    refine List.pairwise_map.2 (hsound.distinct.imp ?_)
    intro a b hne
    rw [relevelled_key, relevelled_key, relevelled_holder, relevelled_holder]
    exact hne

theorem deleteGrant_advances (h : ledger.Sound)
    (hok : deleteGrant kind key username ledger = .ok ((), changed)) :
    Advances ledger changed := by
  rw [deleteGrant_eq] at hok
  rcases Error.bind_eq_ok_iff.1 hok with ⟨found, -, hrest⟩
  rcases Error.bind_eq_ok_iff.1 hrest with ⟨grants, htable, hset⟩
  obtain rfl := (Prod.mk.inj (Except.ok.inj hset)).2
  exact h.withGrants_advances (grantTable_eq_ok_iff.1 htable) (fun _ hsound => hsound.drop _)
    (.drop _)

theorem dropModelGrants_advances {name : String} {count : Nat} (h : ledger.Sound)
    (hok : dropModelGrants name ledger = .ok (count, changed)) : Advances ledger changed := by
  rw [dropModelGrants_eq] at hok
  rcases Error.bind_eq_ok_iff.1 hok with ⟨grants, htable, hset⟩
  obtain rfl := (Prod.mk.inj (Except.ok.inj hset)).2
  exact h.withGrants_advances (grantTable_eq_ok_iff.1 htable) (fun _ hsound => hsound.drop _)
    (.drop _)

theorem renamed_id (old new : String) (grant : Grant) :
    (renamed old new grant).id = grant.id := by
  unfold renamed
  split <;> rfl

theorem renamed_holder (old new : String) (grant : Grant) :
    (renamed old new grant).holder = grant.holder := by
  unfold renamed
  split <;> rfl

theorem renamed_level (old new : String) (grant : Grant) :
    (renamed old new grant).level = grant.level := by
  unfold renamed
  split <;> rfl

theorem renamed_key (old new : String) (grant : Grant) :
    (renamed old new grant).key = if grant.key = old then new else grant.key := by
  unfold renamed
  split <;> rfl

/-- Grants clash under another name where somebody holds one under both names. -/
theorem anyClash_renamed_iff {old new : String} {rows : List Grant} (hne : old ≠ new)
    (hdistinct : rows.Pairwise fun a b => ¬ (a.key = b.key ∧ a.holder = b.holder)) :
    Grant.anyClash (rows.map (renamed old new)) = true ↔
      ∃ a ∈ rows, ∃ b ∈ rows, a.key = old ∧ b.key = new ∧ a.holder = b.holder := by
  constructor
  · intro hclash
    refine Classical.byContradiction ?_
    intro hnone
    have hapart : (rows.map (renamed old new)).Pairwise fun a b =>
        ¬ (a.key = b.key ∧ a.holder = b.holder) := by
      refine List.pairwise_map.2 (hdistinct.imp_of_mem ?_)
      rintro a b ha hb happart ⟨hkey, hholder⟩
      rw [renamed_holder, renamed_holder] at hholder
      rw [renamed_key, renamed_key] at hkey
      by_cases hold : a.key = old
      · by_cases hother : b.key = old
        · exact happart ⟨hold.trans hother.symm, hholder⟩
        · rw [if_pos hold, if_neg hother] at hkey
          exact hnone ⟨a, ha, b, hb, hold, hkey.symm, hholder⟩
      · by_cases hother : b.key = old
        · rw [if_neg hold, if_pos hother] at hkey
          exact hnone ⟨b, hb, a, ha, hother, hkey, hholder.symm⟩
        · rw [if_neg hold, if_neg hother] at hkey
          exact happart ⟨hkey, hholder⟩
    rw [Grant.anyClash_of_pairwise hapart] at hclash
    exact Bool.false_ne_true hclash
  · rintro ⟨a, ha, b, hb, hold, hnew, hholder⟩
    refine Bool.of_not_eq_false ?_
    intro hclash
    have hapart := List.pairwise_map.1 (Grant.anyClash_eq_false hclash)
    have hpairs : rows.Pairwise fun a b =>
        ((renamed old new a).key, (renamed old new a).holder) ≠
          ((renamed old new b).key, (renamed old new b).holder) :=
      hapart.imp fun happart hsame => happart (Prod.mk.inj hsame)
    have hsame : ((renamed old new a).key, (renamed old new a).holder) =
        ((renamed old new b).key, (renamed old new b).holder) := by
      rw [renamed_holder, renamed_holder, renamed_key, renamed_key, if_pos hold, hnew,
        if_neg (Ne.symm hne), hholder]
    -- They would be one row then, under both names.
    rw [eq_of_pairwise_ne hpairs ha hb hsame, hnew] at hold
    exact hne hold.symm

theorem renameModelGrants_advances {old new : String} {count : Nat} (h : ledger.Sound)
    (hok : renameModelGrants old new ledger = .ok (count, changed)) : Advances ledger changed := by
  rw [renameModelGrants_eq] at hok
  rcases Error.bind_eq_ok_iff.1 hok with ⟨grants, htable, hrest⟩
  by_cases hclash : Grant.anyClash (grants.map (renamed old new)).rows = true
  · rw [if_pos hclash] at hrest
    exact nomatch hrest
  · rw [if_neg hclash] at hrest
    obtain rfl := (Prod.mk.inj (Except.ok.inj hrest)).2
    -- Only the key of a grant changes, and no two of them clash afterwards.
    refine h.withGrants_advances (grantTable_eq_ok_iff.1 htable) ?_
      (.map (renamed_id old new) (renamed_holder old new))
    intro accounts hsound
    exact hsound.map (renamed_id old new) (renamed_holder old new)
      (fun grant => .inl (renamed_level old new grant))
      (Grant.anyClash_eq_false (Bool.eq_false_iff.2 hclash))

end Statements

end Ledger

end Gatehouse
