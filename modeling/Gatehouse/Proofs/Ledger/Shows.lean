import Gatehouse.Proofs.Ledger.Book
import Gatehouse.Proofs.Ledger.Confined
import Gatehouse.Proofs.Visibility
import Mathlib.Data.List.Find

/-!
# Ledgers that show a book

A ledger shows a book when its rows, with the names of users in place of their ids, are the
entries of the book in the same order. In a sound ledger names and ids tell the same users apart,
and a grant is told by its id just as by its key and the name of its holder. So whatever is looked
up in the tables is looked up in the book, and rows that are added, changed or dropped are entries
that are added, changed or dropped.

## Main definitions

* `Account.user`, `Grant.entry`: A row as the book has it.
* `Ledger.Shows`: A ledger that shows a book.

## Theorems

* `Ledger.GrantsSound.id_eq_iff`: In the book no two grants are under one key.
* `Ledger.Shows.find`, `Ledger.Shows.findGrant`, `Ledger.Shows.grantsOf`: Lookups.
* `Ledger.Shows.free_iff`, `Ledger.Shows.anyClash_iff`: When a grant would be one too many.
* `Ledger.Shows.withAccounts`, `Ledger.Shows.withGrants`: Other rows for other entries.
-/

namespace Gatehouse

/-- The password of a secret, as long as it is one. -/
def Secret.text : Secret → String
  | password text => text
  | noPassword | unreadable => ""

/-- An account as the book has it. -/
def Account.user (account : Account) : Book.User := ⟨account.secret.text, account.admin⟩

/-- The name of the user of an id. -/
def nameIn (accounts : List Account) (id : Nat) : String :=
  ((accounts.find? (·.id = id)).map (·.username)).getD ""

/-- A grant as the book has it. -/
def Grant.entry (accounts : List Account) (grant : Grant) : (String × String) × Level :=
  ((grant.key, nameIn accounts grant.holder), grant.levelOf)

/-- A grant of a level has that level. -/
theorem Grant.levelOf_name (id : Nat) (key : String) (holder : Nat) (level : Level) :
    (⟨id, key, holder, level.name⟩ : Grant).levelOf = level := by
  rw [Grant.levelOf, Level.ofName_name]

namespace Ledger

open Statement

/-- The name of the user of an id. -/
def nameOf (ledger : Ledger) (id : Nat) : String :=
  nameIn (ledger.accounts.elim [] (·.rows)) id

/-- A grant as it is told, with the name of its holder in place of the id. -/
def named (ledger : Ledger) (held : Held) : Book.Entry :=
  ⟨held.kind, held.key, ledger.nameOf held.holder, held.level⟩

section Names

variable {accounts : Table Account} {grants : Table Grant} {account other : Account}
  {grant : Grant} {username : String}

/-- A user of a sound table is told by his id. -/
theorem AccountsSound.nameIn_eq (h : AccountsSound accounts) (hmem : account ∈ accounts.rows) :
    nameIn accounts.rows account.id = account.username := by
  have hsome : (accounts.rows.find? (·.id = account.id)).isSome = true :=
    List.find?_isSome.2 ⟨account, hmem, decide_eq_true rfl⟩
  obtain ⟨found, hfound⟩ := Option.isSome_iff_exists.1 hsome
  have hid : found.id = account.id := by simpa using List.find?_some hfound
  have hsame : found = account :=
    h.numbered.eq_of_id (List.mem_of_find?_eq_some hfound) hmem hid
  rw [nameIn, hfound, hsame]
  rfl

/-- Ids and names tell the same users apart. -/
theorem AccountsSound.id_eq_iff (h : AccountsSound accounts) (hmem : account ∈ accounts.rows)
    (hother : other ∈ accounts.rows) :
    account.id = other.id ↔ account.username = other.username := by
  constructor
  · intro hid
    rw [h.numbered.eq_of_id hmem hother hid]
  · intro hname
    rw [eq_of_pairwise_ne h.distinct hmem hother hname]

/-- A grant is held by a user exactly where its holder has the name of the user. -/
theorem GrantsSound.holder_eq_iff (hgrants : GrantsSound accounts.rows grants)
    (h : AccountsSound accounts) (hgrant : grant ∈ grants.rows) (hmem : account ∈ accounts.rows) :
    grant.holder = account.id ↔ nameIn accounts.rows grant.holder = account.username := by
  obtain ⟨holder, hholder, hid⟩ := hgrants.held grant hgrant
  rw [← hid, h.nameIn_eq hholder]
  exact h.id_eq_iff hholder hmem

theorem GrantsSound.belongs_eq (hgrants : GrantsSound accounts.rows grants)
    (h : AccountsSound accounts) (hgrant : grant ∈ grants.rows) (username : String) :
    belongs accounts.rows username grant =
      decide (nameIn accounts.rows grant.holder = username) := by
  obtain ⟨holder, hholder, hid⟩ := hgrants.held grant hgrant
  rw [← hid, h.nameIn_eq hholder, Bool.eq_iff_iff, decide_eq_true_eq, belongs, List.any_eq_true]
  constructor
  · rintro ⟨account, haccount, hboth⟩
    rw [Bool.and_eq_true, decide_eq_true_eq, decide_eq_true_eq] at hboth
    rw [← hboth.2]
    exact (h.id_eq_iff hholder haccount).1 (hid.trans hboth.1.symm)
  · intro hname
    refine ⟨holder, hholder, ?_⟩
    rw [Bool.and_eq_true, decide_eq_true_eq, decide_eq_true_eq]
    exact ⟨hid, hname⟩

/-- The grants are the same to the book with other users, as long as their holders keep their
names. -/
theorem entry_congr {others : List Account}
    (h : ∀ grant ∈ grants.rows, nameIn others grant.holder = nameIn accounts.rows grant.holder) :
    grants.rows.map (Grant.entry others) = grants.rows.map (Grant.entry accounts.rows) := by
  refine List.map_congr_left ?_
  intro grant hgrant
  rw [Grant.entry, Grant.entry, h grant hgrant]

end Names

/-- A ledger whose rows, with names for ids, are the entries of a book. -/
structure Shows (ledger : Ledger) (book : Book) : Prop where
  sound : ledger.Sound
  users : ∀ accounts, ledger.accounts = some accounts →
    accounts.rows.map (fun account => (account.username, account.user)) = book.users.entries
  passwords : ∀ accounts, ledger.accounts = some accounts →
    ∀ account ∈ accounts.rows, account.secret = .password account.user.password
  grants : ∀ accounts kind grants, ledger.accounts = some accounts →
    ledger.grants? kind = some grants →
    grants.rows.map (Grant.entry accounts.rows) = (book.grants kind).entries

theorem shows_fresh : Shows fresh .empty where
  sound := sound_fresh
  users accounts h := by
    obtain rfl := Option.some.inj h
    rfl
  passwords accounts h account hmem := by
    obtain rfl := Option.some.inj h
    cases hmem
  grants accounts kind grants _ h := by
    have hempty : fresh.grants? kind = some .empty := by cases kind <;> rfl
    obtain rfl := Option.some.inj (hempty.symm.trans h)
    rfl

namespace Shows

variable {ledger : Ledger} {book : Book} {accounts : Table Account} {grants : Table Grant}
  {kind : Kind} {key username : String}

/-- Every row of a user is looked up in the book by its name. -/
theorem get?_users (h : Shows ledger book) (haccounts : ledger.accounts = some accounts)
    (username : String) : book.users.get? username =
      (accounts.rows.find? (·.username = username)).map Account.user := by
  rw [FiniteMap.get?, ← h.users accounts haccounts, List.find?_map, Option.map_map]
  rfl

/-- Every row of a grant is looked up in the book by its key and the name of its holder. -/
theorem get?_grants (h : Shows ledger book) (haccounts : ledger.accounts = some accounts)
    (hgrants : ledger.grants? kind = some grants) (key username : String) :
    (book.grants kind).get? (key, username) =
      (grants.rows.find? fun grant => grant.key = key &&
        belongs accounts.rows username grant).map Grant.levelOf := by
  have hsound := h.sound.grantsSound haccounts hgrants
  have hsame : ∀ grant ∈ grants.rows,
      ((fun entry : (String × String) × Level => decide (entry.1 = (key, username))) ∘
        Grant.entry accounts.rows) grant =
      (decide (grant.key = key) && belongs accounts.rows username grant) := by
    intro grant hgrant
    rw [hsound.belongs_eq (h.sound.accountsSound haccounts) hgrant, ← Bool.decide_and]
    simp only [Grant.entry, Function.comp_apply, Prod.mk.injEq]
  rw [FiniteMap.get?, ← h.grants accounts kind grants haccounts hgrants, List.find?_map,
    List.find?_congr hsame, Option.map_map]
  rfl

/-- A user is found in the ledger where he is in the book. -/
theorem find (h : Shows ledger book) (username : String) :
    book.find username = (ledger.findAccount username).map Account.user := by
  obtain ⟨accounts, haccounts, -, -⟩ := h.sound
  rw [Book.find, h.get?_users haccounts, findAccount, accountTable_eq_ok_iff.2 haccounts]
  dsimp only [bind, Except.bind]
  cases accounts.rows.find? (·.username = username) <;> rfl

/-- A grant is found in the ledger where it is in the book. -/
theorem findGrant (h : Shows ledger book) (kind : Kind) (key username : String) :
    book.findGrant kind key username =
      (ledger.findGrant kind key username).map Grant.levelOf := by
  obtain ⟨accounts, haccounts, -, hall⟩ := h.sound
  obtain ⟨grants, hgrants, -⟩ := hall kind
  rw [Book.findGrant, h.get?_grants haccounts hgrants, Ledger.findGrant,
    grantTable_eq_ok_iff.2 hgrants, accountTable_eq_ok_iff.2 haccounts]
  dsimp only [bind, Except.bind]
  cases grants.rows.find? fun grant => grant.key = key && belongs accounts.rows username grant
    <;> rfl

/-- The grants of a user are told in the ledger as in the book. -/
theorem grantsOf (h : Shows ledger book) (kind : Kind) (username : String) :
    ∃ held, ledger.grantsOf kind username = .ok held ∧
      held.map ledger.named = book.grantsOf kind username := by
  obtain ⟨accounts, haccounts, -, hall⟩ := h.sound
  obtain ⟨grants, hgrants, hsound⟩ := hall kind
  -- All levels in the table are known, so every row can be told.
  have htold : ledger.grantsOf kind username =
      .ok ((grants.rows.filter (belongs accounts.rows username)).map fun grant =>
        ⟨kind, grant.key, grant.holder, grant.levelOf⟩) := by
    rw [Ledger.grantsOf, grantTable_eq_ok_iff.2 hgrants, accountTable_eq_ok_iff.2 haccounts]
    exact Error.mapM_eq_map fun grant hgrant =>
      Grant.held_eq (hsound.levelled grant (List.mem_filter.1 hgrant).1) kind
  -- A row is of the user exactly if its entry has his name.
  have hfilter : grants.rows.filter (belongs accounts.rows username) = grants.rows.filter
      ((fun entry : (String × String) × Level => decide (entry.1.2 = username)) ∘
        Grant.entry accounts.rows) :=
    List.filter_congr fun grant hgrant =>
      hsound.belongs_eq (h.sound.accountsSound haccounts) hgrant username
  refine ⟨_, htold, ?_⟩
  rw [hfilter, Book.grantsOf, ← h.grants accounts kind grants haccounts hgrants,
    List.filter_map, List.map_map, List.map_map]
  refine List.map_congr_left ?_
  intro grant _
  simp only [Function.comp_apply, named, nameOf, haccounts, Grant.entry, Option.elim_some]

/-- Other users who are entered in the book, among whom those of before keep id and name. -/
theorem withAccounts (h : Shows ledger book) (haccounts : ledger.accounts = some accounts)
    {table : Table Account} {users : FiniteMap String Book.User}
    (hsound : (ledger.withAccounts table).Sound)
    (husers : table.rows.map (fun account => (account.username, account.user)) = users.entries)
    (hpasswords : ∀ account ∈ table.rows, account.secret = .password account.user.password)
    (hkept : ∀ account ∈ accounts.rows,
      ∃ other ∈ table.rows, other.id = account.id ∧ other.username = account.username) :
    Shows (ledger.withAccounts table) { book with users := users } where
  sound := hsound
  users := by
    intro rows hrows
    obtain rfl := Option.some.inj hrows
    exact husers
  passwords := by
    intro rows hrows
    obtain rfl := Option.some.inj hrows
    exact hpasswords
  grants := by
    intro rows kind grants hrows hgrants
    obtain rfl := Option.some.inj hrows
    rw [grants?_withAccounts] at hgrants
    change _ = (book.grants kind).entries
    rw [← h.grants accounts kind grants haccounts hgrants]
    -- Every holder is still there under his name, so the entries of the grants stay.
    refine entry_congr ?_
    intro grant hgrant
    obtain ⟨account, haccount, hid⟩ :=
      (h.sound.grantsSound haccounts hgrants).held grant hgrant
    obtain ⟨other, hother, hsame, hname⟩ := hkept account haccount
    rw [← hid, (h.sound.accountsSound haccounts).nameIn_eq haccount, ← hsame,
      (hsound.accountsSound rfl).nameIn_eq hother, hname]

/-- Other grants of one kind that are entered in the book. -/
theorem withGrants (h : Shows ledger book) (haccounts : ledger.accounts = some accounts)
    {table : Table Grant} {map : FiniteMap (String × String) Level}
    (hsound : (ledger.withGrants kind table).Sound)
    (hentries : table.rows.map (Grant.entry accounts.rows) = map.entries) :
    Shows (ledger.withGrants kind table) (book.withGrants kind map) where
  sound := hsound
  users := by
    rw [accounts_withGrants]
    exact h.users
  passwords := by
    rw [accounts_withGrants]
    exact h.passwords
  grants := by
    intro rows other grants hrows hgrants
    rw [accounts_withGrants] at hrows
    rw [grants?_withGrants] at hgrants
    rw [Book.grants_withGrants]
    -- Only the table of this kind is another one.
    by_cases hother : other = kind
    · rw [if_pos hother] at hgrants ⊢
      obtain rfl := Option.some.inj hgrants
      obtain rfl := Option.some.inj (haccounts.symm.trans hrows)
      exact hentries
    · rw [if_neg hother] at hgrants ⊢
      exact h.grants rows other grants hrows hgrants

/-- Where rows go, their entries go. -/
theorem entries_drop (h : Shows ledger book) (haccounts : ledger.accounts = some accounts)
    (hgrants : ledger.grants? kind = some grants) {p : Grant → Bool} {q : String × String → Bool}
    (hsame : ∀ grant ∈ grants.rows, p grant = q (grant.entry accounts.rows).1) :
    (grants.drop p).rows.map (Grant.entry accounts.rows) =
      ((book.grants kind).erase q).entries := by
  have hstay : (grants.rows.filter fun grant => !p grant) = grants.rows.filter
      ((fun entry => !q entry.1) ∘ Grant.entry accounts.rows) := by
    refine List.filter_congr ?_
    intro grant hgrant
    rw [hsame grant hgrant, Function.comp_apply]
  change List.map _ (grants.rows.filter _) = (book.grants kind).entries.filter _
  rw [← h.grants accounts kind grants haccounts hgrants, List.filter_map, ← hstay]

/-- Where rows change, their entries change. -/
theorem entries_map (h : Shows ledger book) (haccounts : ledger.accounts = some accounts)
    (hgrants : ledger.grants? kind = some grants) {f : Grant → Grant}
    {g : (String × String) × Level → (String × String) × Level}
    (hsame : ∀ grant ∈ grants.rows,
      (f grant).entry accounts.rows = g (grant.entry accounts.rows)) :
    (grants.map f).rows.map (Grant.entry accounts.rows) = (book.grants kind).entries.map g := by
  change List.map _ (grants.rows.map _) = _
  rw [← h.grants accounts kind grants haccounts hgrants, List.map_map, List.map_map]
  exact List.map_congr_left hsame

/-- Where a user goes with his grants, the grants that stay are those under other names, and their
holders keep their names. -/
theorem entries_departed (h : Shows ledger book) (haccounts : ledger.accounts = some accounts)
    (hgrants : ledger.grants? kind = some grants) {found : Account} (hmem : found ∈ accounts.rows)
    (hleft : AccountsSound (accounts.drop (·.id = found.id))) :
    (grants.drop (·.holder = found.id)).rows.map
        (Grant.entry (accounts.drop (·.id = found.id)).rows) =
      ((book.grants kind).erase (·.2 = found.username)).entries := by
  have hsound := h.sound.accountsSound haccounts
  have hkind := h.sound.grantsSound haccounts hgrants
  have hnames : ∀ grant ∈ (grants.drop (·.holder = found.id)).rows,
      nameIn (accounts.drop (·.id = found.id)).rows grant.holder =
        nameIn accounts.rows grant.holder := by
    -- A grant that stays is of somebody else, who stays as well.
    intro grant hgrant
    obtain ⟨hin, hother⟩ := List.mem_filter.1 hgrant
    obtain ⟨holder, hholder, hid⟩ := hkind.held grant hin
    change (!decide (grant.holder = found.id)) = true at hother
    rw [← hid] at hother ⊢
    have hstays : holder ∈ (accounts.drop (·.id = found.id)).rows :=
      List.mem_filter.2 ⟨hholder, hother⟩
    rw [hsound.nameIn_eq hholder, hleft.nameIn_eq hstays]
  rw [entry_congr hnames]
  refine h.entries_drop haccounts hgrants ?_
  intro grant hgrant
  exact decide_eq_decide.2 (hkind.holder_eq_iff hsound hgrant hmem)

end Shows

section Rows

variable {ledger : Ledger} {book : Book} {accounts : Table Account} {grants : Table Grant}
  {kind : Kind}

/-- In the book no two grants are under one key. -/
theorem GrantsSound.id_eq_iff (hgrants : GrantsSound accounts.rows grants)
    (h : AccountsSound accounts) {grant other : Grant} (hgrant : grant ∈ grants.rows)
    (hother : other ∈ grants.rows) :
    grant.id = other.id ↔
      (grant.entry accounts.rows).1 = (other.entry accounts.rows).1 := by
  constructor
  · intro hid
    rw [hgrants.numbered.eq_of_id hgrant hother hid]
  · intro hkeys
    obtain ⟨hkey, hname⟩ := Prod.mk.inj hkeys
    obtain ⟨holder, hholder, hid⟩ := hgrants.held other hother
    rw [← hid, h.nameIn_eq hholder] at hname
    have hholders := (hgrants.holder_eq_iff h hgrant hholder).2 hname
    have hdistinct : grants.rows.Pairwise fun a b => (a.key, a.holder) ≠ (b.key, b.holder) :=
      hgrants.distinct.imp fun hclash hsame => hclash (Prod.mk.inj hsame)
    rw [eq_of_pairwise_ne hdistinct hgrant hother (Prod.ext hkey (hholders.trans hid))]

/-- The grant that is found is the one under its key. -/
theorem Shows.id_eq_found (h : Shows ledger book) (haccounts : ledger.accounts = some accounts)
    (hgrants : ledger.grants? kind = some grants) {key username : String} {found grant : Grant}
    (hfound : ledger.findGrant kind key username = .ok found) (hgrant : grant ∈ grants.rows) :
    grant.id = found.id ↔ (grant.entry accounts.rows).1 = (key, username) := by
  have hsound := h.sound.accountsSound haccounts
  have hkind := h.sound.grantsSound haccounts hgrants
  obtain ⟨rows, users, hrows, husers, hrow⟩ := findGrant_eq_ok_iff.1 hfound
  obtain rfl := Option.some.inj (hgrants.symm.trans hrows)
  obtain rfl := Option.some.inj (haccounts.symm.trans husers)
  have hmem := List.mem_of_find?_eq_some hrow
  have hboth := List.find?_some hrow
  rw [hkind.belongs_eq hsound hmem, Bool.and_eq_true, decide_eq_true_eq, decide_eq_true_eq] at hboth
  have hentry : (found.entry accounts.rows).1 = (key, username) := Prod.ext hboth.1 hboth.2
  rw [hkind.id_eq_iff hsound hgrant hmem, hentry]

/-- A grant would clash where there is one under its key, to the user of the name. -/
theorem Shows.free_iff (h : Shows ledger book) (haccounts : ledger.accounts = some accounts)
    (hgrants : ledger.grants? kind = some grants) {account : Account}
    (hmem : account ∈ accounts.rows) (key levelName : String) :
    (book.grants kind).get? (key, account.username) = none ↔
      ¬ grants.rows.any (Grant.clashes ⟨0, key, account.id, levelName⟩) = true := by
  have hsound := h.sound.accountsSound haccounts
  have hkind := h.sound.grantsSound haccounts hgrants
  rw [FiniteMap.get?_eq_none_iff, ← h.grants accounts kind grants haccounts hgrants,
    List.any_eq_true, not_exists]
  constructor
  · rintro hfree grant ⟨hgrant, hboth⟩
    rw [Grant.clashes, Bool.and_eq_true, decide_eq_true_eq, decide_eq_true_eq] at hboth
    have hname := (hkind.holder_eq_iff hsound hgrant hmem).1 hboth.2.symm
    exact hfree _ (List.mem_map_of_mem hgrant) (Prod.ext hboth.1.symm hname)
  · intro hfree entry hentry hkey
    -- An entry is that of a row, and its name leads back to the holder.
    obtain ⟨grant, hgrant, rfl⟩ := List.mem_map.1 hentry
    obtain ⟨hsame, hname⟩ := Prod.mk.inj hkey
    have hholder := (hkind.holder_eq_iff hsound hgrant hmem).2 hname
    refine hfree grant ⟨hgrant, ?_⟩
    rw [Grant.clashes, Bool.and_eq_true, decide_eq_true_eq, decide_eq_true_eq]
    exact ⟨hsame.symm, hholder.symm⟩

/-- The grants under a name are as many in the ledger as in the book. -/
theorem Shows.countP_eq (h : Shows ledger book) (haccounts : ledger.accounts = some accounts)
    (hgrants : ledger.grants? kind = some grants) (name : String) :
    (book.grants kind).entries.countP (·.1.1 = name) = grants.rows.countP (·.key = name) := by
  rw [← h.grants accounts kind grants haccounts hgrants, List.countP_map]
  rfl

/-- A grant under another name is its entry under another key. -/
theorem entry_renamed (accounts : List Account) (old new : String) (grant : Grant) :
    (renamed old new grant).entry accounts =
      (Book.moved old new (grant.entry accounts).1, (grant.entry accounts).2) := by
  unfold renamed Book.moved
  by_cases hold : grant.key = old
  · rw [if_pos hold]
    simp only [Grant.entry, hold, if_true]
    rfl
  · rw [if_neg hold]
    simp only [Grant.entry, hold, if_false]

/-- Grants would clash under a new name where a user holds one under both names. -/
theorem Shows.anyClash_iff (h : Shows ledger book) (haccounts : ledger.accounts = some accounts)
    (hgrants : ledger.grants? .model = some grants) (old new : String) :
    Grant.anyClash (grants.map (renamed old new)).rows = true ↔
      Book.Doubled (book.grants .model) old new := by
  have hsound := h.sound.accountsSound haccounts
  have hkind := h.sound.grantsSound haccounts hgrants
  have hentries := h.grants accounts .model grants haccounts hgrants
  by_cases hsame : old = new
  · -- Grants that keep their name do not clash.
    have hrows : (grants.map (renamed old new)).rows = grants.rows := by
      refine (List.map_congr_left ?_).trans (List.map_id grants.rows)
      intro grant _
      rw [renamed]
      split
      · next hold =>
        rw [← hsame, ← hold]
        rfl
      · rfl
    rw [hrows, Grant.anyClash_of_pairwise hkind.distinct]
    constructor
    · exact fun hfalse => nomatch hfalse
    · exact fun hdoubled => absurd hsame hdoubled.1
  rw [Table.map, anyClash_renamed_iff hsame hkind.distinct]
  constructor
  · rintro ⟨a, ha, b, hb, hold, hnew, hholder⟩
    -- Two rows of one holder are two entries with his name.
    refine ⟨hsame, a.entry accounts.rows, hentries ▸ List.mem_map_of_mem ha, hold, ?_⟩
    have hother : b.entry accounts.rows ∈ (book.grants .model).entries :=
      hentries ▸ List.mem_map_of_mem hb
    rw [Grant.entry, hnew, ← hholder] at hother
    have htaken : (book.grants .model).get? (new, nameIn accounts.rows a.holder) =
        some b.levelOf := FiniteMap.get?_eq_some_iff.2 hother
    exact Option.ne_none_iff_exists'.2 ⟨_, htaken⟩
  · rintro ⟨-, entry, hentry, hold, htaken⟩
    -- Two entries of one name come from rows of one holder, for no two users share a name.
    obtain ⟨level, hlevel⟩ := Option.ne_none_iff_exists'.1 htaken
    rw [FiniteMap.get?_eq_some_iff, ← hentries] at hlevel
    rw [← hentries] at hentry
    obtain ⟨a, ha, rfl⟩ := List.mem_map.1 hentry
    obtain ⟨b, hb, hrow⟩ := List.mem_map.1 hlevel
    obtain ⟨hnew, hname⟩ := Prod.mk.inj (Prod.mk.inj hrow).1
    obtain ⟨holder, hholder, hid⟩ := hkind.held a ha
    have hheld : nameIn accounts.rows b.holder = holder.username := by
      rw [hname, ← hsound.nameIn_eq hholder, hid]
      rfl
    refine ⟨a, ha, b, hb, hold, hnew, ?_⟩
    rw [← hid]
    exact ((hkind.holder_eq_iff hsound hb hholder).2 hheld).symm

end Rows

end Ledger

end Gatehouse
