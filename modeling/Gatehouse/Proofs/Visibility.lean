import Gatehouse.Proofs.Gateway.Check
import Gatehouse.Proofs.Ledger.History
import Gatehouse.Proofs.Narrowing.Disclosure
import Gatehouse.Tracker.Memory

/-!
# Visibility

What a search shows and what a direct read allows. A search lists all grants of a user and keeps
the readable keys of them; a read looks for the one grant that the user holds on the resource.
Both come to the same where names of users are unique and no two grants are to one user on one
resource: then all grants of a name belong to one user, so at most one of them is on a key, and
it does not matter which of several would count.

## Main definitions

* `Ledger.Indexed`: A ledger whose unique indexes hold and whose levels are known.
* `Ledger.levelFor`: The level that a user's grants give him on a key.
* `Listing`, `Followup.listing?`: What a search lists.
* `Kind.readOperation`: The operation that reads one resource.

## Theorems

* `Ledger.Indexed.readability_eq`: What a search may show of a key.
* `Ledger.Indexed.levelOn_eq`: The level that decides on a key.
* `Narrowing.narrow_mem_iff`, `Narrowing.loggedModels_mem_iff`, `Followup.mem_iff_of_run`: Which rows
  of a response stay.
* `Gateway.visible_iff_readable`: A row is shown exactly where it may be read.
-/

namespace Gatehouse

/-- Among items with different keys the last one with a key is the first one. -/
theorem lookup_reverse {α β : Type} {key : α → String} (value : α → β) {items : List α}
    (h : items.Pairwise fun a b => key a ≠ key b) (wanted : String) :
    (items.reverse.map fun item => (key item, value item)).lookup wanted =
      (items.find? (key · = wanted)).map value := by
  induction items with
  | nil => rfl
  | cons item rest ih =>
      rcases List.pairwise_cons.1 h with ⟨hfirst, hrest⟩
      rw [List.reverse_cons, List.map_append, List.lookup_append, ih hrest]
      by_cases hkey : key item = wanted
      · -- Behind the item no other has its key.
        have hnone : rest.find? (key · = wanted) = none := by
          rw [List.find?_eq_none]
          intro other hother hsame
          exact hfirst other hother (hkey.trans (of_decide_eq_true hsame).symm)
        simp [hnone, hkey]
      · have hother : (wanted == key item) = false := by
          rw [beq_eq_false_iff_ne]
          exact fun hsame => hkey hsame.symm
        simp [hkey, List.lookup_cons, hother]

/-- The level of a grant; a name that is no level's gives none. -/
def Grant.levelOf (grant : Grant) : Level :=
  match Level.ofName grant.level with
  | .ok level => level
  | .error _ => .noPermissions

theorem Grant.held_eq {grant : Grant} (h : ∃ level : Level, grant.level = level.name)
    (kind : Kind) : grant.held kind = .ok ⟨kind, grant.key, grant.holder, grant.levelOf⟩ := by
  rcases h with ⟨level, hlevel⟩
  rw [Grant.held, Grant.levelOf, hlevel, Level.ofName_name]
  rfl

namespace Ledger

/-- A ledger whose unique indexes hold, on the names of users and on the keys and holders of
grants, and whose levels are known. -/
structure Indexed (ledger : Ledger) : Prop where
  accounts : ∃ accounts, ledger.accounts = some accounts ∧
    accounts.rows.Pairwise fun a b => a.username ≠ b.username
  grants : ∀ kind, ∃ grants, ledger.grants? kind = some grants ∧
    (grants.rows.Pairwise fun a b => ¬ (a.key = b.key ∧ a.holder = b.holder)) ∧
    ∀ grant ∈ grants.rows, ∃ level : Level, grant.level = level.name

theorem Sound.indexed {ledger : Ledger} (h : ledger.Sound) : ledger.Indexed := by
  rcases h with ⟨accounts, haccounts, hsound, hgrants⟩
  refine ⟨⟨accounts, haccounts, hsound.distinct⟩, ?_⟩
  intro kind
  rcases hgrants kind with ⟨grants, hthere, hkind⟩
  exact ⟨grants, hthere, hkind.distinct, hkind.levelled⟩

/-- All grants of one name are held by one user. -/
theorem holder_eq_of_belongs {accounts : List Account} {username : String} {a b : Grant}
    (hnames : accounts.Pairwise fun a b => a.username ≠ b.username)
    (ha : belongs accounts username a = true) (hb : belongs accounts username b = true) :
    a.holder = b.holder := by
  rcases List.any_eq_true.1 ha with ⟨account, hmem, hfirst⟩
  rw [Bool.and_eq_true, decide_eq_true_eq, decide_eq_true_eq] at hfirst
  rw [← hfirst.2, belongs_iff_holder hnames hmem] at hb
  rw [← hfirst.1, hb]

/-- So no two of them are on one key. -/
theorem keys_of_belongs {accounts : List Account} {grants : List Grant}
    (hnames : accounts.Pairwise fun a b => a.username ≠ b.username)
    (hgrants : grants.Pairwise fun a b => ¬ (a.key = b.key ∧ a.holder = b.holder))
    (username : String) :
    (grants.filter (belongs accounts username)).Pairwise fun a b => a.key ≠ b.key := by
  rw [List.pairwise_filter]
  refine hgrants.imp ?_
  intro a b hclash ha hb hkey
  exact hclash ⟨hkey, holder_eq_of_belongs hnames ha hb⟩

/-- The level that a user has on a key: that of his grant, or the default. -/
def levelFor (accounts : List Account) (grants : List Grant) (default : Level)
    (key username : String) : Level :=
  (((grants.filter (belongs accounts username)).find? (·.key = key)).map Grant.levelOf).getD
    default

namespace Indexed

variable {ledger : Ledger} {kind : Kind} {accounts : Table Account} {grants : Table Grant}

/-- A search lists the levels of all grants of the user. -/
theorem readability_eq (h : ledger.Indexed) (haccounts : ledger.accounts = some accounts)
    (hgrants : ledger.grants? kind = some grants) (default : Level) (username : String) :
    ∃ readable, Followup.readability default kind username ledger = .ok readable ∧
      ∀ key, readable.canRead (some key) =
        (levelFor accounts.rows grants.rows default key username).allows .read := by
  rcases h with ⟨⟨table, htable, hnames⟩, hall⟩
  obtain rfl := Option.some.inj (haccounts.symm.trans htable)
  rcases hall kind with ⟨rows, hrows, hdistinct, hlevels⟩
  obtain rfl := Option.some.inj (hgrants.symm.trans hrows)
  have hheld : (grants.rows.filter (belongs accounts.rows username)).mapM (Grant.held kind) =
      .ok ((grants.rows.filter (belongs accounts.rows username)).map fun grant =>
        ⟨kind, grant.key, grant.holder, grant.levelOf⟩) :=
    Error.mapM_eq_map fun grant hgrant =>
      Grant.held_eq (hlevels grant (List.mem_filter.1 hgrant).1) kind
  have hlisted : ledger.grantsOf kind username = .ok
      ((grants.rows.filter (belongs accounts.rows username)).map fun grant =>
        ⟨kind, grant.key, grant.holder, grant.levelOf⟩) := by
    rw [grantsOf, grantTable_eq_ok_iff.2 hgrants, accountTable_eq_ok_iff.2 haccounts]
    exact hheld
  refine ⟨_, by rw [Followup.readability, hlisted]; rfl, ?_⟩
  intro key
  -- The list is kept in the reverse order, and the user holds at most one grant on a key.
  have hlookup := lookup_reverse (fun grant : Grant => grant.levelOf.allows .read)
    (keys_of_belongs hnames hdistinct username) key
  simp only [Readability.canRead, Readability.ofGrants, List.map_map, ← List.map_reverse,
    Function.comp_def]
  rw [hlookup, levelFor]
  cases (grants.rows.filter (belongs accounts.rows username)).find? (·.key = key) <;> rfl

/-- A read looks for the grant of the user on the key. -/
theorem levelOn_eq (h : ledger.Indexed) (haccounts : ledger.accounts = some accounts)
    (hgrants : ledger.grants? kind = some grants) (default : Level) (key username : String) :
    ledger.levelOn default (some ⟨kind, key⟩) username =
      .ok (levelFor accounts.rows grants.rows default key username) := by
  rcases h.grants kind with ⟨rows, hrows, -, hlevels⟩
  obtain rfl := Option.some.inj (hgrants.symm.trans hrows)
  -- The grant that is looked for is the first one of the user on the key.
  have hsearch : grants.rows.find? (fun grant => grant.key = key &&
      belongs accounts.rows username grant) =
      (grants.rows.filter (belongs accounts.rows username)).find? (·.key = key) := by
    rw [List.find?_filter]
    congr 1
    funext grant
    simp [and_comm]
  cases hrow : (grants.rows.filter (belongs accounts.rows username)).find? (·.key = key) with
  | none =>
      have hfind : ledger.findGrant kind key username = .error (kind.absent key username) := by
        rw [findGrant, grantTable_eq_ok_iff.2 hgrants, accountTable_eq_ok_iff.2 haccounts]
        simp only [bind, Except.bind, hsearch, hrow]
      rw [levelOn, grant, hfind, levelFor, hrow]
      cases kind <;> rfl
  | some found =>
      have hfind : ledger.findGrant kind key username = .ok found :=
        findGrant_eq_ok_iff.2 ⟨grants, accounts, hgrants, haccounts, hsearch.trans hrow⟩
      have hmem := (List.mem_filter.1 (List.mem_of_find?_eq_some hrow)).1
      have htold : ledger.grant kind key username =
          .ok ⟨kind, found.key, found.holder, found.levelOf⟩ := by
        rw [grant, hfind]
        exact Grant.held_eq (hlevels found hmem) kind
      rw [levelOn, htold, levelFor, hrow]
      rfl

end Indexed

end Ledger

/-- What a search lists: the kind of grants that its rows are read by, the member that holds the
rows, and the path of their key. -/
structure Listing where
  kind : Kind
  field : String
  key : List String

/-- What the search lists that a follow-up narrows. -/
def Followup.listing? : Followup → Option Listing
  | narrowExperiments => some ⟨.experiment, "experiments", ["experiment_id"]⟩
  | narrowModels => some ⟨.model, "registered_models", ["name"]⟩
  | narrowLoggedModels => some ⟨.experiment, "models", ["info", "experiment_id"]⟩
  | _ => none

/-- The operation that reads the resource of a key. -/
def Kind.readOperation : Kind → Operation
  | experiment => .getExperiment
  | model => .getRegisteredModel

open Gatehouse.Action

variable {σ : Type}

namespace Narrowing

/-- All rows from the fronts of pages are readable. -/
theorem Fronts.readable {readable : Json → Bool} {pages : List Page} {rows : List Json}
    (h : Fronts readable pages rows) : ∀ row ∈ rows, readable row = true := by
  induction h with
  | nil => exact fun _ hrow => nomatch hrow
  | cons hfront _ ih =>
      intro row hrow
      rcases List.mem_append.1 hrow with hfirst | hlater
      · exact (List.mem_filter.1 (hfront.subset hfirst)).2
      · exact ih row hlater

/-- Only an object holds rows. -/
theorem object_of_mem_rowsOf {field : String} {response row : Json}
    (h : row ∈ rowsOf field response) : ∃ members, response = .object members := by
  cases response with
  | object members => exact ⟨members, rfl⟩
  | _ => exact nomatch h

/-- Of the rows of a response the readable ones stay, and no row comes that is not readable. -/
theorem Discloses.mem_iff {readable : Json → Bool} {field : String} {limit : Nat}
    {response body row : Json} {searches : List Searched} {outcome : Except Error Json}
    (h : Discloses readable field limit response searches outcome) (hbody : outcome = .ok body)
    (hrow : row ∈ rowsOf field response) : row ∈ rowsOf field body ↔ readable row = true := by
  rcases h.rows body hbody with ⟨held, pages, more, hheld, -, hfronts, hget, -⟩
  obtain rfl := hheld.rowsOf_eq
  have hrows := (Lists.listed hget).rowsOf_eq
  rw [hrows, List.mem_append, List.mem_filter]
  constructor
  · rintro (⟨-, hreadable⟩ | hmore)
    · exact hreadable
    · exact hfronts.readable row hmore
  · intro hreadable
    exact .inl ⟨hrow, hreadable⟩

section Narrowed

variable {readability : Readability} {response body row : Json} {s s' : σ}

/-- Which rows of a response a narrowing leaves. -/
theorem narrow_mem_iff {search : OffsetSearch σ} (hf : search.field ≠ tokenField)
    (h : exec (narrow search readability response) s = (.ok body, s'))
    (hrow : row ∈ rowsOf search.field response) :
    row ∈ rowsOf search.field body ↔ readableAt search.key readability row = true := by
  rcases object_of_mem_rowsOf hrow with ⟨members, rfl⟩
  rcases narrow_discloses search hf readability members s with ⟨searches, -, hdiscloses⟩
  exact hdiscloses.mem_iff (congrArg Prod.fst h) hrow

theorem loggedModels_mem_iff {tracker : Tracker σ} {query : LoggedModelQuery}
    (h : exec (loggedModels tracker readability query response) s = (.ok body, s'))
    (hrow : row ∈ rowsOf "models" response) :
    row ∈ rowsOf "models" body ↔
      readableAt ["info", "experiment_id"] readability row = true := by
  rcases object_of_mem_rowsOf hrow with ⟨members, rfl⟩
  rcases loggedModels_discloses tracker query readability members s with
    ⟨searches, -, hdiscloses⟩
  exact hdiscloses.mem_iff (congrArg Prod.fst h) hrow

end Narrowed

end Narrowing

namespace Followup

open Narrowing

/-- A narrowing for a user who is no administrator reads what he may read and narrows by that. -/
theorem exec_narrowFor_eq_ok {default : Level} {kind : Kind} {account : Account}
    {narrow : Readability → Action σ Json} {world after : World σ} {body : Json}
    (hadmin : account.admin = false)
    (h : exec (narrowFor default kind account narrow) world = (.ok (.replaced body), after)) :
    ∃ readable remote,
      readability default kind account.username world.ledger = .ok readable ∧
        exec (narrow readable) world.remote = (.ok body, remote) := by
  unfold narrowFor at h
  rw [if_neg (by rw [hadmin]; exact Bool.false_ne_true)] at h
  rcases exec_bind_eq_ok h with ⟨readable, middle, hread, hrest⟩
  rw [World.exec_readLedger] at hread
  rcases Prod.mk.inj hread with ⟨hreadable, rfl⟩
  rcases exec_bind_eq_ok hrest with ⟨narrowed, last, hnarrow, hreplaced⟩
  obtain rfl : narrowed = body := Outcome.replaced.inj (Except.ok.inj (Prod.mk.inj hreplaced).1)
  rw [World.exec_onRemote] at hnarrow
  refine ⟨readable, (exec (narrow readable) world.remote).2, hreadable, ?_⟩
  rw [← (Prod.mk.inj hnarrow).1]

/-- Which rows of a response a narrowing leaves, for a user who is no administrator. -/
theorem mem_iff_of_run {tracker : Tracker σ} {default : Level} {followup : Followup}
    {listing : Listing} {account : Account} {params : Params} {response body row : Json}
    {world after : World σ} (hlisting : followup.listing? = some listing)
    (hadmin : account.admin = false)
    (h : exec (followup.run tracker default account params response) world =
      (.ok (.replaced body), after)) (hrow : row ∈ rowsOf listing.field response) :
    ∃ readable, readability default listing.kind account.username world.ledger = .ok readable ∧
      (row ∈ rowsOf listing.field body ↔ readableAt listing.key readable row = true) := by
  -- Each narrowing takes what the user may read from the ledger, and keeps the rows that it covers.
  cases followup with
  | narrowExperiments =>
      obtain rfl := Option.some.inj hlisting
      rcases exec_narrowFor_eq_ok hadmin h with ⟨readable, remote, hreadable, hnarrow⟩
      rcases exec_bind_eq_ok hnarrow with ⟨query, s, -, hexec⟩
      have hfield : "experiments" ≠ tokenField := by decide
      exact ⟨readable, hreadable, narrow_mem_iff hfield hexec hrow⟩
  | narrowModels =>
      obtain rfl := Option.some.inj hlisting
      rcases exec_narrowFor_eq_ok hadmin h with ⟨readable, remote, hreadable, hnarrow⟩
      rcases exec_bind_eq_ok hnarrow with ⟨query, s, -, hexec⟩
      have hfield : "registered_models" ≠ tokenField := by decide
      exact ⟨readable, hreadable, narrow_mem_iff hfield hexec hrow⟩
  | narrowLoggedModels =>
      obtain rfl := Option.some.inj hlisting
      rcases exec_narrowFor_eq_ok hadmin h with ⟨readable, remote, hreadable, hnarrow⟩
      rcases exec_bind_eq_ok hnarrow with ⟨query, s, -, hexec⟩
      exact ⟨readable, hreadable, loggedModels_mem_iff hexec hrow⟩
  | _ => exact nomatch hlisting

end Followup

namespace Gateway

open Narrowing

/-- What a user may read of a kind is the same in searches and in reads, whether or not he exists:
a key is readable in a search exactly where his level on it allows to read. So a check of a read
of the key holds exactly where that level allows it, and so does a row with the key stay in any
search that is narrowed for him. -/
theorem visible_iff_readable (gateway : Gateway σ) (account : Account) {world : World σ}
    (h : world.ledger.Indexed) (kind : Kind) (key : String) :
    ∃ readable level,
      Followup.readability gateway.default kind account.username world.ledger = .ok readable ∧
      world.ledger.levelOn gateway.default (some ⟨kind, key⟩) account.username = .ok level ∧
      readable.canRead (some key) = level.allows .read ∧
      (∀ check params, kind.readOperation.check? = some check →
        params.get kind.keyName = .ok key →
        exec (gateway.evaluate account params check) world = (.ok (level.allows .read), world)) ∧
      ∀ followup listing, Followup.listing? followup = some listing → listing.kind = kind →
        account.admin = false → ∀ params response body after row,
          exec (followup.run gateway.tracker gateway.default account params response) world =
            (.ok (.replaced body), after) →
          row ∈ rowsOf listing.field response →
          (row.at? listing.key).bind Json.string? = some key →
          (row ∈ rowsOf listing.field body ↔ level.allows .read = true) := by
  rcases h.accounts with ⟨accounts, haccounts, -⟩
  rcases h.grants kind with ⟨grants, hgrants, -⟩
  rcases h.readability_eq haccounts hgrants gateway.default account.username with
    ⟨readable, hreadable, hcan⟩
  have hlevel := h.levelOn_eq haccounts hgrants gateway.default key account.username
  refine ⟨readable, _, hreadable, hlevel, hcan key, ?_, ?_⟩
  · intro check params hcheck hkey
    -- The check of a read is one of the capability to read, on the key itself.
    have hread : check = .capability kind.subject .read := by
      cases kind <;> exact (Option.some.inj hcheck).symm
    rw [hread, exec_evaluate_kind gateway account world hkey, hlevel]
    rfl
  · -- The narrowing goes by the same readability.
    intro followup listing hlisting hkind hadmin params response body after row hrun hrow hkey
    rcases Followup.mem_iff_of_run hlisting hadmin hrun hrow with ⟨found, hfound, hiff⟩
    rw [hkind, hreadable] at hfound
    obtain rfl := Except.ok.inj hfound
    rw [hiff, readableAt, hkey, hcan]

/-- A user who may read one of two experiments. -/
def shelf : World Memory :=
  ⟨Database.ledgerAfter () [.called (.createUser "ada" "secret" false),
    .called (.createGrant .experiment "7" "ada" "READ")],
    ⟨⟨[("7", "first"), ("8", "second")], [], [], []⟩, 0⟩⟩

/-- A gateway before a tracker in memory, with nothing allowed by default. -/
def closed : Gateway Memory :=
  ⟨Memory.tracker, .noPermissions, .remoteUser, 1024, fun _ => pure ⟨200, [], []⟩⟩

/-- The experiment with the grant is shown and may be read. -/
theorem visible_iff_readable_shelf :
    let row := Inventory.experimentRow ("7", "first")
    let body : Json := .object [("experiments", .array [row])]
    shelf.ledger.Indexed ∧ ∃ level,
      shelf.ledger.levelOn .noPermissions (some ⟨.experiment, "7"⟩) "ada" = .ok level ∧
      exec (closed.evaluate ⟨1, "ada", .password "secret", false⟩
        ⟨[("experiment_id", .string "7")]⟩ (.capability .experimentId .read)) shelf =
          (.ok (level.allows .read), shelf) ∧
      (row ∈ rowsOf "experiments" body ↔ level.allows .read = true) := by
  intro row body
  have hstart : (Database.restart, ()).1.InUse := Database.inUse_restart
  have hindexed : shelf.ledger.Indexed := (hstart.after _).1.sound.indexed
  rcases visible_iff_readable closed ⟨1, "ada", .password "secret", false⟩ hindexed .experiment "7"
    with ⟨_, level, -, hlevel, -, hread, hsearch⟩
  exact ⟨hindexed, level, hlevel, hread _ _ rfl rfl,
    hsearch .narrowExperiments _ rfl rfl rfl .empty
      (.object [("experiments", .array [row, Inventory.experimentRow ("8", "second")])]) body shelf
      row rfl List.mem_cons_self rfl⟩

end Gateway

end Gatehouse
