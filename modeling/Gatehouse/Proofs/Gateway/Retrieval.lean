import Gatehouse.Proofs.Gateway.Creation
import Gatehouse.Proofs.Visibility

/-!
# What a creator finds

Who creates an experiment is granted the level to manage it, under the id that the answer tells. So
a search should show it to him, whatever is allowed by default. The id of a row is read in another
way, though. An answer may tell a text or a number, and the grant is under the text or the numeral;
a row has a key only if its id is a text. A row whose id is a number has none, so there the grant is
of no use, and the default decides.

## Main definitions

* `Readability.insert`: One more key that is read by a grant of its own.

## Theorems

* `Ledger.createGrant_eq_ok`: A new grant is one more row.
* `Ledger.grantsOf_createGrant`: It is listed behind those that the user has.
* `Followup.readability_createGrant`: What the user may read afterwards.
* `Followup.readableAt_iff_of_createGrant`: Which rows with the new id he may read.
* `Followup.creator_finds_iff`: Which of them a search shows to the creator.
* `Followup.creator_misses_numeral`: One that it does not.
-/

namespace Gatehouse

open Gatehouse.Action Narrowing

namespace Ledger

variable {ledger changed : Ledger} {kind : Kind} {key username : String} {level : Level}
  {held : Held}

/-- A user who is granted a level is in the table of users, and the grant in that of grants. -/
theorem createGrant_eq_ok
    (h : createGrant kind key username level.name ledger = .ok (held, changed)) :
    ∃ account grants, ledger.findAccount username = .ok account ∧
      ledger.grants? kind = some grants ∧ held = ⟨kind, key, account.id, level⟩ ∧
      changed = ledger.withGrants kind (grants.add (⟨·, key, account.id, level.name⟩)) := by
  rw [createGrant_eq, Level.ofName_name] at h
  rcases Error.bind_eq_ok_iff.1 h with ⟨named, hnamed, hrest⟩
  rcases Error.bind_eq_ok_iff.1 hrest with ⟨account, hfound, hrest⟩
  rcases Error.bind_eq_ok_iff.1 hrest with ⟨grants, htable, hrest⟩
  rw [← Except.ok.inj hnamed] at hrest
  split at hrest
  · exact nomatch hrest
  · rcases Prod.mk.inj (Except.ok.inj hrest) with ⟨rfl, rfl⟩
    exact ⟨account, grants, hfound, grantTable_eq_ok_iff.1 htable, rfl, rfl⟩

theorem grantsOf_createGrant
    (h : createGrant kind key username level.name ledger = .ok (held, changed)) :
    changed.grantsOf kind username = (ledger.grantsOf kind username).map (· ++ [held]) ∧
      held.key = key ∧ held.level = level := by
  rcases createGrant_eq_ok h with ⟨account, grants, hfound, hgrants, rfl, rfl⟩
  refine ⟨?_, rfl, rfl⟩
  rcases findAccount_eq_ok_iff.1 hfound with ⟨accounts, haccounts, -⟩
  rcases mem_of_findAccount haccounts hfound with ⟨hmem, hname⟩
  -- The new row is the user's, whoever else may have his name.
  have hbelongs : belongs accounts.rows username
      ⟨grants.issued + 1, key, account.id, level.name⟩ = true := by
    refine List.any_eq_true.2 ⟨account, hmem, ?_⟩
    simp only [hname, decide_true, Bool.and_self]
  have hlast : [(⟨grants.issued + 1, key, account.id, level.name⟩ : Grant)].mapM
      (Grant.held kind) = .ok [⟨kind, key, account.id, level⟩] := by
    rw [List.mapM_cons, Grant.held, Level.ofName_name]
    rfl
  unfold grantsOf
  rw [grantTable_eq_ok_iff.2 hgrants, accountTable_eq_ok_iff.2 haccounts,
    grantTable_eq_ok_iff.2 (by rw [grants?_withGrants, if_pos rfl]),
    accountTable_eq_ok_iff.2 (by rw [accounts_withGrants]; exact haccounts)]
  change (List.filter _ (grants.rows ++ [_])).mapM _ = Except.map _ (List.mapM _ _)
  rw [List.filter_append, List.filter_cons_of_pos hbelongs, List.filter_nil, List.mapM_append,
    hlast]
  cases List.mapM (Grant.held kind) (grants.rows.filter (belongs accounts.rows username)) <;> rfl

end Ledger

/-- One more key that is read by a grant of its own. -/
def Readability.insert (readable : Readability) (key : String) (allowed : Bool) : Readability :=
  ⟨(key, allowed) :: readable.byKey, readable.default⟩

namespace Readability

theorem canRead_insert (readable : Readability) (key : String) (allowed : Bool) :
    (readable.insert key allowed).canRead (some key) = allowed := by
  rw [canRead, Readability.insert, List.lookup_cons_self]
  rfl

/-- The last grant of a list counts first. -/
theorem ofGrants_concat (grants : List (String × Level)) (key : String) (level default : Level) :
    ofGrants (grants ++ [(key, level)]) default =
      (ofGrants grants default).insert key (level.allows .read) := by
  rw [ofGrants, List.reverse_append, List.reverse_singleton, List.singleton_append, List.map_cons]
  rfl

end Readability

namespace Followup

variable {default : Level} {kind : Kind} {username : String} {ledger changed : Ledger}
  {readable : Readability}

/-- What a user may read after he was granted a level, from what he could read before. -/
theorem readability_createGrant (default : Level) {key : String} {level : Level} {held : Held}
    (h : Ledger.createGrant kind key username level.name ledger = .ok (held, changed)) :
    readability default kind username changed =
      (readability default kind username ledger).map (·.insert key (level.allows .read)) := by
  rcases Ledger.grantsOf_createGrant h with ⟨hlisted, rfl, rfl⟩
  unfold readability
  rw [hlisted]
  cases ledger.grantsOf kind username with
  | error e => rfl
  | ok before =>
      -- The new grant is the last one that is listed, and so the first one that counts.
      change Except.ok (Readability.ofGrants ((before ++ [held]).map _) default) = _
      rw [List.map_append, List.map_singleton, Readability.ofGrants_concat]
      rfl

/-- A row without a key is read by default. -/
theorem default_of_readability
    (h : readability default kind username ledger = .ok readable) :
    readable.default = default.allows .read := by
  unfold readability at h
  cases hgrants : ledger.grantsOf kind username with
  | error e =>
      rw [hgrants] at h
      exact nomatch h
  | ok grants =>
      rw [hgrants] at h
      rw [← Except.ok.inj h]
      rfl

/-- A creator is granted a level where the answer tells an id and the table of grants takes it. -/
theorem createGrant_of_grantCreator {σ : Type} (kind : Kind) {account : Account}
    {body value : Json} {world after : World σ} {outcome : Outcome}
    (hadmin : account.admin = false) (hvalue : body.at? kind.idPath = some value)
    (h : exec (grantCreator kind kind.idPath kind.missingId account body) world =
      (.ok outcome, after)) :
    ∃ id held, idText? value = some id ∧
      Ledger.createGrant kind id account.username Level.manage.name world.ledger =
        .ok (held, after.ledger) := by
  have hnew : newId? kind.idPath body = idText? value := by
    rw [newId?, hvalue, Option.bind_some]
  -- The follow-up succeeded, so the id was told and the grant was taken.
  cases hid : idText? value with
  | none =>
      rw [exec_grantCreator_missing hadmin (hnew.trans hid)] at h
      cases (Prod.mk.inj h).1
  | some id =>
      rw [exec_grantCreator_told hadmin (hnew.trans hid)] at h
      rcases hgrant : Ledger.createGrant kind id account.username Level.manage.name world.ledger
        with e | ⟨held, changed⟩
      · rw [hgrant] at h
        cases (Prod.mk.inj h).1
      · rw [hgrant] at h
        rw [← (Prod.mk.inj h).2]
        exact ⟨id, held, rfl, hgrant⟩

/-- A row with the value whose id has just been granted is read by the key of that id if the value
is a text, and by default if it is a number. -/
theorem readableAt_iff_of_createGrant {value row : Json} {path : List String} {id : String}
    {held : Held} (hid : idText? value = some id) (hrow : row.at? path = some value)
    (hgrant : Ledger.createGrant kind id username Level.manage.name ledger = .ok (held, changed))
    (hreadable : readability default kind username changed = .ok readable) :
    readableAt path readable row = true ↔
      (∃ text, value = .string text) ∨ default.allows .read = true := by
  rw [readability_createGrant default hgrant] at hreadable
  cases hbefore : readability default kind username ledger with
  | error e =>
      rw [hbefore] at hreadable
      exact nomatch hreadable
  | ok before =>
      rw [hbefore] at hreadable
      rw [← Except.ok.inj hreadable, ← default_of_readability hbefore, readableAt, hrow,
        Option.bind_some]
      rcases idText?_eq_some_iff.1 hid with ⟨rfl, -⟩ | ⟨n, rfl, -⟩
      · refine iff_of_true ?_ (.inl ⟨id, rfl⟩)
        exact Readability.canRead_insert before id true
      · -- A number is no key.
        change before.default = true ↔ _
        simp only [reduceCtorEq, exists_false, false_or]

/-- Who creates an experiment finds it in a search afterwards exactly if its id is told by a text, or
if everybody may read by default. An id told by a number is entered as a numeral, and a row with
that number has no key to look it up by. -/
theorem creator_finds_iff {σ τ : Type} (tracker : Tracker σ) (searched : Tracker τ)
    (default : Level) (account : Account) (hadmin : account.admin = false) (params : Params)
    (created value : Json) (hvalue : created.at? ["experiment_id"] = some value)
    (world after : World σ) (outcome : Outcome)
    (hgranted : exec (Followup.run tracker default .grantExperiment account params created) world =
      (.ok outcome, after)) :
    (world.ledger.Indexed → ∃ readable,
      readability default .experiment account.username after.ledger = .ok readable) ∧
    ∀ readable, readability default .experiment account.username after.ledger = .ok readable →
      ∀ row, row.at? ["experiment_id"] = some value →
        (readableAt ["experiment_id"] readable row = true ↔
          (∃ text, value = .string text) ∨ default.allows .read = true) ∧
        ∀ query response body s s', row ∈ rowsOf "experiments" response →
          exec (Narrowing.experiments searched readable query response) s = (.ok body, s') →
          (row ∈ rowsOf "experiments" body ↔
            (∃ text, value = .string text) ∨ default.allows .read = true) := by
  rcases createGrant_of_grantCreator .experiment hadmin hvalue hgranted with
    ⟨id, held, hid, hgrant⟩
  constructor
  · intro hindexed
    rcases hindexed.accounts with ⟨accounts, haccounts, -⟩
    rcases hindexed.grants .experiment with ⟨grants, hgrants, -⟩
    rcases hindexed.readability_eq haccounts hgrants default account.username with
      ⟨before, hbefore, -⟩
    rw [readability_createGrant default hgrant, hbefore]
    exact ⟨_, rfl⟩
  · intro readable hreadable row hrow
    have hread := readableAt_iff_of_createGrant hid hrow hgrant hreadable
    refine ⟨hread, ?_⟩
    intro query response body s s' hmem hnarrowed
    -- A search leaves the rows that may be read, whatever else it finds.
    have hfield : "experiments" ≠ tokenField := by decide
    rw [← hread]
    exact narrow_mem_iff hfield hnarrowed hmem

/-- The world with one user and nothing else. -/
def lone : World Memory :=
  ⟨Database.ledgerAfter () [.called (.createUser "bob" "secret" false)], ⟨.empty, 0⟩⟩

/-- The experiment of a text is found although nothing is allowed by default. -/
theorem creator_finds_iff_text :
    let bob : Account := ⟨1, "bob", .password "secret", false⟩
    let created : Json := .object [("experiment_id", .string "5")]
    let response : Json := .object [("experiments", .array [created])]
    bob.admin = false ∧ created.at? ["experiment_id"] = some (.string "5") ∧
      lone.ledger.Indexed ∧ ∃ after readable,
        exec (Followup.run Memory.tracker .noPermissions .grantExperiment bob .empty created) lone =
          (.ok .unchanged, after) ∧
        readability .noPermissions .experiment "bob" after.ledger = .ok readable ∧
        readableAt ["experiment_id"] readable created = true ∧
        created ∈ rowsOf "experiments" response ∧
        exec (Narrowing.experiments Memory.tracker readable ⟨1, none, [], none⟩ response)
          after.remote = (.ok response, after.remote) ∧
        (created ∈ rowsOf "experiments" response ↔ (∃ text, Json.string "5" = .string text) ∨
          Level.noPermissions.allows .read = true) := by
  intro bob created response
  have hstart : (Database.restart, ()).1.InUse := Database.inUse_restart
  have hindexed : lone.ledger.Indexed := (hstart.after _).1.sound.indexed
  have hrow : created ∈ rowsOf "experiments" response := List.mem_cons_self
  rcases creator_finds_iff Memory.tracker Memory.tracker .noPermissions bob rfl .empty created
    (.string "5") rfl lone _ .unchanged rfl with ⟨-, hfinds⟩
  -- After the follow-up the user may read what has the key 5, and nothing else.
  rcases hfinds ⟨[("5", true)], false⟩ rfl created rfl with ⟨hread, hnarrowed⟩
  exact ⟨rfl, rfl, hindexed, _, ⟨[("5", true)], false⟩, rfl, rfl, hread.2 (.inl ⟨"5", rfl⟩), hrow,
    rfl, hnarrowed ⟨1, none, [], none⟩ response response lone.remote lone.remote hrow rfl⟩

/-- That of a number is not, although the level to manage it has been granted. -/
theorem creator_misses_numeral :
    let bob : Account := ⟨1, "bob", .password "secret", false⟩
    let created : Json := .object [("experiment_id", .ofNat 5)]
    ∃ after readable,
      exec (Followup.run Memory.tracker .noPermissions .grantExperiment bob .empty created) lone =
        (.ok .unchanged, after) ∧
      after.ledger.grant .experiment "5" "bob" = .ok ⟨.experiment, "5", 1, .manage⟩ ∧
      readability .noPermissions .experiment "bob" after.ledger = .ok readable ∧
      exec (Narrowing.experiments Memory.tracker readable ⟨1, none, [], none⟩
        (.object [("experiments", .array [created])])) after.remote =
        (.ok (.object [("experiments", .array [])]), after.remote) := by
  intro bob created
  exact ⟨_, _, rfl, rfl, rfl, rfl⟩

end Followup

end Gatehouse
