import Gatehouse.Ledger.Schema
import Gatehouse.Proofs.Ledger.Sound
import Gatehouse.Proofs.World

/-!
# Histories of a database

What a database that was set up afresh comes to over time. It may be opened again, which brings
its schema up to date, its ledger may be called with any arguments, and requests may be followed
up; any of this may fail. The ledger stays sound throughout, and since its ids are never used
again, a user who is entered holds nothing of what a user of that name held before.

One event either enters a user or enters a grant, never both, so what a new user could hold is
what was there before him. Those grants belong to users of before, whose ids are smaller than his.

## Main definitions

* `Ledger.Call`: The calls on a ledger, with their arguments.
* `Database.Event`: What can happen to a database in use.
* `Database.after`, `Database.ledgerAfter`: A database after some events, and its ledger.

## Theorems

* `Ledger.Call.after_advances`, `Followup.Effect.advances`: One call, and one follow-up.
* `Ledger.Advances.newcomer`: Whoever is entered holds no grant.
* `Database.Event.advances`: One event.
* `Database.InUse.after`, `Database.history_sound`: Any number of events.
-/

namespace Gatehouse

namespace Ledger

open Statement

/-- A call on a ledger with its arguments. -/
inductive Call where
  | createUser (username password : String) (admin : Bool)
  | hasUser (username : String)
  | getUser (username : String)
  | getDetails (username : String)
  | authenticate (username password : String)
  | updateUser (username : String) (password : Option String) (admin : Option Bool)
  | deleteUser (username : String)
  | createAdmin (username password : String)
  | createGrant (kind : Kind) (key username levelName : String)
  | getGrant (kind : Kind) (key username : String)
  | listGrants (kind : Kind) (username : String)
  | updateGrant (kind : Kind) (key username levelName : String)
  | deleteGrant (kind : Kind) (key username : String)
  | dropModelGrants (name : String)
  | renameModelGrants (old new : String)

/-- The ledger after a call, whether or not it succeeds. -/
def Call.after : Call → Ledger → Ledger
  | createUser username password admin => (Ledger.createUser username password admin).after
  | hasUser username => (look (Ledger.hasUser username)).after
  | getUser username => (look (findAccount username)).after
  | getDetails username => (look (details username)).after
  | authenticate username password => (look (Ledger.authenticate username password)).after
  | updateUser username password admin => (Ledger.updateUser username password admin).after
  | deleteUser username => (Ledger.deleteUser username).after
  | createAdmin username password => (Ledger.createAdmin username password).after
  | createGrant kind key username level => (Ledger.createGrant kind key username level).after
  | getGrant kind key username => (look (grant kind key username)).after
  | listGrants kind username => (look (grantsOf kind username)).after
  | updateGrant kind key username level => (Ledger.updateGrant kind key username level).after
  | deleteGrant kind key username => (Ledger.deleteGrant kind key username).after
  | dropModelGrants name => (Ledger.dropModelGrants name).after
  | renameModelGrants old new => (Ledger.renameModelGrants old new).after

section Calls

variable {α : Type} {ledger changed : Ledger} {username password : String}

theorem createAdmin_eq (username password : String) (ledger : Ledger) :
    createAdmin username password ledger = (do
      let known ← ledger.hasUser username
      if known then .ok ((), ledger) else enterAdmin username password ledger) := by
  simp only [createAdmin, bind_get, bind_lift, ite_eq, pure_eq]

/-- Entering an administrator is entering a user, or nothing. -/
theorem enterAdmin_advances (h : ledger.Sound)
    (hok : enterAdmin username password ledger = .ok ((), changed)) : Advances ledger changed := by
  unfold enterAdmin at hok
  cases hcreated : createUser username password true ledger with
  | ok result =>
      rw [hcreated] at hok
      obtain rfl := (Prod.mk.inj (Except.ok.inj hok)).2
      exact createUser_advances h hcreated
  | error e =>
      rw [hcreated] at hok
      cases e with
      | conflict =>
          -- The name has been taken meanwhile, which is no failure.
          obtain rfl := (Prod.mk.inj (Except.ok.inj hok)).2
          exact .refl h
      | _ => exact nomatch hok

theorem createAdmin_advances (h : ledger.Sound)
    (hok : createAdmin username password ledger = .ok ((), changed)) :
    Advances ledger changed := by
  rw [createAdmin_eq] at hok
  rcases Error.bind_eq_ok_iff.1 hok with ⟨known, -, hrest⟩
  cases known with
  | true =>
      obtain rfl := (Prod.mk.inj (Except.ok.inj hrest)).2
      exact .refl h
  | false => exact enterAdmin_advances h hrest

/-- A statement that advances a ledger where it succeeds always leaves one that has advanced. -/
theorem advances_after {statement : Statement α} (h : ledger.Sound)
    (hok : ∀ a changed, statement ledger = .ok (a, changed) → Advances ledger changed) :
    Advances ledger (statement.after ledger) :=
  after_induction statement (.refl h) hok

theorem advances_look (h : ledger.Sound) (f : Ledger → Except Error α) :
    Advances ledger ((look f).after ledger) := by
  rw [after_look]
  exact .refl h

/-- One call on a sound ledger, whatever it is given and whatever comes of it. -/
theorem Call.after_advances (h : ledger.Sound) (call : Call) :
    Advances ledger (call.after ledger) := by
  cases call with
  | createUser => exact advances_after h fun _ _ => createUser_advances h
  | hasUser => exact advances_look h _
  | getUser => exact advances_look h _
  | getDetails => exact advances_look h _
  | authenticate => exact advances_look h _
  | updateUser => exact advances_after h fun _ _ => updateUser_advances h
  | deleteUser => exact advances_after h fun _ _ => deleteUser_advances h
  | createAdmin => exact advances_after h fun _ _ => createAdmin_advances h
  | createGrant => exact advances_after h fun _ _ => createGrant_advances h
  | getGrant => exact advances_look h _
  | listGrants => exact advances_look h _
  | updateGrant => exact advances_after h fun _ _ => updateGrant_advances h
  | deleteGrant => exact advances_after h fun _ _ => deleteGrant_advances h
  | dropModelGrants => exact advances_after h fun _ _ => dropModelGrants_advances h
  | renameModelGrants => exact advances_after h fun _ _ => renameModelGrants_advances h

end Calls

section Newcomers

variable {before after : Ledger} {accounts : Table Account} {username : String}

/-- Whether a user exists is whether a row has his name. -/
theorem hasUser_eq (haccounts : before.accounts = some accounts) (username : String) :
    before.hasUser username = .ok (accounts.rows.any (·.username = username)) := by
  have htable : before.accountTable = .ok accounts := accountTable_eq_ok_iff.2 haccounts
  rw [← List.isSome_find?]
  cases hrow : accounts.rows.find? (·.username = username) with
  | none =>
      have hfind : before.findAccount username = .error (.absent (.account username)) := by
        rw [findAccount, htable]
        simp only [bind, Except.bind, hrow]
      rw [hasUser, hfind]
      rfl
  | some account =>
      rw [hasUser, findAccount_eq_ok_iff.2 ⟨accounts, haccounts, hrow⟩]
      rfl

/-- Grants that belong to nobody of a name are not among those of the name. -/
theorem grantsOf_eq_nil {kind : Kind} {grants : Table Grant}
    (haccounts : before.accounts = some accounts) (hgrants : before.grants? kind = some grants)
    (hnone : ∀ grant ∈ grants.rows, belongs accounts.rows username grant = false) :
    before.grantsOf kind username = .ok [] := by
  have hfilter : grants.rows.filter (belongs accounts.rows username) = [] := by
    rw [List.filter_eq_nil_iff]
    intro grant hgrant hbelongs
    rw [hnone grant hgrant] at hbelongs
    exact Bool.false_ne_true hbelongs
  rw [grantsOf, grantTable_eq_ok_iff.2 hgrants, accountTable_eq_ok_iff.2 haccounts]
  change List.mapM (Grant.held kind) (grants.rows.filter (belongs accounts.rows username)) = .ok []
  rw [hfilter]
  rfl

/-- Whoever is there after a statement and was not there before holds no grant. -/
theorem Advances.newcomer (hsound : before.Sound) (h : Advances before after)
    (habsent : before.hasUser username = .ok false)
    (hpresent : after.hasUser username = .ok true) :
    ∃ account, after.details username = .ok ⟨account, [], []⟩ := by
  rcases hsound with ⟨old, hold, holdSound, hallOld⟩
  rcases h.sound with ⟨new, hnew, hnewSound, hallNew⟩
  rw [hasUser_eq hold] at habsent
  rw [hasUser_eq hnew] at hpresent
  rcases List.any_eq_true.1 (Except.ok.inj hpresent) with ⟨entered, hentered, hname⟩
  -- A row of the name has an id that was issued by the statement.
  have hlate : ∀ account ∈ new.rows, account.username = username → old.issued < account.id := by
    intro account haccount hsame
    by_cases hid : account.id ≤ old.issued
    · rcases (h.follows.accounts old new hold hnew).kept account haccount hid with
        ⟨earlier, hearlier, -, hmark⟩
      have htaken : old.rows.any (·.username = username) = true :=
        List.any_eq_true.2 ⟨earlier, hearlier, decide_eq_true (hmark.trans hsame)⟩
      rw [Except.ok.inj habsent] at htaken
      exact absurd htaken Bool.false_ne_true
    · exact Nat.lt_of_not_le hid
  -- So the statement entered a user, and the grants are those of before.
  have hgrants : ∀ kind, after.grants? kind = before.grants? kind := by
    rcases h.apart with hissued | hsame
    · rw [hold, hnew] at hissued
      have hbound := hnewSound.numbered.issued entered hentered
      have hfresh := hlate entered hentered (of_decide_eq_true hname)
      have hequal : new.issued = old.issued := Option.some.inj hissued
      omega
    · exact hsame
  -- Those grants belong to users of before, whose ids are smaller.
  have hnone : ∀ kind, after.grantsOf kind username = .ok [] := by
    intro kind
    rcases hallOld kind with ⟨grants, hthere, hkind⟩
    refine grantsOf_eq_nil hnew ((hgrants kind).trans hthere) ?_
    intro grant hgrant
    unfold belongs
    rw [List.any_eq_false]
    intro account haccount hbelongs
    simp only [Bool.and_eq_true, decide_eq_true_eq] at hbelongs
    rcases hkind.held grant hgrant with ⟨holder, hholder, hid⟩
    have hbound := holdSound.numbered.issued holder hholder
    have hfresh := hlate account haccount hbelongs.2
    omega
  have hfound : (new.rows.find? (·.username = username)).isSome = true := by
    rw [List.find?_isSome]
    exact ⟨entered, hentered, hname⟩
  rcases Option.isSome_iff_exists.1 hfound with ⟨account, hrow⟩
  refine ⟨account, ?_⟩
  rw [details, findAccount_eq_ok_iff.2 ⟨new, hnew, hrow⟩, hnone .experiment, hnone .model]
  rfl

end Newcomers

end Ledger

/-- One follow-up on a sound ledger. -/
theorem Followup.Effect.advances {account : Account} {ledger changed : Ledger}
    (h : ledger.Sound) (heffect : Followup.Effect account ledger changed) :
    Ledger.Advances ledger changed := by
  cases heffect with
  | none => exact .refl h
  | granted => exact Ledger.advances_after h fun _ _ => Ledger.createGrant_advances h
  | dropped => exact Ledger.advances_after h fun _ _ => Ledger.dropModelGrants_advances h
  | renamed => exact Ledger.advances_after h fun _ _ => Ledger.renameModelGrants_advances h

namespace Database

open Gatehouse.Action

variable {σ : Type}

/-- What can happen to a database in use: it is opened again, its ledger is called, or a request
that has succeeded is followed up. -/
inductive Event (σ : Type) where
  | opened
  | called (call : Ledger.Call)
  | followed (tracker : Tracker σ) (default : Level) (followup : Followup) (account : Account)
      (params : Params) (body : Json)

/-- The database and what lies behind the gateway after an event. -/
def Event.apply : Event σ → Database × σ → Database × σ
  | opened, (db, remote) => (db.up none, remote)
  | called call, (db, remote) => ({ db with ledger := call.after db.ledger }, remote)
  | followed tracker default followup account params body, (db, remote) =>
    let world := (exec (followup.run tracker default account params body) ⟨db.ledger, remote⟩).2
    ({ db with ledger := world.ledger }, world.remote)

/-- A database and what lies behind the gateway after some events. -/
def after (state : Database × σ) (events : List (Event σ)) : Database × σ :=
  events.foldl (fun state event => event.apply state) state

/-- The ledger of a database that was set up afresh after some events. -/
def ledgerAfter (remote : σ) (events : List (Event σ)) : Ledger :=
  (after (restart, remote) events).1.ledger

/-- A database all of whose migrations have been applied, with a sound ledger. -/
structure InUse (db : Database) : Prop where
  applied : db.applied = migrations.map (·.name)
  sound : db.ledger.Sound

theorem inUse_restart : restart.InUse where
  applied := rfl
  sound := Ledger.sound_fresh

/-- There is nothing to bring up to date in a database in use. -/
theorem InUse.up_eq {db : Database} (h : db.InUse) : db.up none = db := by
  have hpending : db.pending = [] := by
    rw [pending, h.applied]
    rfl
  rw [up, hpending]
  rfl

/-- One event, whatever it is and whatever comes of it. -/
theorem Event.advances (event : Event σ) {state : Database × σ} (h : state.1.InUse) :
    (event.apply state).1.InUse ∧
      Ledger.Advances state.1.ledger (event.apply state).1.ledger := by
  rcases state with ⟨db, remote⟩
  cases event with
  | opened =>
      change (db.up none).InUse ∧ Ledger.Advances db.ledger (db.up none).ledger
      -- A database in use is up to date, so opening it again changes nothing.
      rw [h.up_eq]
      exact ⟨h, .refl h.sound⟩
  | called call =>
      have hadvances := Ledger.Call.after_advances h.sound call
      exact ⟨⟨h.applied, hadvances.sound⟩, hadvances⟩
  | followed tracker default followup account params body =>
      have hadvances := (Followup.run_effect tracker default followup account params body
        ⟨db.ledger, remote⟩).advances h.sound
      exact ⟨⟨h.applied, hadvances.sound⟩, hadvances⟩

/-- A database stays in use whatever happens to it, and its ledger goes on where it was. -/
theorem InUse.after (events : List (Event σ)) {state : Database × σ} (h : state.1.InUse) :
    (after state events).1.InUse ∧
      Ledger.Follows state.1.ledger (Database.after state events).1.ledger := by
  -- By induction on the events, from any database in use.
  induction events generalizing state with
  | nil => exact ⟨h, .refl _⟩
  | cons event events ih =>
      rcases event.advances h with ⟨hfirst, hadvances⟩
      rcases ih hfirst with ⟨hrest, hfollows⟩
      exact ⟨hrest, hadvances.follows.trans hadvances.sound hfollows⟩

/-- After any events the ledger is sound: names are unique and not empty, no two grants are to one
user on one resource, every grant belongs to a user and has a known level. Ids increase and are
not used again, however it goes on; so a user who is entered by an event holds no grant then,
whatever a user of his name may have held before. -/
theorem history_sound (remote : σ) (events : List (Event σ)) :
    (ledgerAfter remote events).Sound ∧
      (∀ later, Ledger.Follows (ledgerAfter remote events)
        (ledgerAfter remote (events ++ later))) ∧
      ∀ event username, (ledgerAfter remote events).hasUser username = .ok false →
        (ledgerAfter remote (events ++ [event])).hasUser username = .ok true →
        ∃ account, (ledgerAfter remote (events ++ [event])).details username =
          .ok ⟨account, [], []⟩ := by
  have hstart : (restart, remote).1.InUse := inUse_restart
  have hbefore := (hstart.after events).1
  -- What happens later starts from where the first events led.
  have hgoes (later : List (Event σ)) : ledgerAfter remote (events ++ later) =
      (after (after (restart, remote) events) later).1.ledger := by
    rw [ledgerAfter, after, List.foldl_append]
    rfl
  refine ⟨hbefore.sound, ?_, ?_⟩
  · intro later
    rw [hgoes]
    exact (hbefore.after later).2
  · intro event username habsent hpresent
    rw [hgoes] at hpresent ⊢
    exact (event.advances hbefore).2.newcomer hbefore.sound habsent hpresent

/-- The history of a user who is granted something and is deleted. -/
def departure : List (Event Unit) :=
  [.called (.createUser "ada" "first" false),
   .called (.createGrant .experiment "7" "ada" "READ"),
   .called (.deleteUser "ada")]

/-- Entered again, the user holds nothing. -/
theorem history_sound_departure :
    (ledgerAfter () departure).hasUser "ada" = .ok false ∧
      (ledgerAfter () (departure ++ [.called (.createUser "ada" "second" false)])).hasUser "ada" =
        .ok true ∧
      ∃ account, (ledgerAfter () (departure ++
        [.called (.createUser "ada" "second" false)])).details "ada" = .ok ⟨account, [], []⟩ :=
  ⟨rfl, rfl, (history_sound () departure).2.2 (.called (.createUser "ada" "second" false)) "ada"
    rfl rfl⟩

end Database

end Gatehouse
