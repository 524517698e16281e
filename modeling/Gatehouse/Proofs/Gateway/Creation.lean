import Gatehouse.Proofs.Classification
import Gatehouse.Proofs.Gateway.Bypass
import Gatehouse.Proofs.Gateway.Interleaving

/-!
# Creators

Every user may create experiments and registered models. What his request comes to is up to the
service behind the gateway; whether he is granted the level to manage what he created is up to its
answer. He is if he is no administrator, the answer is no failure, its body tells the id of the new
resource, and he holds no grant on that id yet. Then there is one more row for him, and the answer
goes out as it came. In all other cases no table changes; an administrator, and whoever is answered
by a failure, gets the answer all the same, and everybody else is told what was wrong with it.

## Main definitions

* `Kind.creation`, `Kind.onCreatedBy`, `Kind.idPath`, `Kind.missingId`: How resources of a kind are
  created, and what follows.
* `Kind.Tells`: An answer that tells the id of a new resource.
* `Gateway.Creates`: A request to create a resource, and its answer.
* `Gateway.Earns`, `Gateway.Withheld`: When the creator is granted the level to manage it, and why
  he is not.

## Theorems

* `Route.creations_found`: Such requests are not open, and not answered by the gateway itself.
* `Ledger.createGrant_free`, `Ledger.createGrant_held`: Whether a new grant is entered.
* `Gateway.Creates.run_receive`: Such a request is passed on as it is.
* `Gateway.creator_granted`: What is entered, and what is answered.
-/

namespace Gatehouse

open Gatehouse.Action World Text

namespace Kind

/-- The operation that creates a resource of a kind. -/
def creation : Kind → Operation
  | experiment => .createExperiment
  | model => .createRegisteredModel

/-- What follows its success. -/
def onCreated : Kind → Followup
  | experiment => .grantExperiment
  | model => .grantModel

/-- What follows its success for the one who asked for it. -/
def onCreatedBy (kind : Kind) (account : Account) : Option Followup :=
  (some kind.onCreated).filter (Followup.applies account)

/-- It is for users only. -/
theorem onCreatedBy_eq (kind : Kind) (account : Account) :
    kind.onCreatedBy account = if account.admin then none else some kind.onCreated := by
  rw [onCreatedBy, Option.filter_some]
  cases kind <;> cases hadmin : account.admin <;>
    simp only [onCreated, Followup.applies, hadmin, Bool.not_true, Bool.not_false, if_true, if_false,
      Bool.false_eq_true]

/-- Where an answer has the id of the new resource. -/
def idPath : Kind → List String
  | experiment => ["experiment_id"]
  | model => ["registered_model", "name"]

/-- What is wrong with an answer that has none. -/
def missingId : Kind → Fault
  | experiment => .noExperimentId
  | model => .noModelName

/-- The body of an answer is a document that has the id of a new resource in its place: a text that
is not empty, or a number. -/
def Tells (kind : Kind) (response : Http.Response) (id : String) : Prop :=
  ∃ body, Json.ofBytes? response.body = some body ∧
    (body.at? kind.idPath = some (.string id) ∧ id ≠ "" ∨
      ∃ n, body.at? kind.idPath = some (.number n) ∧ n.text = id)

/-- It tells one id at most. -/
theorem Tells.unique {kind : Kind} {response : Http.Response} {id other : String}
    (h : kind.Tells response id) (hother : kind.Tells response other) : id = other := by
  rcases h with ⟨body, hbody, hid⟩
  rcases hother with ⟨same, hsame, hother⟩
  obtain rfl := Option.some.inj (hbody.symm.trans hsame)
  rcases hid with ⟨hid, -⟩ | ⟨n, hid, rfl⟩ <;> rcases hother with ⟨hother, -⟩ | ⟨m, hother, rfl⟩
  · exact Json.string.inj (Option.some.inj (hid.symm.trans hother))
  · exact nomatch Option.some.inj (hid.symm.trans hother)
  · exact nomatch Option.some.inj (hid.symm.trans hother)
  · rw [Json.number.inj (Option.some.inj (hid.symm.trans hother))]

end Kind

/-- Whether an operation creates a resource of its own. -/
def Operation.creates : Operation → Bool
  | createExperiment | createRegisteredModel => true
  | _ => false

namespace Route

theorem creations_checked :
    (written.filter (·.operation.creates)).all (Written.isForwarded written ownPaths) = true ∧
    (written.filter (·.operation.creates)).all (·.methods = [.post]) = true := by
  unfold written writtenCalls trackingEndpoints apiRoots ownPaths Management.all Local.healthPath
  simp only [List.map_cons, List.map_nil, List.flatMap_cons, List.flatMap_nil, List.cons_append,
    List.nil_append, Management.path, Management.grantRoot, Management.root,
    String.toList_append, Management.operation, Management.method]
  repeat rw [String.toList_ofList]
  decide +kernel

/-- Requests to create something are sent with one method, they are not open, and the gateway does
not answer them itself. -/
theorem creations_found {path : String} {method : Http.Method} {found : Found}
    (h : find? path method = some found) (hcreates : found.operation.creates = true) :
    method = .post ∧ Path.isOpen path = false ∧ path.toList ∉ ownPaths := by
  refine ⟨?_, forwarded_found creations_checked.1 h hcreates⟩
  rcases (Table.find?_eq_some .rfl .rfl).1 h with ⟨endpoint, hendpoint, hfound⟩
  rcases Option.map_eq_some_iff.1 hfound with ⟨pair, haccept, rfl⟩
  rcases Written.accept?_eq_some.1 haccept with ⟨hmethod, hoperation, -⟩
  rw [← hoperation] at hcreates
  have hmethods := List.all_eq_true.1 creations_checked.2 endpoint
    (List.mem_filter.2 ⟨hendpoint, hcreates⟩)
  rw [of_decide_eq_true hmethods] at hmethod
  exact List.mem_singleton.1 hmethod

/-- What is found is no artifact. -/
theorem artifactCheck?_of_found {path : String} {method : Http.Method} {found : Found}
    (h : find? path method = some found) : artifactCheck? path method = none := by
  refine Option.not_isSome_iff_eq_none.1 fun hartifact => ?_
  have hnone := find?_eq_none List.mem_cons_self (startsWith_of_artifactCheck? hartifact) method
  exact nomatch h.symm.trans hnone

end Route

namespace Ledger

variable {ledger : Ledger} {kind : Kind} {key username : String} {account : Account}
  {grants : Table Grant}

theorem createGrant_of (hfound : ledger.findAccount username = .ok account)
    (hgrants : ledger.grants? kind = some grants) (level : Level) :
    createGrant kind key username level.name ledger =
      if grants.rows.any (Grant.clashes ⟨0, key, account.id, level.name⟩) then
        .error (kind.conflict key username)
      else .ok (⟨kind, key, account.id, level⟩,
        ledger.withGrants kind (grants.add (⟨·, key, account.id, level.name⟩))) := by
  rw [createGrant_eq, hfound, grantTable_eq_ok_iff.2 hgrants]
  cases level <;> rfl

theorem any_clashes_iff {rows : List Grant} {id holder : Nat} {level : String} :
    rows.any (Grant.clashes ⟨id, key, holder, level⟩) = true ↔
      ∃ grant ∈ rows, grant.key = key ∧ grant.holder = holder := by
  rw [List.any_eq_true]
  refine exists_congr fun grant => and_congr_right fun _ => ?_
  rw [Grant.clashes, Bool.and_eq_true, decide_eq_true_eq, decide_eq_true_eq]
  exact and_congr eq_comm eq_comm

/-- A user who holds no grant on a resource can be granted a level. -/
theorem createGrant_free (hfound : ledger.findAccount username = .ok account)
    (hgrants : ledger.grants? kind = some grants)
    (hfree : ∀ grant ∈ grants.rows, ¬ (grant.key = key ∧ grant.holder = account.id))
    (level : Level) : createGrant kind key username level.name ledger =
      .ok (⟨kind, key, account.id, level⟩,
        ledger.withGrants kind (grants.add (⟨·, key, account.id, level.name⟩))) := by
  rw [createGrant_of hfound hgrants level, if_neg]
  rw [any_clashes_iff]
  rintro ⟨grant, hgrant, hboth⟩
  exact hfree grant hgrant hboth

/-- One who holds a grant on it cannot. -/
theorem createGrant_held (hfound : ledger.findAccount username = .ok account)
    (hgrants : ledger.grants? kind = some grants)
    (hheld : ∃ grant ∈ grants.rows, grant.key = key ∧ grant.holder = account.id) (level : Level) :
    createGrant kind key username level.name ledger = .error (kind.conflict key username) := by
  rw [createGrant_of hfound hgrants level, if_pos (any_clashes_iff.2 hheld)]

end Ledger

namespace Followup

theorem idText?_eq_some_iff {value : Json} {id : String} : idText? value = some id ↔
    value = .string id ∧ id ≠ "" ∨ ∃ n, value = .number n ∧ n.text = id := by
  -- A text or a number is an id, except for the empty text.
  cases value with
  | string text =>
      rw [idText?]
      constructor
      · intro h
        split at h
        · exact nomatch h
        · next hfilled =>
          obtain rfl := Option.some.inj h
          refine .inl ⟨rfl, ?_⟩
          rintro rfl
          exact hfilled rfl
      · rintro (⟨htext, hfilled⟩ | ⟨n, hnumber, -⟩)
        · obtain rfl := Json.string.inj htext
          rw [if_neg (mt String.isEmpty_iff.1 hfilled)]
        · exact nomatch hnumber
  | number n =>
      rw [idText?]
      constructor
      · intro h
        exact .inr ⟨n, rfl, Option.some.inj h⟩
      · rintro (⟨htext, -⟩ | ⟨other, hnumber, hid⟩)
        · exact nomatch htext
        · obtain rfl := Json.number.inj hnumber
          rw [hid]
  | null | bool | array | object =>
      constructor
      · intro h
        exact nomatch h
      · rintro (⟨htext, -⟩ | ⟨n, hnumber, -⟩)
        · exact nomatch htext
        · exact nomatch hnumber

theorem newId?_eq_some_iff {path : List String} {body : Json} {id : String} :
    newId? path body = some id ↔ body.at? path = some (.string id) ∧ id ≠ "" ∨
      ∃ n, body.at? path = some (.number n) ∧ n.text = id := by
  rw [newId?, Option.bind_eq_some_iff]
  constructor
  · rintro ⟨value, hvalue, hid⟩
    rw [hvalue]
    rcases idText?_eq_some_iff.1 hid with ⟨rfl, hfilled⟩ | ⟨n, rfl, htext⟩
    · exact .inl ⟨rfl, hfilled⟩
    · exact .inr ⟨n, rfl, htext⟩
  · rintro (⟨hvalue, hfilled⟩ | ⟨n, hvalue, hid⟩)
    · exact ⟨_, hvalue, idText?_eq_some_iff.2 (.inl ⟨rfl, hfilled⟩)⟩
    · exact ⟨_, hvalue, idText?_eq_some_iff.2 (.inr ⟨n, rfl, hid⟩)⟩

variable {σ : Type} {kind : Kind} {account : Account} {body : Json}

/-- What follows a creation is the same for all kinds. -/
theorem run_onCreated (tracker : Tracker σ) (default : Level) (kind : Kind) (account : Account)
    (params : Params) (body : Json) : kind.onCreated.run tracker default account params body =
      grantCreator kind kind.idPath kind.missingId account body := by
  cases kind <;> rfl

theorem exec_grantCreator_missing (hadmin : account.admin = false)
    (hid : newId? kind.idPath body = none) (world : World σ) :
    exec (grantCreator kind kind.idPath kind.missingId account body) world =
      (.error (.fault kind.missingId), world) := by
  rw [grantCreator, if_neg (by rw [hadmin]; exact Bool.false_ne_true), hid]
  rfl

theorem exec_grantCreator_told {id : String} (hadmin : account.admin = false)
    (hid : newId? kind.idPath body = some id) (world : World σ) :
    exec (grantCreator kind kind.idPath kind.missingId account body) world =
      match Ledger.createGrant kind id account.username Level.manage.name world.ledger with
      | .ok (_, ledger) => (.ok .unchanged, { world with ledger := ledger })
      | .error e => (.error e, world) := by
  rw [grantCreator, if_neg (by rw [hadmin]; exact Bool.false_ne_true), hid]
  change exec (do
    let _ ← onLedger _
    pure Outcome.unchanged : Action (World σ) Outcome) world = _
  rw [exec_bind_pure, exec_onLedger]
  cases Ledger.createGrant kind id account.username Level.manage.name world.ledger <;> rfl

end Followup

namespace Gateway

variable {σ : Type} {gateway : Gateway σ} {kind : Kind} {request taken : Http.Request}
  {world : World σ} {account : Account} {response : Http.Response} {left : σ}

/-- A request of a known sender to create a resource of a kind, and what the service behind the
gateway answers to it. -/
structure Creates (gateway : Gateway σ) (kind : Kind) (request taken : Http.Request)
    (world : World σ) (account : Account) (response : Http.Response) (left : σ) : Prop where
  fits : gateway.bounded? request = some taken
  found : ∃ path, Path.decode taken.target.path = .ok path ∧
    (Route.find? path taken.method).map (·.operation) = some kind.creation
  sender : gateway.sender taken.headers world.ledger = .ok (some account)
  answered : (gateway.service taken).run world.remote = (response, left)

/-- The creator of a resource is granted the level to manage it: he is no administrator, the answer
is no failure and tells the id of the resource, and he holds no grant on it yet. -/
structure Earns (kind : Kind) (account : Account) (response : Http.Response) (grants : Table Grant)
    (id : String) : Prop where
  user : account.admin = false
  success : response.isFailure = false
  told : kind.Tells response id
  free : ∀ grant ∈ grants.rows, ¬ (grant.key = id ∧ grant.holder = account.id)

/-- Why an answer that is no failure does not go out to a user as it came. -/
inductive Withheld (kind : Kind) (account : Account) (response : Http.Response)
    (grants : Table Grant) : Error → Prop
  | unreadable (hbody : Json.ofBytes? response.body = none) :
      Withheld kind account response grants .document
  | untold {body : Json} (hbody : Json.ofBytes? response.body = some body)
      (huntold : ∀ id, ¬ kind.Tells response id) :
      Withheld kind account response grants (.fault kind.missingId)
  | held {id : String} (htold : kind.Tells response id)
      (hheld : ∃ grant ∈ grants.rows, grant.key = id ∧ grant.holder = account.id) :
      Withheld kind account response grants (kind.conflict id account.username)

/-- What is granted is not withheld. -/
theorem Earns.not_withheld {grants : Table Grant} {id : String}
    (h : Earns kind account response grants id) (e : Error) :
    ¬ Withheld kind account response grants e := by
  intro hwithheld
  rcases h.told with ⟨body, hbody, -⟩
  cases hwithheld with
  | unreadable hnone => exact nomatch hbody.symm.trans hnone
  | untold _ huntold => exact huntold id h.told
  | held htold hheld =>
      obtain rfl := htold.unique h.told
      rcases hheld with ⟨grant, hgrant, hboth⟩
      exact h.free grant hgrant hboth

/-- Nothing is checked before a creation, and its follow-up is for users. -/
theorem caseOf_creation {path : String} {method : Http.Method} {found : Route.Found}
    (hfound : Route.find? path method = some found) (hcreation : found.operation = kind.creation)
    (account : Account) : caseOf account path method =
      ⟨some found, kind.onCreatedBy account, none⟩ := by
  have hcheck : checkOf? path method = none := by
    rw [checkOf?, hfound, Option.bind_some, hcreation, Route.artifactCheck?_of_found hfound]
    cases kind <;> rfl
  have hfollowup : found.operation.followup? = some kind.onCreated := by
    rw [hcreation]
    cases kind <;> rfl
  rw [caseOf, hcheck, hfound, Option.bind_some, hfollowup, ite_self]
  rfl

namespace Creates

/-- The sender is stored under his name. -/
theorem known (h : gateway.Creates kind request taken world account response left) :
    world.ledger.findAccount account.username = .ok account := by
  rcases sender_eq_ok_iff.1 h.sender with ⟨credentials, -, haccount⟩
  rcases Ledger.findAccount_eq_ok_iff.1 haccount with ⟨accounts, haccounts, hrow⟩
  have hname : account.username = credentials.username := by simpa using List.find?_some hrow
  rw [hname]
  exact haccount

/-- Such a request is sent with one method, its path is not open, and the gateway does not answer it
itself. -/
theorem forwarded (h : gateway.Creates kind request taken world account response left) :
    ∃ path found, Path.decode taken.target.path = .ok path ∧
      Route.find? path taken.method = some found ∧ found.operation = kind.creation ∧
      Path.isOpen path = false ∧ taken.method = .post ∧
      Local.ofPath? taken.target.path = none := by
  rcases h.found with ⟨path, hdecode, hoperation⟩
  rcases Option.map_eq_some_iff.1 hoperation with ⟨found, hfound, hcreation⟩
  have hcreates : found.operation.creates = true := by
    rw [hcreation]
    cases kind <;> rfl
  rcases Route.creations_found hfound hcreates with ⟨hmethod, hclosed, hforeign⟩
  exact ⟨path, found, hdecode, hfound, hcreation, hclosed, hmethod,
    Local.ofPath?_eq_none hdecode hforeign⟩

/-- Such a request goes out to the service as it is, and its answer is completed. -/
theorem run_receive (h : gateway.Creates kind request taken world account response left) :
    (gateway.receive gateway.pass request).run world =
      gateway.finish account .empty (kind.onCreatedBy account) response ⟨world.ledger, left⟩ := by
  rcases h.forwarded with ⟨path, found, hdecode, hfound, hcreation, hclosed, -, hforeign⟩
  have hcase := caseOf_creation hfound hcreation account
  -- No parameters are read, so the request cannot be stopped.
  have hscreen : exec (gateway.screen account (caseOf account path taken.method) taken) world =
      (.ok .empty, world) := by
    rw [hcase, Kind.onCreatedBy_eq]
    cases account.admin <;> cases kind <;> rfl
  have hpass : exec (liftM (gateway.pass taken) : Action (World σ) Http.Response) world =
      (.ok response, ⟨world.ledger, left⟩) := by
    have hrun := gateway.run_pass_foreign hforeign world
    rw [h.answered] at hrun
    rw [exec_lift, hrun]
  rw [Gateway.run_receive h.fits, gateway.exec_authorize_closed world hdecode
    (Bool.eq_false_iff.1 hclosed), h.sender]
  dsimp only
  rw [exec_serve, hscreen, hcase]
  dsimp only
  rw [exec_bind_ok hpass]
  rfl

/-- What comes of its answer is sent as it is. -/
theorem run_handle (h : gateway.Creates kind request taken world account response left) :
    (gateway.handle request).run world =
      gateway.finish account .empty (kind.onCreatedBy account) response ⟨world.ledger, left⟩ := by
  rcases h.forwarded with ⟨path, found, -, -, -, -, hmethod, hforeign⟩
  rw [of_bounded? h.fits] at hmethod hforeign
  have hsame (response : Http.Response) : dispatched request response = response := by
    rw [dispatched, hforeign, show request.method = .post from hmethod]
    rfl
  rw [handle, StateT.run_map, h.run_receive]
  exact Prod.ext (hsame _) rfl

end Creates

section Finish

variable (gateway) {grants : Table Grant}

/-- An administrator, and whoever is answered by a failure, gets the answer as it is. -/
theorem finish_spared (h : account.admin = true ∨ response.isFailure = true) (after : World σ) :
    gateway.finish account .empty (kind.onCreatedBy account) response after =
      (response, after) := by
  rcases h with hadmin | hfailure
  · rw [Kind.onCreatedBy_eq, hadmin]
    rfl
  · rw [finish, exec_complete_failure _ _ _ hfailure]
    rfl

/-- After a success the creator of a resource, if he is a user, is granted the level to manage it,
or he is told why he is not. -/
theorem finish_created (hadmin : account.admin = false) (hsuccess : response.isFailure = false)
    {after : World σ} (hknown : after.ledger.findAccount account.username = .ok account)
    (hgrants : after.ledger.grants? kind = some grants) :
    (∃ id, Earns kind account response grants id ∧
      gateway.finish account .empty (kind.onCreatedBy account) response after =
        (response, ⟨after.ledger.withGrants kind
          (grants.add (⟨·, id, account.id, Level.manage.name⟩)), after.remote⟩)) ∨
    (∃ e, Withheld kind account response grants e ∧
      gateway.finish account .empty (kind.onCreatedBy account) response after =
        (e.response, after)) := by
  rw [Kind.onCreatedBy_eq, hadmin, if_neg Bool.false_ne_true,
    finish_eq gateway account .empty hsuccess]
  -- What can fail is looked at in the order in which it is reached: the document, the id in it, and
  -- the table.
  cases hbody : Json.ofBytes? response.body with
  | none =>
      refine .inr ⟨.document, .unreadable hbody, ?_⟩
      rw [follow, hbody]
      rfl
  | some body =>
      rw [exec_follow gateway account .empty hbody, run, Followup.run_onCreated]
      cases hid : Followup.newId? kind.idPath body with
      | none =>
          rw [Followup.exec_grantCreator_missing hadmin hid]
          refine .inr ⟨_, .untold hbody ?_, rfl⟩
          -- A response that tells an id has it where it is looked for.
          rintro id ⟨other, hother, htold⟩
          obtain rfl := Option.some.inj (hbody.symm.trans hother)
          cases hid.symm.trans (Followup.newId?_eq_some_iff.2 htold)
      | some id =>
          have htold : kind.Tells response id := ⟨body, hbody, Followup.newId?_eq_some_iff.1 hid⟩
          rw [Followup.exec_grantCreator_told hadmin hid]
          by_cases hheld : ∃ grant ∈ grants.rows, grant.key = id ∧ grant.holder = account.id
          · rw [Ledger.createGrant_held hknown hgrants hheld]
            exact .inr ⟨_, .held htold hheld, rfl⟩
          · have hfree : ∀ grant ∈ grants.rows, ¬ (grant.key = id ∧ grant.holder = account.id) :=
              fun grant hgrant hboth => hheld ⟨grant, hgrant, hboth⟩
            rw [Ledger.createGrant_free hknown hgrants hfree]
            exact .inl ⟨id, ⟨hadmin, hsuccess, htold, hfree⟩, rfl⟩

end Finish

/-- A known sender's request to create a resource comes to this: if he earns the level to manage it,
one row is added to the grants of its kind, and the answer of the service is his answer. If he does
not, no table changes; an administrator has the answer of the service even so, and so has everybody
if it is a failure, and a user whom it is of no use to is told why. -/
theorem creator_granted (h : gateway.Creates kind request taken world account response left)
    {grants : Table Grant} (hgrants : world.ledger.grants? kind = some grants) :
    let after := (gateway.handle request).run world
    after.2.remote = left ∧
    (∀ id, Earns kind account response grants id → after.1 = response ∧
      after.2.ledger = world.ledger.withGrants kind
        ⟨grants.rows ++ [⟨grants.issued + 1, id, account.id, Level.manage.name⟩],
          grants.issued + 1⟩) ∧
    ((∀ id, ¬ Earns kind account response grants id) → after.2.ledger = world.ledger) ∧
    (account.admin = true ∨ response.isFailure = true → after.1 = response) ∧
    (account.admin = false → response.isFailure = false →
      (∀ id, ¬ Earns kind account response grants id) →
        ∃ e, Withheld kind account response grants e ∧ after.1 = e.response) := by
  intro after
  have hafter : after =
      gateway.finish account .empty (kind.onCreatedBy account) response ⟨world.ledger, left⟩ :=
    h.run_handle
  by_cases hspared : account.admin = true ∨ response.isFailure = true
  · -- Administrators are granted nothing, and nobody is after a failure.
    have hnot (id : String) : ¬ Earns kind account response grants id := by
      intro hearns
      rcases hspared with hadmin | hfailure
      · cases hadmin.symm.trans hearns.user
      · cases hfailure.symm.trans hearns.success
    rw [finish_spared gateway hspared] at hafter
    rw [hafter]
    refine ⟨rfl, fun id hearns => absurd hearns (hnot id), fun _ => rfl, fun _ => rfl, ?_⟩
    intro hadmin hsuccess
    rcases hspared with hspared | hspared
    · cases hadmin.symm.trans hspared
    · cases hsuccess.symm.trans hspared
  · have hadmin : account.admin = false := Bool.eq_false_iff.2 fun h => hspared (.inl h)
    have hsuccess : response.isFailure = false := Bool.eq_false_iff.2 fun h => hspared (.inr h)
    have hknown : (World.mk world.ledger left).ledger.findAccount account.username = .ok account :=
      h.known
    rcases finish_created gateway hadmin hsuccess hknown hgrants with
      ⟨id, hearns, hrun⟩ | ⟨e, hwithheld, hrun⟩
    · rw [hrun] at hafter
      rw [hafter]
      refine ⟨rfl, ?_, fun hnot => absurd hearns (hnot id), fun h => absurd h hspared,
        fun _ _ hnot => absurd hearns (hnot id)⟩
      -- A response tells one id only, so the row is that of any id that is earned.
      intro other hother
      obtain rfl := hother.told.unique hearns.told
      exact ⟨rfl, rfl⟩
    · rw [hrun] at hafter
      rw [hafter]
      refine ⟨rfl, ?_, fun _ => rfl, fun h => absurd h hspared, fun _ _ _ => ⟨e, hwithheld, rfl⟩⟩
      -- What is earned is not withheld.
      intro id hearns
      exact absurd hwithheld (hearns.not_withheld e)

/-- The model "m" is there already, and somebody else manages it; the user who has created it anew
manages it as well. -/
theorem creator_granted_second :
    (accepting entry).Creates .model (creation "m") (creation "m") keeper
        ⟨2, "bob", .password "hidden", false⟩ ⟨200, [], entry⟩ keeper.remote ∧
      Earns .model ⟨2, "bob", .password "hidden", false⟩ ⟨200, [], entry⟩
        ⟨[⟨1, "m", 1, "MANAGE"⟩], 1⟩ "m" ∧
      (((accepting entry).handle (creation "m")).run keeper).1 = ⟨200, [], entry⟩ ∧
      (((accepting entry).handle (creation "m")).run keeper).2.ledger.modelRows =
        [⟨1, "m", 1, "MANAGE"⟩, ⟨2, "m", 2, "MANAGE"⟩] := by
  have haccepted := accepted_creation
  have hcreates : (accepting entry).Creates .model (creation "m") (creation "m") keeper
      ⟨2, "bob", .password "hidden", false⟩ ⟨200, [], entry⟩ keeper.remote :=
    ⟨haccepted.fits, ⟨_, haccepted.decoded, haccepted.found⟩, haccepted.sender, rfl⟩
  have hearns : Earns .model ⟨2, "bob", .password "hidden", false⟩ ⟨200, [], entry⟩
      ⟨[⟨1, "m", 1, "MANAGE"⟩], 1⟩ "m" := by
    rcases Option.bind_eq_some_iff.1 entry_told with ⟨body, hbody, hid⟩
    refine ⟨rfl, rfl, ⟨body, hbody, Followup.newId?_eq_some_iff.1 hid⟩, ?_⟩
    intro grant hgrant hboth
    obtain rfl := List.mem_singleton.1 hgrant
    exact absurd hboth.2 (by decide)
  rcases (creator_granted hcreates rfl).2.1 "m" hearns with ⟨hanswer, hledger⟩
  refine ⟨hcreates, hearns, hanswer, ?_⟩
  rw [hledger]
  rfl

end Gateway

end Gatehouse
