import Gatehouse.Proofs.Gateway.Relay

/-!
# Administrators

An administrator's request goes to the service behind the gateway and the answer of the service
comes back, for every path, method, query and body: nothing is checked, no parameters are read,
and nothing follows a success. So neither the grants, nor the default level, nor what the tracker
would say make a difference, and the tables stay as they are. Only two operations are followed up
for administrators as well, those which delete and rename registered models; and what the gateway
answers itself does not go to the service.

## Main definitions

* `Operation.movesGrants`: The operations that are followed up whoever causes them.
* `Gateway.Bypasses`: A request of an administrator that goes to the service.

## Theorems

* `Gateway.sender_congr`: Who sends a request is told by the accounts.
* `Gateway.caseOf_admin`: What is decided about an administrator.
* `Gateway.bypassed`: An administrator is answered by the service.
-/

namespace Gatehouse

open Gatehouse.Action

variable {σ : Type}

/-- The operations that are followed up whoever causes them: they delete and rename registered
models. -/
def Operation.movesGrants : Operation → Bool
  | deleteRegisteredModel | renameRegisteredModel => true
  | _ => false

namespace Followup

/-- What is followed up for an administrator is one of these. -/
theorem movesGrants_of_applies {operation : Operation} {followup : Followup} {account : Account}
    (hadmin : account.admin = true) (hfollowup : operation.followup? = some followup)
    (h : followup.applies account = true) : operation.movesGrants = true := by
  cases operation with
  | deleteRegisteredModel => rfl
  | renameRegisteredModel => rfl
  | createExperiment | createRegisteredModel | searchExperiments | searchLoggedModels
  | searchRegisteredModels =>
      obtain rfl := Option.some.inj hfollowup
      change (!account.admin) = true at h
      rw [hadmin] at h
      exact nomatch h
  | _ => exact nomatch hfollowup

end Followup

namespace Gateway

/-- A request of an administrator that goes to the service: its body fits, its path decodes, its
sender is an administrator, the gateway does not answer it itself, and it does not delete or rename
a registered model. -/
structure Bypasses (gateway : Gateway σ) (request : Http.Request) (ledger : Ledger) : Prop where
  fits : gateway.Fits request
  decodes : ∃ path, Path.decode request.target.path = .ok path ∧
    ∀ found, Route.find? path request.method = some found → found.operation.movesGrants = false
  admin : ∃ account, gateway.sender request.headers ledger = .ok (some account) ∧
    account.admin = true
  foreign : Local.ofPath? request.target.path = none

/-- Who sends a request is told by the accounts, and nothing else of the gateway than the way in
which senders show who they are. -/
theorem sender_congr (gateway : Gateway σ) (headers : Http.Headers) {ledger other : Ledger}
    (h : ledger.accounts = other.accounts) :
    gateway.sender headers ledger = gateway.sender headers other := by
  have hfind (username : String) : ledger.findAccount username = other.findAccount username := by
    rw [Ledger.findAccount, Ledger.findAccount, Ledger.accountTable, Ledger.accountTable, h]
  simp only [sender, Authn.authenticate, Ledger.authenticate, Ledger.hasUser, hfind]

/-- About an administrator nothing is decided: there is no check, and nothing to follow unless
grants are to be moved. -/
theorem caseOf_admin {account : Account} {path : String} {method : Http.Method}
    (hadmin : account.admin = true) (hmoves : ∀ found, Route.find? path method = some found →
      found.operation.movesGrants = false) :
    caseOf account path method = ⟨Route.find? path method, none, none⟩ := by
  have hfollowup : ((Route.find? path method).bind (·.operation.followup?)).filter
      (Followup.applies account) = none := by
    refine Option.eq_none_iff_forall_ne_some.2 ?_
    intro followup h
    rcases Option.filter_eq_some_iff.1 h with ⟨hfollowup, happlies⟩
    rcases Option.bind_eq_some_iff.1 hfollowup with ⟨found, hfound, hoperation⟩
    -- What applies to an administrator moves grants.
    have hmoved := Followup.movesGrants_of_applies hadmin hoperation happlies
    rw [hmoves found hfound] at hmoved
    exact nomatch hmoved
  rw [caseOf, if_pos hadmin, hfollowup]

/-- A request about which nothing is decided is passed on, with everything as it was. -/
theorem exec_serve_free (gateway : Gateway σ) (next : Handler σ) {account : Account} {path : String}
    {request : Http.Request} (found : Option Route.Found)
    (hcase : caseOf account path request.method = ⟨found, none, none⟩) (world : World σ) :
    exec (gateway.serve next account path request) world = exec (liftM (next request)) world := by
  have hscreen : exec (gateway.screen account ⟨found, none, none⟩ request) world =
      (.ok .empty, world) := rfl
  rw [exec_serve, hcase, hscreen]
  rfl

/-- What is not answered by the gateway itself the service answers, and the tables stay. -/
theorem run_pass_foreign (gateway : Gateway σ) {request : Http.Request}
    (hforeign : Local.ofPath? request.target.path = none) (world : World σ) :
    (gateway.pass request).run world = (((gateway.service request).run world.remote).1,
      ⟨world.ledger, ((gateway.service request).run world.remote).2⟩) := by
  rw [pass, hforeign]
  rfl

/-- Of such an answer status and fields are sent, and the body where it is wanted. -/
theorem dispatched_foreign {request : Http.Request}
    (hforeign : Local.ofPath? request.target.path = none) (response : Http.Response) :
    (dispatched request response).status = response.status ∧
    (dispatched request response).headers = response.headers ∧
    (request.method ≠ .head → request.method ≠ .connect →
      (dispatched request response).body = response.body) := by
  rw [dispatched, hforeign]
  dsimp only
  split
  · next hconnect =>
    rw [Bool.and_eq_true, decide_eq_true_eq] at hconnect
    exact ⟨rfl, rfl, fun _ hother => absurd hconnect.1 hother⟩
  · exact ⟨rfl, rfl, fun hother _ => if_neg hother⟩

/-- An administrator's request is passed on, whatever handler there is. -/
theorem Bypasses.run_receive {gateway : Gateway σ} {request : Http.Request} (world : World σ)
    (h : gateway.Bypasses request world.ledger) (next : Handler σ) : (gateway.receive next
    request).run world = (next request).run world := by
  rcases h.decodes with ⟨path, hdecode, hmoves⟩
  rcases h.admin with ⟨account, hsender, hadmin⟩
  have hpassed : exec (gateway.authorize next request) world =
      exec (liftM (next request)) world := by
    by_cases hopen : Path.isOpen path = true
    · rw [authorize, exec_bind_of_ok hdecode, if_pos hopen]
    · rw [gateway.exec_authorize_closed world hdecode hopen, hsender]
      exact gateway.exec_serve_free next _ (caseOf_admin hadmin hmoves) world
  rw [Gateway.run_receive h.fits.bounded?_eq, hpassed]
  rfl

/-- Such a request is one whatever the grants are, and before whatever tracker and default. -/
theorem Bypasses.change {gateway : Gateway σ} {request : Http.Request} {ledger : Ledger}
    (h : gateway.Bypasses request ledger) (tracker : Tracker σ) (default : Level)
    (experimentGrants modelGrants : Option (Table Grant)) :
    Bypasses { gateway with tracker := tracker, default := default } request
      ⟨ledger.accounts, experimentGrants, modelGrants⟩ where
  fits := h.fits
  decodes := h.decodes
  admin := by
    rcases h.admin with ⟨account, hsender, hadmin⟩
    refine ⟨account, ?_, hadmin⟩
    rw [← hsender]
    exact gateway.sender_congr request.headers rfl
  foreign := h.foreign

/-- The response to an administrator is that of the service, whatever the grants are, whatever the
default is, and whatever the tracker says and does when it is asked: it is not asked, so what lies
behind the gateway is left as the service leaves it, and so are all tables. What is sent differs
from it at most in that no body is wanted. -/
theorem bypassed (gateway : Gateway σ) (request : Http.Request) (world : World σ)
    (h : gateway.Bypasses request world.ledger) (tracker : Tracker σ) (default : Level)
    (experimentGrants modelGrants : Option (Table Grant)) :
    let answered := (gateway.service request).run world.remote
    let changed : Gateway σ := { gateway with tracker := tracker, default := default }
    let ledger : Ledger := ⟨world.ledger.accounts, experimentGrants, modelGrants⟩
    (changed.receive changed.pass request).run ⟨ledger, world.remote⟩ =
      (answered.1, ⟨ledger, answered.2⟩) ∧
    (changed.handle request).run ⟨ledger, world.remote⟩ =
      (dispatched request answered.1, ⟨ledger, answered.2⟩) ∧
    (dispatched request answered.1).status = answered.1.status ∧
    (dispatched request answered.1).headers = answered.1.headers ∧
    (request.method ≠ .head → request.method ≠ .connect →
      (dispatched request answered.1).body = answered.1.body) := by
  intro answered changed ledger
  have hreceive : (changed.receive changed.pass request).run ⟨ledger, world.remote⟩ =
      (answered.1, ⟨ledger, answered.2⟩) := by
    -- What makes it a bypass does not depend on tracker, default or grants.
    have hchanged := h.change tracker default experimentGrants modelGrants
    exact (hchanged.run_receive ⟨ledger, world.remote⟩ changed.pass).trans
      (changed.run_pass_foreign h.foreign ⟨ledger, world.remote⟩)
  refine ⟨hreceive, ?_, dispatched_foreign h.foreign answered.1⟩
  rw [handle, StateT.run_map, hreceive]
  rfl

/-- A search whose body is no document. -/
def malformed : Http.Request := { searching with body := .whole (Text.utf8 "no document") }

/-- A ledger with an administrator, and with a grant whose level is none. -/
def governed : World Memory :=
  ⟨⟨some ⟨[⟨1, "ada", .password "secret", true⟩], 1⟩, some ⟨[⟨1, "0", 1, "ALL"⟩], 1⟩,
    some .empty⟩, .empty, 0⟩

/-- An administrator's search is answered by the service, though its body cannot be read and the
grants cannot either, and also where there are no tables of grants. -/
theorem bypassed_malformed : trusting.Bypasses malformed governed.ledger ∧
    (trusting.receive trusting.pass malformed).run governed = (⟨200, [], []⟩, governed) ∧
    (trusting.receive trusting.pass malformed).run
        ⟨⟨governed.ledger.accounts, none, none⟩, governed.remote⟩ =
      (⟨200, [], []⟩, ⟨⟨governed.ledger.accounts, none, none⟩, governed.remote⟩) := by
  have hbypasses : trusting.Bypasses malformed governed.ledger := by
    refine ⟨⟨_, rfl, by decide +kernel, fun declared hdeclared => nomatch hdeclared⟩,
      ⟨malformed.target.path, Path.decode_eq_self (by decide +kernel) (by decide +kernel), ?_⟩,
      ⟨⟨1, "ada", .password "secret", true⟩, rfl, rfl⟩, by decide +kernel⟩
    intro found hfound
    obtain rfl := Option.some.inj (find?_searching.symm.trans hfound)
    rfl
  exact ⟨hbypasses,
    (bypassed trusting malformed governed hbypasses trusting.tracker trusting.default _ _).1,
    (bypassed trusting malformed governed hbypasses trusting.tracker trusting.default _ _).1⟩

end Gateway

end Gatehouse
