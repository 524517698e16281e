import Gatehouse.Proofs.Gateway.Bookkeeping
import Mathlib.Data.List.Permutation

/-!
# Interleaved requests

Requests go on while others are in flight: between the answer of the service behind the gateway
and what the gateway does about it, anything else may be let through and may land. Only landings
change the ledger, each in a way that does not depend on what lies behind the gateway. So a run
comes to what its landings come to in their order, and that need not be the order in which the
requests were answered.

Nothing holds a later request back until an earlier one has landed. Where a registered model is
deleted or renamed and its name is entered anew, the grant of the new creator is there in the end
if the older request landed first. If it landed last, it took the new grant for one of those that
it had to drop or to move.

## Main definitions

* `Gateway.Traffic`: A world, and the requests in flight.
* `Gateway.Event`, `Gateway.Step`, `Gateway.Run`: What may happen, once and many times.
* `Gateway.Flight.Removes`, `Gateway.Flight.Enters`: What a flight is going to do.

## Theorems

* `Gateway.Step.ledger_eq`, `Gateway.Run.ledger_eq`: Only landings change the ledger.
* `Gateway.Step.flights_perm`, `Gateway.Run.flights_perm`: What is let through lands, or is in
  flight.
* `Gateway.holds_by_landing`: Who holds what when two requests have landed.
-/

namespace Gatehouse

open Gatehouse.Action World Text

namespace Ledger

section Orders

variable {ledger : Ledger} {account : Account} {old new : String}

/-- The creator of a model is entered after the grants of an older one have been dropped. -/
theorem Knows.dropped_entered (h : ledger.Knows account) (hne : old ≠ new)
    (hnew : ledger.HoldsNone account new) :
    let left := (createGrant .model old account.username Level.manage.name).after
      ((dropModelGrants old).after ledger)
    left.HoldsManage account old ∧ left.HoldsNone account new := by
  have hdropped := after_dropModelGrants old ledger
  have hmiddle := h.call (.dropModelGrants old) hdropped.accounts
  have hentered := hmiddle.entered (hdropped.holdsNone hmiddle)
  have hleft := hmiddle.call (.createGrant .model old account.username Level.manage.name)
    hentered.accounts
  exact ⟨hentered.holdsManage hleft, hentered.holdsNone hmiddle hleft hne
    (hdropped.holdsNone_other hmiddle h hne.symm hnew)⟩

/-- He is entered before that, and his grant goes with the others. -/
theorem Knows.entered_dropped (h : ledger.Knows account) (hne : old ≠ new)
    (hold : ledger.HoldsNone account old) (hnew : ledger.HoldsNone account new) :
    let left := (dropModelGrants old).after
      ((createGrant .model old account.username Level.manage.name).after ledger)
    left.HoldsNone account old ∧ left.HoldsNone account new := by
  have hentered := h.entered hold
  have hmiddle := h.call (.createGrant .model old account.username Level.manage.name)
    hentered.accounts
  have hdropped := after_dropModelGrants old
    ((createGrant .model old account.username Level.manage.name).after ledger)
  have hleft := hmiddle.call (.dropModelGrants old) hdropped.accounts
  exact ⟨hdropped.holdsNone hleft, hdropped.holdsNone_other hleft hmiddle hne.symm
    (hentered.holdsNone h hmiddle hne hnew)⟩

/-- The creator of a model is entered after the grants of an older one have been moved. -/
theorem Knows.moved_entered (h : ledger.Knows account) (hne : old ≠ new)
    (hold : ledger.HoldsNone account old) (hnew : ledger.HoldsNone account new)
    (happart : ¬ ledger.Shared old new) :
    let left := (createGrant .model old account.username Level.manage.name).after
      ((renameModelGrants old new).after ledger)
    left.HoldsManage account old ∧ left.HoldsNone account new := by
  have hmoved := (after_renameModelGrants hne h.sound.modelRows_distinct).2 happart
  have hmiddle := h.call (.renameModelGrants old new) hmoved.accounts
  have hentered := hmiddle.entered (hmoved.holdsNone hmiddle)
  have hleft := hmiddle.call (.createGrant .model old account.username Level.manage.name)
    hentered.accounts
  exact ⟨hentered.holdsManage hleft, hentered.holdsNone hmiddle hleft hne
    (hmoved.holdsNone_new h hmiddle hold hnew)⟩

/-- He is entered before that, and his grant goes where the others go. -/
theorem Knows.entered_moved (h : ledger.Knows account) (hne : old ≠ new)
    (hold : ledger.HoldsNone account old) (hnew : ledger.HoldsNone account new)
    (happart : ¬ ledger.Shared old new) :
    let left := (renameModelGrants old new).after
      ((createGrant .model old account.username Level.manage.name).after ledger)
    left.HoldsNone account old ∧ left.HoldsManage account new := by
  have hentered := h.entered hold
  have hmiddle := h.call (.createGrant .model old account.username Level.manage.name)
    hentered.accounts
  have hmoved := (after_renameModelGrants hne hmiddle.sound.modelRows_distinct).2
    (hentered.apart h hne hnew happart)
  have hleft := hmiddle.call (.renameModelGrants old new) hmoved.accounts
  exact ⟨hmoved.holdsNone hleft, hmoved.holdsManage hmiddle hleft (hentered.holdsManage hmiddle)⟩

end Orders

end Ledger

namespace Followup

variable {σ : Type}

/-- What a follow-up does to the ledger does not depend on what lies behind the gateway. -/
theorem ledger_congr (tracker : Tracker σ) (default : Level) (followup : Followup)
    (account : Account) (params : Params) (body : Json) {world other : World σ}
    (h : other.ledger = world.ledger) :
    (exec (followup.run tracker default account params body) other).2.ledger =
      (exec (followup.run tracker default account params body) world).2.ledger := by
  -- A narrowing leaves the ledger alone.
  have huntouched {action : Action (World σ) Outcome} (hstays : Untouched action) :
      (exec action other).2.ledger = (exec action world).2.ledger := by
    rw [hstays, hstays, h]
  -- What a creator is granted stands in the response, and nobody is asked about it.
  have hcreator (kind : Kind) (path : List String) (missing : Fault) :
      (exec (grantCreator kind path missing account body) other).2.ledger =
        (exec (grantCreator kind path missing account body) world).2.ledger := by
    unfold grantCreator
    split
    · exact h
    · split
      · exact h
      · rw [exec_bind_pure, exec_bind_pure]
        change (exec (onLedger _) other).2.ledger = (exec (onLedger _) world).2.ledger
        rw [ledger_onLedger, ledger_onLedger, h]
  cases followup with
  | grantExperiment => exact hcreator _ _ _
  | grantModel => exact hcreator _ _ _
  | dropModelGrants =>
      cases hname : params.get "name" with
      | error e => rw [run, exec_bind_of_error hname, exec_bind_of_error hname, h]
      | ok name => rw [ledger_dropModelGrants hname, ledger_dropModelGrants hname, h]
  | renameModelGrants =>
      cases hname : params.get "name" with
      | error e => rw [run, exec_bind_of_error hname, exec_bind_of_error hname, h]
      | ok name =>
          cases hnew : params.get "new_name" with
          | error e =>
              rw [run, exec_bind_of_ok hname, exec_bind_of_ok hname, exec_bind_of_error hnew,
                exec_bind_of_error hnew, h]
          | ok new =>
              rw [ledger_renameModelGrants hname hnew, ledger_renameModelGrants hname hnew, h]
  | narrowExperiments => exact huntouched (untouched_narrowFor _ _ _ _)
  | narrowLoggedModels => exact huntouched (untouched_narrowFor _ _ _ _)
  | narrowModels => exact huntouched (untouched_narrowFor _ _ _ _)

end Followup

namespace Gateway

variable {σ : Type} {gateway : Gateway σ}

theorem Flight.ledger_congr (flight : Flight) (gateway : Gateway σ) {world other : World σ}
    (h : other.ledger = world.ledger) :
    (flight.land gateway other).ledger = (flight.land gateway world).ledger := by
  cases hfollowup : flight.followup with
  | none =>
      rw [land, land, hfollowup]
      exact h
  | some followup =>
      rw [ledger_land hfollowup, ledger_land hfollowup]
      split
      · exact h
      · split
        · exact h
        · exact followup.ledger_congr _ _ _ _ _ h

/-- A world, and the requests in flight. -/
structure Traffic (σ : Type) where
  world : World σ
  flights : List Flight

/-- What happens to a request: it is let through, and it lands. -/
inductive Event where
  | passed (flight : Flight)
  | landed (flight : Flight)

namespace Event

/-- The request that is let through. -/
def passed? : Event → Option Flight
  | passed flight => some flight
  | landed _ => none

/-- The request that lands. -/
def landed? : Event → Option Flight
  | passed _ => none
  | landed flight => some flight

end Event

/-- One event: a request that the gateway does not answer itself is let through and is answered
behind the gateway, or one of the requests in flight lands, whichever it is. -/
inductive Step (gateway : Gateway σ) : Traffic σ → Event → Traffic σ → Prop
  | passed {world : World σ} {flights : List Flight} {request taken : Http.Request}
      {path : String} {account : Account} {operation : Operation} {params : Params}
      {response : Http.Response} {left : σ}
      (h : gateway.Accepted request taken world path account operation params response left)
      (hforeign : Path.isOpen path = false ∧ Local.ofPath? taken.target.path = none) :
      Step gateway ⟨world, flights⟩
        (.passed (.ofOperation account operation params response))
        ⟨⟨world.ledger, left⟩, flights ++ [.ofOperation account operation params response]⟩
  | landed (world : World σ) (earlier : List Flight) (flight : Flight) (later : List Flight) :
      Step gateway ⟨world, earlier ++ flight :: later⟩ (.landed flight)
        ⟨flight.land gateway world, earlier ++ later⟩

/-- Any number of events, one after the other. -/
inductive Run (gateway : Gateway σ) : Traffic σ → List Event → Traffic σ → Prop
  | done (traffic : Traffic σ) : Run gateway traffic [] traffic
  | step {start middle finish : Traffic σ} {event : Event} {events : List Event}
      (h : gateway.Step start event middle) (hrest : Run gateway middle events finish) :
      Run gateway start (event :: events) finish

variable {start middle finish : Traffic σ} {event : Event} {events : List Event}

/-- An event changes the ledger as its landing does. -/
theorem Step.ledger_eq (h : gateway.Step start event middle) : middle.world.ledger =
    (event.landed?.elim start.world fun flight => flight.land gateway start.world).ledger := by
  cases h <;> rfl

/-- What is let through is in flight, and what lands is no longer. -/
theorem Step.flights_perm (h : gateway.Step start event middle) :
    (start.flights ++ event.passed?.toList).Perm (event.landed?.toList ++ middle.flights) := by
  cases h with
  | passed => exact .refl _
  | landed world earlier flight later =>
      change ((earlier ++ flight :: later) ++ []).Perm (flight :: (earlier ++ later))
      rw [List.append_nil]
      exact List.perm_middle

/-- The ledger after a run is that after its landings in turn, whatever lies behind the gateway. -/
theorem Run.ledger_eq (h : gateway.Run start events finish) :
    ∀ world : World σ, world.ledger = start.world.ledger → finish.world.ledger =
      ((events.filterMap Event.landed?).foldl (fun world flight => flight.land gateway world)
        world).ledger := by
  induction h with
  | done traffic => exact fun world hworld => hworld.symm
  | @step start middle finish event events hstep _ ih =>
      intro world hworld
      have hledger := hstep.ledger_eq
      cases event with
      | passed flight => exact ih world (hworld.trans hledger.symm)
      | landed flight =>
          exact ih (flight.land gateway world)
            ((flight.ledger_congr gateway hworld).trans hledger.symm)

/-- What is let through in a run, or was in flight before, has landed or is in flight. -/
theorem Run.flights_perm (h : gateway.Run start events finish) :
    (start.flights ++ events.filterMap Event.passed?).Perm
      (events.filterMap Event.landed? ++ finish.flights) := by
  induction h with
  | done traffic => exact .of_eq (List.append_nil _)
  | @step start middle finish event events hstep _ ih =>
      have hcons (f : Event → Option Flight) :
          (event :: events).filterMap f = (f event).toList ++ events.filterMap f := by
        rw [List.filterMap_cons]
        cases f event <;> rfl
      rw [hcons, hcons, ← List.append_assoc, List.append_assoc _ _ finish.flights]
      refine (hstep.flights_perm.append_right _).trans ?_
      rw [List.append_assoc]
      exact ih.append_left _

namespace Flight

/-- A success that a follow-up answers with its document. -/
structure Calls (flight : Flight) (followup : Followup) : Prop where
  followup : flight.followup = some followup
  success : flight.response.isFailure = false
  document : (Json.ofBytes? flight.response.body).isSome = true

/-- A registered model has been deleted. -/
structure Deletes (flight : Flight) (name : String) : Prop where
  calls : flight.Calls .dropModelGrants
  name : flight.params.get "name" = .ok name

/-- A registered model has been renamed. -/
structure Renames (flight : Flight) (old new : String) : Prop where
  calls : flight.Calls .renameModelGrants
  old : flight.params.get "name" = .ok old
  new : flight.params.get "new_name" = .ok new

/-- A registered model has been entered by somebody who is no administrator, and the response
tells its name. -/
structure Enters (flight : Flight) (name : String) : Prop where
  calls : flight.Calls .grantModel
  user : flight.account.admin = false
  name : (Json.ofBytes? flight.response.body).bind
    (Followup.newId? ["registered_model", "name"]) = some name

variable {flight : Flight} {name old new : String}

theorem Calls.ledger_eq {α : Type} {statement : Statement α} {followup : Followup}
    (h : flight.Calls followup) {world : World σ}
    (hstatement : ∀ body, Json.ofBytes? flight.response.body = some body →
      (exec (followup.run gateway.tracker gateway.default flight.account flight.params body)
        world).2.ledger = statement.after world.ledger) :
    (flight.land gateway world).ledger = statement.after world.ledger :=
  (ledger_land_statement h.followup h.success hstatement).trans (if_pos h.document)

theorem Deletes.ledger_eq (h : flight.Deletes name) (gateway : Gateway σ) (world : World σ) :
    (flight.land gateway world).ledger = (Ledger.dropModelGrants name).after world.ledger :=
  h.calls.ledger_eq fun body _ => Followup.ledger_dropModelGrants h.name _ _ _ body _

theorem Renames.ledger_eq (h : flight.Renames old new) (gateway : Gateway σ) (world : World σ) :
    (flight.land gateway world).ledger = (Ledger.renameModelGrants old new).after world.ledger :=
  h.calls.ledger_eq fun body _ => Followup.ledger_renameModelGrants h.old h.new _ _ _ body _

theorem Enters.ledger_eq (h : flight.Enters name) (gateway : Gateway σ) (world : World σ) :
    (flight.land gateway world).ledger = (Ledger.createGrant .model name flight.account.username
      Level.manage.name).after world.ledger := by
  refine h.calls.ledger_eq ?_
  intro body hbody
  have hname := h.name
  rw [hbody] at hname
  exact Followup.ledger_grantModel h.user hname _ _ _ _

end Flight

/-- Two requests have been let through and have landed: one that deletes or renames a model, and
after it one that enters the name anew. The creator manages his model, and holds nothing on the
other one, if the older request landed first. If it landed last, he holds nothing on his model; on
the other one he holds nothing if the older model was deleted, and manages it if it was renamed. -/
theorem holds_by_landing (hrun : gateway.Run start events finish) (hstart : start.flights = [])
    (hfinish : finish.flights = []) {first second : Flight}
    (hpassed : events.filterMap Event.passed? = [first, second]) {old new : String}
    (hne : old ≠ new) (hfirst : first.Deletes old ∨ first.Renames old new)
    (hsecond : second.Enters old) (hknows : start.world.ledger.Knows second.account)
    (hold : start.world.ledger.HoldsNone second.account old)
    (hnew : start.world.ledger.HoldsNone second.account new)
    (happart : ¬ start.world.ledger.Shared old new) :
    (events.filterMap Event.landed? = [first, second] ∧
      finish.world.ledger.HoldsManage second.account old ∧
      finish.world.ledger.HoldsNone second.account new) ∨
    (events.filterMap Event.landed? = [second, first] ∧
      finish.world.ledger.HoldsNone second.account old ∧
      (first.Deletes old → finish.world.ledger.HoldsNone second.account new) ∧
      (first.Renames old new → finish.world.ledger.HoldsManage second.account new)) := by
  have hperm := hrun.flights_perm
  rw [hstart, hfinish, hpassed, List.nil_append, List.append_nil] at hperm
  have hledger := hrun.ledger_eq start.world rfl
  -- What was passed on has landed, in one of two orders.
  rcases List.perm_pair.1 hperm.symm with hlanded | hlanded
  · left
    -- The name was given up before it is entered anew.
    refine ⟨hlanded, ?_⟩
    rw [hlanded, List.foldl_cons, List.foldl_cons, List.foldl_nil,
      hsecond.ledger_eq] at hledger
    rcases hfirst with hdeletes | hrenames
    · rw [hledger, hdeletes.ledger_eq]
      exact hknows.dropped_entered hne hnew
    · rw [hledger, hrenames.ledger_eq]
      exact hknows.moved_entered hne hold hnew happart
  · right
    refine ⟨hlanded, ?_⟩
    rw [hlanded, List.foldl_cons, List.foldl_cons, List.foldl_nil] at hledger
    -- The name is entered first, so what is given up under it is the new entry.
    have hdeleted (hdeletes : first.Deletes old) :
        finish.world.ledger.HoldsNone second.account old ∧
          finish.world.ledger.HoldsNone second.account new := by
      rw [hledger, hdeletes.ledger_eq, hsecond.ledger_eq]
      exact hknows.entered_dropped hne hold hnew
    have hrenamed (hrenames : first.Renames old new) :
        finish.world.ledger.HoldsNone second.account old ∧
          finish.world.ledger.HoldsManage second.account new := by
      rw [hledger, hrenames.ledger_eq, hsecond.ledger_eq]
      exact hknows.entered_moved hne hold hnew happart
    exact ⟨hfirst.elim (fun h => (hdeleted h).1) (fun h => (hrenamed h).1),
      fun h => (hdeleted h).2, fun h => (hrenamed h).2⟩

/-- The request of another user to enter a registered model. -/
def creation (name : String) : Http.Request :=
  ⟨.post, ⟨none, "", "/api/2.0/mlflow/registered-models/create", none⟩,
    [("x-remote-user", "bob")], .whole (utf8 ("\x7b\"name\":\"" ++ name ++ "\"\x7d"))⟩

/-- A response that tells the name of a new model. -/
def entry : Bytes := utf8 "\x7b\"registered_model\":\x7b\"name\":\"m\"\x7d\x7d"

theorem accepted_creation : (accepting entry).Accepted (creation "m") (creation "m") keeper
    "/api/2.0/mlflow/registered-models/create" ⟨2, "bob", .password "hidden", false⟩
    .createRegisteredModel .empty ⟨200, [], entry⟩ keeper.remote := by
  have hlisted : (.createRegisteredModel, "/mlflow/registered-models/create", [.post]) ∈
      Route.trackingEndpoints := by simp [Route.trackingEndpoints]
  have hrooted : "/api/2.0" ∈ Route.apiRoots := List.mem_cons_self
  rcases Route.books_routed_below hlisted rfl hrooted with ⟨hfound, hdecoded⟩
  rw [show "/api/2.0" ++ "/mlflow/registered-models/create" =
    "/api/2.0/mlflow/registered-models/create" from rfl] at hfound hdecoded
  refine ⟨rfl, hdecoded, rfl, ?_, ⟨keeper, ?_, rfl⟩, rfl⟩
  · rw [show (creation "m").method = .post from rfl, hfound]
    rfl
  · -- Whoever is known may create a model, so no check stands in the way.
    have hcase : caseOf ⟨2, "bob", .password "hidden", false⟩
        "/api/2.0/mlflow/registered-models/create" (creation "m").method =
        ⟨some ⟨.createRegisteredModel, []⟩, some .grantModel, none⟩ := by
      simp only [caseOf, checkOf?, show (creation "m").method = .post from rfl, hfound]
      rfl
    rw [hcase]
    rfl

/-- The request to delete a model in flight. -/
def deleting : Flight := .ofOperation ⟨1, "ada", .password "secret", false⟩ .deleteRegisteredModel
  ⟨[("name", .string "m")]⟩ ⟨200, [], entry⟩

/-- The request to enter a model in flight. -/
def entering : Flight := .ofOperation ⟨2, "bob", .password "hidden", false⟩ .createRegisteredModel
  .empty ⟨200, [], entry⟩

theorem entry_told : (Json.ofBytes? entry).bind
    (Followup.newId? ["registered_model", "name"]) = some "m" := by
  decide +kernel

theorem deletes_deleting : deleting.Deletes "m" := by
  refine ⟨⟨rfl, rfl, ?_⟩, rfl⟩
  rcases Option.bind_eq_some_iff.1 entry_told with ⟨body, hbody, -⟩
  exact Option.isSome_iff_exists.2 ⟨body, hbody⟩

theorem enters_entering : entering.Enters "m" := by
  refine ⟨⟨rfl, rfl, ?_⟩, rfl, entry_told⟩
  rcases Option.bind_eq_some_iff.1 entry_told with ⟨body, hbody, -⟩
  exact Option.isSome_iff_exists.2 ⟨body, hbody⟩

/-- Two requests are let through, and those behind them go on from there. -/
theorem run_of_landings {events : List Event} {finish : Traffic Memory}
    (h : (accepting entry).Run ⟨keeper, [deleting, entering]⟩ events finish) :
    (accepting entry).Run ⟨keeper, []⟩ (.passed deleting :: .passed entering :: events) finish := by
  have hdeletion := accepted_deletion entry
  have hcreation := accepted_creation
  exact .step (.passed hdeletion (hdeletion.ownPath? rfl))
    (.step (.passed hcreation (hcreation.ownPath? rfl)) h)

theorem knows_keeper : keeper.ledger.Knows entering.account := by
  have hsame : (Ledger.Call.createGrant .model "m" "ada" "MANAGE").after
      ((Ledger.Call.createUser "bob" "hidden" false).after
        ((Ledger.Call.createUser "ada" "secret" false).after Ledger.fresh)) = keeper.ledger := rfl
  refine ⟨?_, rfl⟩
  rw [← hsame]
  exact (Ledger.Call.after_advances (Ledger.Call.after_advances (Ledger.Call.after_advances
    Ledger.sound_fresh _).sound _).sound _).sound

/-- Nobody holds grants on two models. -/
theorem apart_keeper : ¬ keeper.ledger.Shared "m" "n" := by
  rintro ⟨a, -, b, hb, -, hkey, -⟩
  rw [List.mem_singleton.1 hb] at hkey
  exact absurd hkey (by decide)

/-- The model is deleted and entered anew, and the requests land in that order: its creator manages
it. -/
theorem holds_by_landing_in_order :
    let left := entering.land (accepting entry) (deleting.land (accepting entry) keeper)
    (accepting entry).Run ⟨keeper, []⟩
      [.passed deleting, .passed entering, .landed deleting, .landed entering] ⟨left, []⟩ ∧
    deleting.Deletes "m" ∧ entering.Enters "m" ∧ keeper.ledger.Knows entering.account ∧
    keeper.ledger.HoldsNone entering.account "m" ∧ keeper.ledger.HoldsNone entering.account "n" ∧
    ¬ keeper.ledger.Shared "m" "n" ∧
    left.ledger.HoldsManage entering.account "m" ∧ left.ledger.HoldsNone entering.account "n" := by
  intro left
  have hrun : (accepting entry).Run ⟨keeper, []⟩
      [.passed deleting, .passed entering, .landed deleting, .landed entering] ⟨left, []⟩ :=
    run_of_landings (.step (.landed keeper [] deleting [entering])
      (.step (.landed _ [] entering []) (.done _)))
  have hheld := holds_by_landing hrun rfl rfl rfl (show "m" ≠ "n" by decide)
    (.inl deletes_deleting) enters_entering knows_keeper rfl rfl apart_keeper
  refine ⟨hrun, deletes_deleting, enters_entering, knows_keeper, rfl, rfl, apart_keeper, ?_⟩
  rcases hheld with ⟨-, hmanage, hnone⟩ | ⟨hlanded, -⟩
  · exact ⟨hmanage, hnone⟩
  · -- The landings were in the other order.
    have hfollowups := congrArg (List.map Flight.followup) hlanded
    exact nomatch hfollowups

/-- They land in the other order, and the creator of the new model holds no grant on it. -/
theorem holds_by_landing_overtaken :
    let left := deleting.land (accepting entry) (entering.land (accepting entry) keeper)
    (accepting entry).Run ⟨keeper, []⟩
      [.passed deleting, .passed entering, .landed entering, .landed deleting] ⟨left, []⟩ ∧
    deleting.Deletes "m" ∧ entering.Enters "m" ∧ keeper.ledger.Knows entering.account ∧
    keeper.ledger.HoldsNone entering.account "m" ∧ keeper.ledger.HoldsNone entering.account "n" ∧
    ¬ keeper.ledger.Shared "m" "n" ∧ ¬ left.ledger.HoldsManage entering.account "m" := by
  intro left
  have hrun : (accepting entry).Run ⟨keeper, []⟩
      [.passed deleting, .passed entering, .landed entering, .landed deleting] ⟨left, []⟩ :=
    run_of_landings (.step (.landed keeper [deleting] entering [])
      (.step (.landed _ [] deleting []) (.done _)))
  refine ⟨hrun, deletes_deleting, enters_entering, knows_keeper, rfl, rfl, apart_keeper, ?_⟩
  -- The deletion lands last and takes the grant on the new model with it.
  have hnone : left.ledger.HoldsNone entering.account "m" := by
    rw [deletes_deleting.ledger_eq, enters_entering.ledger_eq]
    exact (knows_keeper.entered_dropped (show "m" ≠ "n" by decide) rfl rfl).1
  intro hmanage
  exact nomatch hnone.symm.trans hmanage

end Gateway

end Gatehouse
