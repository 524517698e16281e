import Gatehouse.Followup
import Gatehouse.Proofs.Action
import Gatehouse.Proofs.Ledger.Statement

/-!
# Steps in the world of a request

What each kind of step comes to: a statement leaves its ledger, a look at the ledger and a step
behind the gateway leave the ledger as it was. A follow-up comes to at most one statement.

## Main definitions

* `World.Untouched`: A step that leaves the ledger as it was.
* `Followup.Effect`: What a follow-up may do to the ledger.

## Theorems

* `World.exec_onLedger`, `World.exec_readLedger`, `World.exec_onRemote`: The kinds of steps.
* `Followup.run_effect`: What a follow-up does to the ledger.
-/

namespace Gatehouse

open Gatehouse.Action

namespace World

variable {σ α β : Type}

theorem exec_onLedger (statement : Statement α) (world : World σ) :
    exec (onLedger statement) world = match statement world.ledger with
      | .ok (a, ledger) => (.ok a, { world with ledger := ledger })
      | .error e => (.error e, world) := by
  change exec ((match statement world.ledger with
    | .ok (a, ledger) => do
      set { world with ledger := ledger }
      pure a
    | .error e => throw e) : Action (World σ) α) world = _
  cases statement world.ledger <;> rfl

theorem ledger_onLedger (statement : Statement α) (world : World σ) :
    (exec (onLedger statement) world).2.ledger = statement.after world.ledger := by
  rw [exec_onLedger, Statement.after]
  cases statement world.ledger <;> rfl

/-- A statement whose outcome is told in another way. -/
theorem exec_onLedger_map (f : α → β) (statement : Statement α) (world : World σ) :
    exec (onLedger (f <$> statement)) world =
      ((exec (onLedger statement) world).1.map f, (exec (onLedger statement) world).2) := by
  rw [exec_onLedger, exec_onLedger, Statement.map_eq]
  cases statement world.ledger <;> rfl

theorem exec_onLedger_look (f : Ledger → Except Error α) (world : World σ) :
    exec (onLedger (Statement.look f)) world = (f world.ledger, world) := by
  rw [exec_onLedger, Statement.look]
  cases f world.ledger <;> rfl

theorem exec_readLedger (f : Ledger → Except Error α) (world : World σ) :
    exec (readLedger f) world = (f world.ledger, world) := rfl

theorem exec_onRemote (action : Action σ α) (world : World σ) :
    exec (onRemote action) world =
      ((exec action world.remote).1, ⟨world.ledger, (exec action world.remote).2⟩) := rfl

/-- A step that leaves the ledger as it was. -/
def Untouched (action : Action (World σ) α) : Prop :=
  ∀ world, (exec action world).2.ledger = world.ledger

namespace Untouched

theorem of (outcome : Except Error α) : Untouched (Action.of outcome : Action (World σ) α) :=
  fun _ => rfl

theorem pure (a : α) : Untouched (Pure.pure a : Action (World σ) α) := fun _ => rfl

theorem throw (e : Error) : Untouched (MonadExcept.throw e : Action (World σ) α) := fun _ => rfl

theorem readLedger (f : Ledger → Except Error α) :
    Untouched (World.readLedger f : Action (World σ) α) := fun _ => rfl

theorem onRemote (action : Action σ α) : Untouched (World.onRemote action) := fun _ => rfl

theorem bind {x : Action (World σ) α} {f : α → Action (World σ) β} (hx : Untouched x)
    (hf : ∀ a, Untouched (f a)) : Untouched (x >>= f) := by
  intro world
  have hfirst := hx world
  -- If the first step fails there is no second one.
  rcases h : exec x world with ⟨e | a, s⟩
  · rw [h] at hfirst
    rw [exec_bind_error h]
    exact hfirst
  · rw [h] at hfirst
    rw [exec_bind_ok h, hf a s]
    exact hfirst

end Untouched

end World

namespace Followup

open World

variable {σ : Type}

/-- What a follow-up on behalf of a caller may do to the ledger. -/
inductive Effect (account : Account) (ledger : Ledger) : Ledger → Prop
  | none : Effect account ledger ledger
  | granted (kind : Kind) (key : String) : Effect account ledger
      ((Ledger.createGrant kind key account.username Level.manage.name).after ledger)
  | dropped (name : String) : Effect account ledger ((Ledger.dropModelGrants name).after ledger)
  | renamed (old new : String) : Effect account ledger
      ((Ledger.renameModelGrants old new).after ledger)

theorem Effect.of_eq {account : Account} {ledger after other : Ledger}
    (h : Effect account ledger other) (heq : after = other) : Effect account ledger after :=
  heq ▸ h

theorem untouched_narrowFor (default : Level) (kind : Kind) (account : Account)
    (narrow : Readability → Action σ Json) : Untouched (narrowFor default kind account narrow) := by
  unfold narrowFor
  split
  · exact .pure _
  · exact .bind (.readLedger _) fun _ => .bind (.onRemote _) fun _ => .pure _

theorem grantCreator_effect (kind : Kind) (path : List String) (missing : Fault)
    (account : Account) (body : Json) (world : World σ) : Effect account world.ledger
      (exec (grantCreator kind path missing account body) world).2.ledger := by
  unfold grantCreator
  split
  · exact .none
  · split
    · exact .none
    · next id hid =>
      refine (Effect.granted kind id).of_eq ?_
      rw [← ledger_onLedger, exec_bind_pure]

/-- A follow-up does to the ledger what one statement does, or nothing. -/
theorem run_effect (tracker : Tracker σ) (default : Level) (followup : Followup)
    (account : Account) (params : Params) (body : Json) (world : World σ) :
    Effect account world.ledger
      (exec (followup.run tracker default account params body) world).2.ledger := by
  -- A listing that is narrowed asks the tracker, and leaves the tables.
  have huntouched {action : Action (World σ) Outcome} (h : Untouched action) :
      Effect account world.ledger (exec action world).2.ledger :=
    Effect.none.of_eq (h world)
  cases followup with
  | grantExperiment => exact grantCreator_effect _ _ _ _ _ _
  | grantModel => exact grantCreator_effect _ _ _ _ _ _
  | dropModelGrants =>
      cases hname : params.get "name" with
      | error e =>
          rw [run, exec_bind_of_error hname]
          exact .none
      | ok name =>
          refine (Effect.dropped name).of_eq ?_
          rw [run, exec_bind_of_ok hname, ← ledger_onLedger, exec_bind_pure]
  | renameModelGrants =>
      cases hname : params.get "name" with
      | error e =>
          rw [run, exec_bind_of_error hname]
          exact .none
      | ok name =>
          cases hnew : params.get "new_name" with
          | error e =>
              rw [run, exec_bind_of_ok hname, exec_bind_of_error hnew]
              exact .none
          | ok new =>
              refine (Effect.renamed name new).of_eq ?_
              rw [run, exec_bind_of_ok hname, exec_bind_of_ok hnew, ← ledger_onLedger,
                exec_bind_pure]
  | narrowExperiments => exact huntouched (untouched_narrowFor _ _ _ _)
  | narrowLoggedModels => exact huntouched (untouched_narrowFor _ _ _ _)
  | narrowModels => exact huntouched (untouched_narrowFor _ _ _ _)

end Followup

end Gatehouse
