import Gatehouse.Operation
import Gatehouse.World

/-!
# Owners

The resource whose grants decide a check. An experiment and a registered model own
themselves; runs and logged models belong to an experiment, which the tracking server has
to be asked for. What no resource owns is decided by the default level, and so is a
resource on which the caller holds no grant. Every other failure is a failure of the
check.

## Main definitions

* `Owner`: An experiment or a registered model.
* `Subject.owner`: The owner of what a request is about.
* `Ledger.levelOn`: The level of a user on an owner, or the default.
* `Subject.level`: The level of a user on what a request is about.
-/

namespace Gatehouse

/-- A resource on which grants are held. -/
structure Owner where
  kind : Kind
  key : String
  deriving DecidableEq, Repr

/-- The owner of what a request is about, if it has one. -/
def Subject.owner {σ : Type} (tracker : Tracker σ) (subject : Subject) (params : Params) :
    Action σ (Option Owner) :=
  match subject with
  | .experimentId => do
    let id ← Action.of (params.get "experiment_id")
    pure (some ⟨.experiment, id⟩)
  | .experimentName => do
    let name ← Action.of (params.get "experiment_name")
    -- A name that no experiment has is an error, not a case for the default.
    match ← tracker.experimentNamed name with
    | some id => pure (some ⟨.experiment, id⟩)
    | none => throw (.absent (.experimentNamed name))
  | .runId => do
    let run ← Action.of (params.get "run_id")
    let id ← tracker.runExperiment run
    pure (some ⟨.experiment, id⟩)
  | .loggedModelId => do
    let model ← Action.of (params.get "model_id")
    let id ← tracker.loggedModelExperiment model
    pure (some ⟨.experiment, id⟩)
  | .modelName => do
    let name ← Action.of (params.get "name")
    pure (some ⟨.model, name⟩)
  | .artifact experiment => pure (experiment.map (⟨.experiment, ·⟩))

/-- The level of a user on an owner: that of his grant, or the default when he holds none
or there is no owner. -/
def Ledger.levelOn (default : Level) (owner : Option Owner) (username : String)
    (ledger : Ledger) : Except Error Level :=
  match owner with
  | none => .ok default
  | some owner =>
    match ledger.grant owner.kind owner.key username with
    | .ok held => .ok held.level
    | .error e => if e.isNotFound then .ok default else .error e

/-- The level of a user on what a request is about. -/
def Subject.level {σ : Type} (tracker : Tracker σ) (default : Level) (subject : Subject)
    (params : Params) (username : String) : Action (World σ) Level := do
  let owner ← World.onRemote (subject.owner tracker params)
  World.readLedger (Ledger.levelOn default owner username)

end Gatehouse
