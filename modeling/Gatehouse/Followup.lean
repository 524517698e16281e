import Gatehouse.Narrowing
import Gatehouse.Operation
import Gatehouse.World

/-!
# Follow-ups

What the gateway does after a request has succeeded: the creator of a resource is granted
the level to manage it, grants follow the deletion and the renaming of registered models,
and search results are narrowed to what the caller may read. Creators and readers who are
administrators need neither grants nor narrowing.

## Main definitions

* `Followup.Outcome`: What a follow-up does with the response.
* `Followup.newId?`: The id of a new resource in a response.
* `Followup.run`: The follow-up of a response.
-/

namespace Gatehouse

namespace Followup

/-- What a follow-up does with the body of a response. -/
inductive Outcome where
  | unchanged
  | replaced (body : Json)

/-- The id that a value is: a text that is not empty, or a number. -/
def idText? : Json → Option String
  | .string s => if s.isEmpty then none else some s
  | .number n => some n.text
  | _ => none

/-- The id of a new resource in a response. -/
def newId? (path : List String) (body : Json) : Option String :=
  (body.at? path).bind idText?

/-- The readability of resources of a kind for a user. -/
def readability (default : Level) (kind : Kind) (username : String) (ledger : Ledger) :
    Except Error Readability :=
  (ledger.grantsOf kind username).map fun grants =>
    .ofGrants (grants.map fun held => (held.key, held.level)) default

/-- Grants the level to manage a new resource to its creator, unless he is an
administrator. -/
def grantCreator {σ : Type} (kind : Kind) (path : List String) (missing : Fault)
    (account : Account) (body : Json) : Action (World σ) Outcome := do
  if account.admin then pure .unchanged
  else
    match newId? path body with
    | none => throw (.fault missing)
    | some id =>
      let _ ← World.onLedger
        (Ledger.createGrant kind id account.username Level.manage.name)
      pure .unchanged

/-- The narrowed body of a search, unless the caller is an administrator. -/
def narrowFor {σ : Type} (default : Level) (kind : Kind) (account : Account)
    (narrow : Readability → Action σ Json) : Action (World σ) Outcome := do
  if account.admin then pure .unchanged
  else
    let readable ← World.readLedger (readability default kind account.username)
    let body ← World.onRemote (narrow readable)
    pure (.replaced body)

/-- The follow-up of a response with a body. -/
def run {σ : Type} (tracker : Tracker σ) (default : Level) (followup : Followup)
    (account : Account) (params : Params) (body : Json) : Action (World σ) Outcome :=
  match followup with
  | .grantExperiment =>
    grantCreator .experiment ["experiment_id"] .noExperimentId account body
  | .grantModel => grantCreator .model ["registered_model", "name"] .noModelName account body
  | .dropModelGrants => do
    let name ← Action.of (params.get "name")
    let _ ← World.onLedger (Ledger.dropModelGrants name)
    pure .unchanged
  | .renameModelGrants => do
    let name ← Action.of (params.get "name")
    let new ← Action.of (params.get "new_name")
    let _ ← World.onLedger (Ledger.renameModelGrants name new)
    pure .unchanged
  | .narrowExperiments =>
    narrowFor default .experiment account fun readable => do
      let query ← Action.of (ExperimentQuery.ofParams params)
      Narrowing.experiments tracker readable query body
  | .narrowLoggedModels =>
    narrowFor default .experiment account fun readable => do
      let query ← Action.of (LoggedModelQuery.ofParams params)
      Narrowing.loggedModels tracker readable query body
  | .narrowModels =>
    narrowFor default .model account fun readable => do
      let query ← Action.of (ModelQuery.ofParams params)
      Narrowing.models tracker readable query body

end Followup

end Gatehouse
