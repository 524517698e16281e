import Gatehouse.Ledger.Accounts
import Gatehouse.Tracker

/-!
# The world of a request

A request acts on two things: the ledger, and whatever lies behind the gateway. A
statement on the ledger is all or nothing, but what a request has done before a later step
fails stands.

## Main definitions

* `World`: The ledger, and the state of what lies behind.
* `World.onLedger`, `World.onRemote`: Steps on one of the two.
-/

namespace Gatehouse

/-- The ledger, and the state of what lies behind the gateway. -/
structure World (σ : Type) where
  ledger : Ledger
  remote : σ

namespace World

/-- A statement as a step; a failed one leaves the ledger as it was. -/
def onLedger {σ α : Type} (statement : Statement α) : Action (World σ) α := do
  let world ← get
  match statement world.ledger with
  | .ok (a, ledger) =>
    set { world with ledger := ledger }
    pure a
  | .error e => throw e

/-- A look at the ledger as a step. -/
def readLedger {σ α : Type} (f : Ledger → Except Error α) : Action (World σ) α := do
  Action.of (f (← get).ledger)

/-- A step behind the gateway. -/
def onRemote {σ α : Type} (action : Action σ α) : Action (World σ) α := do
  let world ← get
  let (outcome, remote) := action.run.run world.remote
  set { world with remote := remote }
  Action.of outcome

end World

end Gatehouse
