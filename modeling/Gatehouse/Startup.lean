import Gatehouse.Gateway
import Gatehouse.Ledger.Address
import Gatehouse.Ledger.Bootstrap
import Gatehouse.Settings
import Gatehouse.Socket
import Gatehouse.Tracker.Forward
import Gatehouse.Tracker.Rest

/-!
# Starting a gateway

A gateway starts when all that its settings name can be used: the address of the tracking
server, the level where no grant is held, the way in which senders show who they are, and
the address to listen on. They are looked at in this order, and the first that cannot be
used is reported.

## Main definitions

* `Refusal`: Why a gateway does not start.
* `Plan`: What a gateway needs to start.
* `Settings.plan`: The plan that settings give.
* `Plan.gateway`: The gateway of a plan.
* `Settings.ledger`: The ledger with its first administrator.

## Theorems

* `Settings.level_of_plan`: The plan has the level of the settings.
-/

namespace Gatehouse

/-- Why a gateway does not start. -/
inductive Refusal where
  | cause (e : Error)
  | address (text : String)
  deriving DecidableEq, Repr

/-- The wording of a refusal. -/
def Refusal.message : Refusal → String
  | cause e => e.message
  | address text => s!"bad listen addr: {text} is none"

/-- What a gateway needs to start. -/
structure Plan where
  site : Site
  level : Level
  scheme : Authn.Scheme
  socket : Socket
  maxBody : Nat

namespace Settings

/-- An outcome of which the error keeps a gateway from starting. -/
def needed {α : Type} (outcome : Except Error α) : Except Refusal α :=
  outcome.mapError Refusal.cause

/-- The plan that settings give, or the first reason against it. -/
def plan (settings : Settings) : Except Refusal Plan := do
  let site ← needed (Site.ofText settings.remote.url)
  let level ← needed settings.level
  let scheme ← needed (Authn.Scheme.ofName settings.auth.scheme)
  match Socket.ofText? settings.address with
  | none => .error (.address settings.address)
  | some socket => .ok ⟨site, level, scheme, socket, settings.server.maxBody.toNat⟩

/-- The ledger at the address of the settings, with the first administrator. -/
def ledger (settings : Settings) : Except Error Ledger := do
  let ledger ← Database.connect settings.database
  let (_, ledger) ← Ledger.createAdmin settings.auth.adminName settings.auth.adminPassword ledger
  .ok ledger

theorem needed_eq_ok_iff {α : Type} {outcome : Except Error α} {a : α} :
    needed outcome = .ok a ↔ outcome = .ok a := by
  cases outcome with
  | error e => constructor <;> intro h <;> cases h
  | ok b => constructor <;> intro h <;> cases h <;> rfl

theorem level_of_plan {settings : Settings} {plan : Plan} (h : settings.plan = .ok plan) :
    settings.level = .ok plan.level := by
  obtain ⟨site, _, h⟩ := Error.bind_eq_ok_iff.1 h
  obtain ⟨level, hl, h⟩ := Error.bind_eq_ok_iff.1 h
  obtain ⟨scheme, _, h⟩ := Error.bind_eq_ok_iff.1 h
  split at h
  · simp at h
  · obtain rfl := Except.ok.inj h
    exact needed_eq_ok_iff.1 hl

end Settings

/-- The gateway of a plan, in front of the tracking server that a transport reaches. -/
def Plan.gateway {σ : Type} (plan : Plan) (transport : Transport σ) : Gateway σ :=
  ⟨Rest.tracker plan.site transport, plan.level, plan.scheme, plan.maxBody,
    Forward.service plan.site transport⟩

end Gatehouse
