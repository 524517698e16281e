import Gatehouse.Gateway
import Gatehouse.Proofs.World

/-!
# Checks

What a check comes to. It looks at the ledger and asks the tracker, and leaves the tables as they
are. A check on a resource that owns itself is decided by the level on the key that the request
names, and asks nobody.

## Main definitions

* `Kind.subject`: What a check on an experiment or on a registered model is decided on.
* `Management.check`: The check of a call.

## Theorems

* `Management.check?_operation`: A call is checked as its operation is.
* `Gateway.untouched_evaluate`: A check leaves the tables as they are.
* `Gateway.exec_evaluate_kind`, `Gateway.of_evaluate_kind`: A check on a resource of a kind.
-/

namespace Gatehouse

open Gatehouse.Action World

variable {σ : Type}

/-- What a check on a resource of a kind is decided on. -/
def Kind.subject : Kind → Subject
  | experiment => .experimentId
  | model => .modelName

/-- The check of a call. -/
def Management.check : Management → Check
  | createUser | updateAdmin | deleteUser => .admin
  | getUser | updatePassword => .sender
  | createGrant kind | getGrant kind | updateGrant kind | deleteGrant kind =>
    .capability kind.subject .manage

theorem Management.check?_operation (call : Management) :
    call.operation.check? = some call.check := by
  cases call with
  | createGrant kind => cases kind <;> rfl
  | getGrant kind => cases kind <;> rfl
  | updateGrant kind => cases kind <;> rfl
  | deleteGrant kind => cases kind <;> rfl
  | _ => rfl

/-- The level on what a request is about is that on its owner. -/
theorem Subject.exec_level {tracker : Tracker σ} {subject : Subject} {params : Params}
    {world : World σ} {owner : Option Owner} {remote : σ}
    (h : exec (subject.owner tracker params) world.remote = (.ok owner, remote))
    (default : Level) (username : String) :
    exec (subject.level tracker default params username) world =
      (world.ledger.levelOn default owner username, ⟨world.ledger, remote⟩) := by
  have howner : exec (onRemote (subject.owner tracker params)) world =
      (.ok owner, ⟨world.ledger, remote⟩) := by
    rw [exec_onRemote, h]
  rw [level, exec_bind_ok howner]
  rfl

namespace Gateway

variable (gateway : Gateway σ) (account : Account) (world : World σ)

theorem untouched_evaluate (params : Params) (check : Check) :
    Untouched (gateway.evaluate account params check) := by
  cases check with
  | admin => exact .pure _
  | sender => exact .bind (.of _) fun _ => .pure _
  | capability subject capability =>
      exact .bind (.bind (.onRemote _) fun _ => .readLedger _) fun _ => .pure _

/-- A check on a resource of a kind looks for the level on the key that the request names. -/
theorem exec_evaluate_kind {kind : Kind} {params : Params} {key : String}
    (hkey : params.get kind.keyName = .ok key) (capability : Capability) :
    exec (gateway.evaluate account params (.capability kind.subject capability)) world =
      ((world.ledger.levelOn gateway.default (some ⟨kind, key⟩) account.username).map
        (·.allows capability), world) := by
  have howner : exec (kind.subject.owner gateway.tracker params) world.remote =
      (.ok (some ⟨kind, key⟩), world.remote) := by
    cases kind with
    | experiment =>
        rw [Kind.subject, Subject.owner]
        exact exec_bind_of_ok hkey _ _
    | model =>
        rw [Kind.subject, Subject.owner]
        exact exec_bind_of_ok hkey _ _
  rw [evaluate, exec_bind_pure, Subject.exec_level howner]

/-- Where such a check holds the request names a key, and the level on it allows what is asked
for. -/
theorem of_evaluate_kind {kind : Kind} {params : Params} {capability : Capability}
    (h : (exec (gateway.evaluate account params (.capability kind.subject capability)) world).1 =
      .ok true) : ∃ key level, params.get kind.keyName = .ok key ∧
        world.ledger.levelOn gateway.default (some ⟨kind, key⟩) account.username = .ok level ∧
        level.allows capability = true := by
  cases hkey : params.get kind.keyName with
  | error e =>
      -- A request that does not name a key fails its check.
      have howner : exec (kind.subject.owner gateway.tracker params) world.remote =
          (.error e, world.remote) := by
        cases kind with
        | experiment =>
            rw [Kind.subject, Subject.owner]
            exact exec_bind_of_error hkey _ _
        | model =>
            rw [Kind.subject, Subject.owner]
            exact exec_bind_of_error hkey _ _
      have hremote : exec (onRemote (kind.subject.owner gateway.tracker params)) world =
          (.error e, ⟨world.ledger, world.remote⟩) := by
        rw [exec_onRemote, howner]
      rw [evaluate, exec_bind_pure, Subject.level, exec_bind_error hremote] at h
      exact nomatch h
  | ok key =>
      rw [exec_evaluate_kind gateway account world hkey] at h
      cases hlevel : world.ledger.levelOn gateway.default (some ⟨kind, key⟩) account.username with
      | error e =>
          rw [hlevel] at h
          exact nomatch h
      | ok level =>
          rw [hlevel] at h
          exact ⟨key, level, rfl, hlevel, Except.ok.inj h⟩

end Gateway

end Gatehouse
