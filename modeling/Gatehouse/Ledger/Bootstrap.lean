import Gatehouse.Ledger.Accounts

/-!
# Bootstrap of the administrator

Several processes may start at once on the same ledger, and each makes sure that the
administrator exists. Each looks first and enters the account then; between the two the
others may have moved.

## Main definitions

* `Bootstrap`: How far a process has come.
* `Bootstrap.step`: The next move of a process.
* `Bootstrap.run`: The moves of several processes in a given order.
-/

namespace Gatehouse

/-- How far a process has come: it has not looked yet, it has found no account, or it is
done. -/
inductive Bootstrap where
  | start (password : String)
  | unseen (password : String)
  | done (outcome : Except Error Unit)

namespace Bootstrap

/-- The next move of a process. -/
def step (username : String) (ledger : Ledger) : Bootstrap → Bootstrap × Ledger
  | start password =>
    match ledger.hasUser username with
    | .ok true => (done (.ok ()), ledger)
    | .ok false => (unseen password, ledger)
    | .error e => (done (.error e), ledger)
  | unseen password =>
    -- Another process may have entered the user in the meantime.
    match Ledger.enterAdmin username password ledger with
    | .ok (_, ledger) => (done (.ok ()), ledger)
    | .error e => (done (.error e), ledger)
  | done outcome => (done outcome, ledger)

/-- The moves of several processes, the process of each move given by its place. -/
def run (username : String) : List Nat → List Bootstrap → Ledger → List Bootstrap × Ledger
  | [], processes, ledger => (processes, ledger)
  | i :: schedule, processes, ledger =>
    match processes[i]? with
    | none => run username schedule processes ledger
    | some process =>
      let (process, ledger) := step username ledger process
      run username schedule (processes.set i process) ledger

end Bootstrap

end Gatehouse
