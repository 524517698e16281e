import Gatehouse.Ledger.Bootstrap
import Gatehouse.Proofs.Ledger.History

/-!
# One administrator, however many processes

Processes that start at once on one ledger all make sure that the administrator exists. A look and
an entry are two statements, so any number of them may find no account before the first one enters
it; the others then find the name taken, which is no failure. Whatever order they move in, a
process that is done has succeeded, each is done after two moves of its own, and in the end there
is one account of the name.

Who is first is told by the order of the entries, not by that of the looks. While there is no
account, a process that moves either looks and finds none or makes the first entry; from there on
every move only finds the account. So a run is followed in two parts, and the entry between them
is the only change to the ledger.

## Main definitions

* `Bootstrap.left`: How many moves a process has left.
* `Bootstrap.Underway`: How far a process may have come that has not failed.
* `Bootstrap.inserts`: The processes that enter the account, in the order of their entries.
* `Bootstrap.Provides`: What is left when all processes are done.

## Theorems

* `Bootstrap.run_alone`: One process by itself makes sure that the administrator exists.
* `Bootstrap.left_run`: Every move brings a process on.
* `Bootstrap.step_known`, `Bootstrap.step_unknown`: One move, with and without an account.
* `Bootstrap.run_known`, `Bootstrap.run_unknown`: Any moves, with and without an account.
* `Bootstrap.provides_known`, `Bootstrap.provides_entered`: The two ends of a run.
* `Bootstrap.run_provides`: What the processes come to in any order.
-/

namespace Gatehouse

open Ledger

namespace Bootstrap

section Moves

variable (username : String)

/-- How many moves a process has left. -/
def left : Bootstrap → Nat
  | start _ => 2
  | unseen _ => 1
  | done _ => 0

/-- How far a process with this password may have come if it has not failed. -/
inductive Underway (password : String) : Bootstrap → Prop
  | start : Underway password (.start password)
  | unseen : Underway password (.unseen password)
  | done : Underway password (.done (.ok ()))

/-- The processes are those with these passwords, and none of them has failed. -/
def AllUnderway (passwords : List String) (processes : List Bootstrap) : Prop :=
  ∀ (i : Nat) (process : Bootstrap), processes[i]? = some process →
    ∃ password, passwords[i]? = some password ∧ Underway password process

/-- The places of the processes that enter the account, in the order of their entries, whether or
not the name is still free then. -/
def inserts : List Nat → List Bootstrap → Ledger → List Nat
  | [], _, _ => []
  | i :: schedule, processes, ledger =>
    match processes[i]? with
    | none => inserts schedule processes ledger
    | some process =>
      let (next, after) := step username ledger process
      let later := inserts schedule (processes.set i next) after
      match process with
      | unseen _ => i :: later
      | _ => later

/-- What is left when all processes are done, from a ledger with these accounts. -/
structure Provides (passwords : List String) (entries : List Nat) (accounts : Table Account)
    (before after : Ledger) : Prop where
  /-- Exactly one account has the name. -/
  sole : ∃ table account, after.accounts = some table ∧
    table.rows.filter (·.username = username) = [account]
  /-- If there was one before, nothing has changed. -/
  kept : ∀ account ∈ accounts.rows, account.username = username → after = before
  /-- If there was none, it is that of an administrator with the password of the process that was
  the first to enter it, and nothing else has changed. -/
  entered : (∀ account ∈ accounts.rows, account.username ≠ username) →
    ∃ i password, entries.head? = some i ∧ passwords[i]? = some password ∧
      after = before.withAccounts (accounts.add (⟨·, username, .password password, true⟩))

variable {username}

theorem run_cons_some {i : Nat} {processes : List Bootstrap} {process : Bootstrap}
    (h : processes[i]? = some process) (schedule : List Nat) (ledger : Ledger) :
    run username (i :: schedule) processes ledger =
      run username schedule (processes.set i (step username ledger process).1)
        (step username ledger process).2 := by
  rw [run, h]

theorem run_cons_none {i : Nat} {processes : List Bootstrap} (h : processes[i]? = none)
    (schedule : List Nat) (ledger : Ledger) :
    run username (i :: schedule) processes ledger = run username schedule processes ledger := by
  rw [run, h]

/-- One process by itself makes sure that the administrator exists. -/
theorem run_alone (username password : String) (ledger : Ledger) :
    run username [0, 0] [start password] ledger =
      match createAdmin username password ledger with
      | .ok (_, after) => ([done (.ok ())], after)
      | .error e => ([done (.error e)], ledger) := by
  rw [createAdmin_eq, run_cons_some rfl]
  -- The first move looks for the account, and the second one enters it if none was seen.
  cases hknown : ledger.hasUser username with
  | error e =>
      simp only [step, hknown]
      rfl
  | ok known =>
      cases known with
      | true =>
          simp only [step, hknown]
          rfl
      | false =>
          simp only [step, hknown]
          rw [List.set_cons_zero, run_cons_some rfl, step]
          rcases hentered : enterAdmin username password ledger with e | ⟨_, after⟩
          · simp only [bind, Except.bind]
            rfl
          · simp only [bind, Except.bind]
            rfl

/-- A move leaves a process fewer moves, or none. -/
theorem left_step (username : String) (ledger : Ledger) (process : Bootstrap) :
    (step username ledger process).1.left ≤ process.left - 1 := by
  -- A process that looks has one more move to make if it sees no account.
  cases process with
  | start password =>
      rw [step]
      split
      · exact Nat.zero_le _
      · exact Nat.le_refl _
      · exact Nat.zero_le _
  | unseen password =>
      rw [step]
      split
      · exact Nat.le_refl _
      · exact Nat.le_refl _
  | done outcome => exact Nat.le_refl _

/-- Every move of its own brings a process on, whatever the others do. -/
theorem left_run (schedule : List Nat) {processes : List Bootstrap} {ledger : Ledger} {i : Nat}
    {process : Bootstrap} (h : (run username schedule processes ledger).1[i]? = some process) :
    ∃ first, processes[i]? = some first ∧ process.left ≤ first.left - schedule.count i := by
  induction schedule generalizing processes ledger with
  | nil => exact ⟨process, h, Nat.le_refl _⟩
  | cons j schedule ih =>
      cases hmoved : processes[j]? with
      | none =>
          -- Nobody moves, and nobody counts at that place.
          rw [run_cons_none hmoved] at h
          rcases ih h with ⟨first, hfirst, hle⟩
          refine ⟨first, hfirst, ?_⟩
          have hne : j ≠ i := by
            rintro rfl
            rw [hmoved] at hfirst
            exact nomatch hfirst
          rw [List.count_cons_of_ne hne]
          exact hle
      | some moved =>
          rw [run_cons_some hmoved] at h
          rcases ih h with ⟨first, hfirst, hle⟩
          rw [List.getElem?_set] at hfirst
          by_cases hij : j = i
          · subst hij
            have hlength : j < processes.length := (List.getElem?_eq_some_iff.1 hmoved).1
            rw [if_pos rfl, if_pos hlength] at hfirst
            obtain rfl := Option.some.inj hfirst
            have hstep := left_step username ledger moved
            refine ⟨moved, hmoved, ?_⟩
            rw [List.count_cons_self]
            omega
          · rw [if_neg hij] at hfirst
            refine ⟨first, hfirst, ?_⟩
            rw [List.count_cons_of_ne hij]
            exact hle

theorem length_run (username : String) (schedule : List Nat) (processes : List Bootstrap)
    (ledger : Ledger) :
    (run username schedule processes ledger).1.length = processes.length := by
  induction schedule generalizing processes ledger with
  | nil => rfl
  | cons i schedule ih =>
      cases h : processes[i]? with
      | none => rw [run_cons_none h, ih]
      | some process => rw [run_cons_some h, ih, List.length_set]

end Moves

section Runs

variable {username password : String} {passwords : List String} {processes : List Bootstrap}
  {ledger : Ledger} {accounts : Table Account}

/-- A move within bounds keeps the others within them. -/
theorem AllUnderway.set (h : AllUnderway passwords processes) {i : Nat} {next : Bootstrap}
    (hpassword : passwords[i]? = some password) (hnext : Underway password next) :
    AllUnderway passwords (processes.set i next) := by
  intro j process hprocess
  rw [List.getElem?_set] at hprocess
  by_cases hij : i = j
  · subst hij
    rw [if_pos rfl] at hprocess
    split at hprocess
    · obtain rfl := Option.some.inj hprocess
      exact ⟨password, hpassword, hnext⟩
    · exact nomatch hprocess
  · rw [if_neg hij] at hprocess
    exact h j process hprocess

/-- A move where the account is known: the process is done, and nothing changes. -/
theorem step_known (hname : username ≠ "") (hpassword : password ≠ "")
    (haccounts : ledger.accounts = some accounts)
    (hknown : accounts.rows.any (·.username = username) = true) {process : Bootstrap}
    (h : Underway password process) :
    step username ledger process = (done (.ok ()), ledger) := by
  have hhas := hasUser_eq haccounts username
  rw [hknown] at hhas
  cases h with
  | start => simp only [step, hhas]
  | unseen =>
      -- The name has been taken since the process looked.
      have htable : ledger.accountTable = .ok accounts := accountTable_eq_ok_iff.2 haccounts
      have hcreate : createUser username password true ledger =
          .error (.conflict (.account username)) := by
        rw [createUser_eq, htable]
        simp only [bind, Except.bind, hknown, String.isEmpty_eq_false_iff.2 hname,
          String.isEmpty_eq_false_iff.2 hpassword, Bool.or_self, Bool.false_eq_true, if_false,
          if_true]
      simp only [step, enterAdmin, hcreate]
  | done => rfl

/-- A move where there is no account: a process that looks finds none, and one that has looked
enters it. -/
theorem step_unknown (hname : username ≠ "") (hpassword : password ≠ "")
    (haccounts : ledger.accounts = some accounts)
    (hunknown : accounts.rows.any (·.username = username) = false) :
    step username ledger (start password) = (unseen password, ledger) ∧
      step username ledger (unseen password) = (done (.ok ()),
        ledger.withAccounts (accounts.add (⟨·, username, .password password, true⟩))) := by
  have hhas := hasUser_eq haccounts username
  rw [hunknown] at hhas
  have htable : ledger.accountTable = .ok accounts := accountTable_eq_ok_iff.2 haccounts
  -- The name is free and nothing is empty, so the entry succeeds.
  have hcreate : createUser username password true ledger =
      .ok (⟨accounts.issued + 1, username, .password password, true⟩,
        ledger.withAccounts (accounts.add (⟨·, username, .password password, true⟩))) := by
    rw [createUser_eq, htable]
    simp only [bind, Except.bind, hunknown, String.isEmpty_eq_false_iff.2 hname,
      String.isEmpty_eq_false_iff.2 hpassword, Bool.or_self, Bool.false_eq_true, if_false]
  refine ⟨?_, ?_⟩
  · simp only [step, hhas]
  · simp only [step, enterAdmin, hcreate]

/-- Where the account is known, no order of moves changes anything or fails. -/
theorem run_known (hname : username ≠ "") (hpasswords : ∀ password ∈ passwords, password ≠ "")
    (haccounts : ledger.accounts = some accounts)
    (hknown : accounts.rows.any (·.username = username) = true) (schedule : List Nat)
    (h : AllUnderway passwords processes) :
    (run username schedule processes ledger).2 = ledger ∧
      AllUnderway passwords (run username schedule processes ledger).1 := by
  induction schedule generalizing processes with
  | nil => exact ⟨rfl, h⟩
  | cons i schedule ih =>
      cases hmoved : processes[i]? with
      | none =>
          rw [run_cons_none hmoved]
          exact ih h
      | some process =>
          -- Whichever process moves, it is done with that and changes nothing.
          rcases h i process hmoved with ⟨password, hpassword, hunderway⟩
          rw [run_cons_some hmoved, step_known hname
            (hpasswords password (List.mem_of_getElem? hpassword)) haccounts hknown hunderway]
          exact ih (h.set hpassword .done)

/-- Where there is no account and no process is done, either nobody has entered it in the end, and
then still nobody is done, or the first who did has made the only change. -/
theorem run_unknown (hname : username ≠ "") (hpasswords : ∀ password ∈ passwords, password ≠ "")
    (haccounts : ledger.accounts = some accounts)
    (hunknown : accounts.rows.any (·.username = username) = false) (schedule : List Nat)
    (h : AllUnderway passwords processes) (hopen : ∀ process ∈ processes, process.left ≠ 0) :
    AllUnderway passwords (run username schedule processes ledger).1 ∧
      ((∀ process ∈ (run username schedule processes ledger).1, process.left ≠ 0) ∨
        ∃ i password, (inserts username schedule processes ledger).head? = some i ∧
          passwords[i]? = some password ∧ (run username schedule processes ledger).2 =
            ledger.withAccounts (accounts.add (⟨·, username, .password password, true⟩))) := by
  induction schedule generalizing processes with
  | nil => exact ⟨h, .inl hopen⟩
  | cons i schedule ih =>
      cases hmoved : processes[i]? with
      | none =>
          rw [run_cons_none hmoved, inserts, hmoved]
          exact ih h hopen
      | some process =>
          rcases h i process hmoved with ⟨password, hpassword, hunderway⟩
          have hfilled := hpasswords password (List.mem_of_getElem? hpassword)
          rcases step_unknown hname hfilled haccounts hunknown with ⟨hlooks, henters⟩
          cases hunderway with
          | start =>
              -- The look finds no account, and the rest of the moves goes on from there.
              rw [run_cons_some hmoved, inserts, hmoved]
              simp only [hlooks]
              refine ih (h.set hpassword .unseen) ?_
              intro process hprocess
              rcases List.mem_or_eq_of_mem_set hprocess with hin | rfl
              · exact hopen process hin
              · exact Nat.one_ne_zero
          | unseen =>
              -- This is the first entry, and after it the account is known.
              rw [run_cons_some hmoved, inserts, hmoved]
              simp only [henters]
              have hentered : (accounts.add
                  (⟨·, username, .password password, true⟩)).rows.any (·.username = username) =
                    true := by
                rw [Table.add, List.any_append, List.any_cons]
                simp only [decide_true, Bool.true_or, Bool.or_true]
              rcases run_known hname hpasswords (accounts_withAccounts ledger _) hentered schedule
                (h.set hpassword .done) with ⟨hsame, hall⟩
              exact ⟨hall, .inr ⟨i, password, rfl, hpassword, hsame⟩⟩
          | done => exact absurd rfl (hopen _ (List.mem_of_getElem? hmoved))

theorem allUnderway_start (passwords : List String) :
    AllUnderway passwords (passwords.map start) := by
  intro i process hprocess
  rw [List.getElem?_map] at hprocess
  rcases Option.map_eq_some_iff.1 hprocess with ⟨password, hpassword, rfl⟩
  exact ⟨password, hpassword, .start⟩

/-- A process that has not failed and has no moves left has succeeded. -/
theorem Underway.eq_done {process : Bootstrap} (h : Underway password process)
    (hleft : process.left = 0) : process = .done (.ok ()) := by
  cases h with
  | start => exact nomatch hleft
  | unseen => exact nomatch hleft
  | done => rfl

/-- Of rows with different names only one has a given one. -/
theorem filter_named {rows : List Account}
    (hdistinct : rows.Pairwise fun a b => a.username ≠ b.username) {account : Account}
    (hmem : account ∈ rows) : rows.filter (·.username = account.username) = [account] := by
  induction rows with
  | nil => exact nomatch hmem
  | cons row rest ih =>
      rcases List.pairwise_cons.1 hdistinct with ⟨hfirst, hrest⟩
      rcases List.mem_cons.1 hmem with rfl | hin
      · have hnone : rest.filter (·.username = account.username) = [] := by
          rw [List.filter_eq_nil_iff]
          intro other hother
          rw [decide_eq_true_eq]
          exact (hfirst other hother).symm
        rw [List.filter_cons, if_pos (decide_eq_true rfl), hnone]
      · -- The row in front has another name.
        rw [List.filter_cons_of_neg, ih hrest hin]
        rw [decide_eq_true_eq]
        exact hfirst account hin

/-- An account that was there before is the only one of its name. -/
theorem provides_known (haccounts : ledger.accounts = some accounts)
    (hdistinct : accounts.rows.Pairwise fun a b => a.username ≠ b.username)
    (hknown : accounts.rows.any (·.username = username) = true) (entries : List Nat) :
    Provides username passwords entries accounts ledger ledger := by
  rcases List.any_eq_true.1 hknown with ⟨account, hmem, hnamed⟩
  obtain rfl : account.username = username := of_decide_eq_true hnamed
  exact ⟨⟨accounts, account, haccounts, filter_named hdistinct hmem⟩, fun _ _ _ => rfl,
    fun hnone => absurd rfl (hnone account hmem)⟩

/-- An account that is entered where there was none is the only one of its name. -/
theorem provides_entered (hnone : ∀ account ∈ accounts.rows, account.username ≠ username)
    {entries : List Nat} {i : Nat} (hfirst : entries.head? = some i)
    (hpassword : passwords[i]? = some password) :
    Provides username passwords entries accounts ledger
      (ledger.withAccounts (accounts.add (⟨·, username, .password password, true⟩))) where
  sole := by
    refine ⟨_, ⟨accounts.issued + 1, username, .password password, true⟩, rfl, ?_⟩
    -- There was no row of the name, so the new one is all there is.
    have hrest : accounts.rows.filter (·.username = username) = [] := by
      rw [List.filter_eq_nil_iff]
      intro account hmem
      rw [decide_eq_true_eq]
      exact hnone account hmem
    rw [Table.add, List.filter_append, hrest, List.nil_append, List.filter_cons,
      if_pos (decide_eq_true rfl), List.filter_nil]
  kept account hmem hsame := absurd hsame (hnone account hmem)
  entered _ := ⟨i, password, hfirst, hpassword, rfl⟩

/-- In no order of moves a process fails, and when there are processes and all of them are done,
there is one account of the name. -/
theorem run_underway (hname : username ≠ "") (hpasswords : ∀ password ∈ passwords, password ≠ "")
    (haccounts : ledger.accounts = some accounts)
    (hdistinct : accounts.rows.Pairwise fun a b => a.username ≠ b.username)
    (schedule : List Nat) :
    AllUnderway passwords (run username schedule (passwords.map start) ledger).1 ∧
      (passwords ≠ [] →
        (∀ process ∈ (run username schedule (passwords.map start) ledger).1, process.left = 0) →
        Provides username passwords (inserts username schedule (passwords.map start) ledger)
          accounts ledger (run username schedule (passwords.map start) ledger).2) := by
  have hstart := allUnderway_start passwords
  cases hknown : accounts.rows.any (·.username = username) with
  | true =>
      rcases run_known hname hpasswords haccounts hknown schedule hstart with ⟨hsame, hunderway⟩
      refine ⟨hunderway, ?_⟩
      intro _ _
      rw [hsame]
      exact provides_known haccounts hdistinct hknown _
  | false =>
      have hopen : ∀ process ∈ passwords.map start, process.left ≠ 0 := by
        intro process hprocess
        rcases List.mem_map.1 hprocess with ⟨password, -, rfl⟩
        exact Nat.succ_ne_zero 1
      rcases run_unknown hname hpasswords haccounts hknown schedule hstart hopen with
        ⟨hunderway, hstill | ⟨i, password, hfirst, hpassword, hentered⟩⟩
      · -- Nobody has entered the account, so nobody is done, though there is a process.
        refine ⟨hunderway, ?_⟩
        intro hsome hdone
        have hlength := length_run username schedule (passwords.map start) ledger
        rw [List.length_map] at hlength
        have hpos := List.length_pos_iff.2 hsome
        have hin := List.getElem_mem (hlength ▸ hpos :
          0 < (run username schedule (passwords.map start) ledger).1.length)
        exact absurd (hdone _ hin) (hstill _ hin)
      · refine ⟨hunderway, ?_⟩
        intro _ _
        rw [hentered]
        refine provides_entered ?_ hfirst hpassword
        intro account hmem
        have hother := List.any_eq_false.1 hknown account hmem
        rwa [decide_eq_true_eq] at hother

/-- However the processes move, one that is done has succeeded, each is done when it has moved
twice, and when all are done there is one account of the name: the one that was there before, with
nothing changed, or that of an administrator with the password of the process whose entry came
first, with nothing else changed. -/
theorem run_provides (hname : username ≠ "") (hpasswords : ∀ password ∈ passwords, password ≠ "")
    (haccounts : ledger.accounts = some accounts)
    (hdistinct : accounts.rows.Pairwise fun a b => a.username ≠ b.username)
    (schedule : List Nat) :
    (∀ outcome, done outcome ∈ (run username schedule (passwords.map start) ledger).1 →
      outcome = .ok ()) ∧
    ((∀ i < passwords.length, 2 ≤ schedule.count i) →
      ∀ process ∈ (run username schedule (passwords.map start) ledger).1,
        process = done (.ok ())) ∧
    (passwords ≠ [] →
      (∀ process ∈ (run username schedule (passwords.map start) ledger).1,
        ∃ outcome, process = done outcome) →
      Provides username passwords (inserts username schedule (passwords.map start) ledger)
        accounts ledger (run username schedule (passwords.map start) ledger).2) := by
  rcases run_underway hname hpasswords haccounts hdistinct schedule with ⟨hunderway, hprovides⟩
  refine ⟨?_, ?_, ?_⟩
  · intro outcome hmem
    rcases List.mem_iff_getElem?.1 hmem with ⟨i, hi⟩
    -- The only outcome that a process on its way comes to is success.
    rcases hunderway i _ hi with ⟨password, -, hprocess⟩
    exact Bootstrap.done.inj (hprocess.eq_done rfl)
  · intro hfair process hmem
    rcases List.mem_iff_getElem?.1 hmem with ⟨i, hi⟩
    rcases hunderway i _ hi with ⟨password, hpassword, hprocess⟩
    rcases left_run schedule hi with ⟨first, hfirst, hle⟩
    -- A process needs two moves at most, and it had two.
    have htwice := hfair i (List.getElem?_eq_some_iff.1 hpassword).1
    have hmoves : first.left = 2 := by
      rw [List.getElem?_map, hpassword] at hfirst
      rw [← Option.some.inj hfirst]
      rfl
    exact hprocess.eq_done (by omega)
  · intro hsome hdone
    -- All are done, so none has its entry still to make.
    refine hprovides hsome ?_
    intro process hmem
    rcases hdone process hmem with ⟨outcome, rfl⟩
    rfl

/-- Two processes look before either enters the account, and the second one is faster then. -/
theorem run_provides_overtaking :
    (run "admin" [0, 1, 1, 0] [start "first", start "second"] fresh).1 =
        [done (.ok ()), done (.ok ())] ∧
      Provides "admin" ["first", "second"] [1, 0] .empty fresh
        (run "admin" [0, 1, 1, 0] [start "first", start "second"] fresh).2 := by
  have hpasswords : ∀ password ∈ ["first", "second"], password ≠ "" := by decide
  have hname : "admin" ≠ "" := by decide
  have haccounts : fresh.accounts = some .empty := rfl
  rcases run_provides hname hpasswords haccounts List.Pairwise.nil [0, 1, 1, 0] with
    ⟨-, hfair, hprovides⟩
  have hdone := hfair (by decide)
  exact ⟨rfl, hprovides (List.cons_ne_nil _ _) fun process hmem => ⟨_, hdone process hmem⟩⟩

end Runs

end Bootstrap

end Gatehouse
