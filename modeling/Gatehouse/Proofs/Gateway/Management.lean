import Gatehouse.Proofs.Gateway.Mediation
import Gatehouse.Proofs.Ledger.Confined

/-!
# Calls of users who are no administrators

A call of the management interface is carried out where the request was passed on, its path as it
was sent is that of the call, the method is accepted and the parameters can be read. All of that
is decided apart from the check, which is found by the decoded path and reads the parameters on
its own. Both come to the same: a path that is that of a call decodes to itself, a method that is
accepted without being that of the call is one whose parameters cannot be read, and what the path
captures is nothing. So a call that is carried out has been checked, on the same parameters.

What a call may do for a user who is no administrator then follows call by call, what a request
does to the ledger from the one call or the one follow-up in its course, and what any number of
requests does from each of them.

## Main definitions

* `Gateway.Carries`: Whether a request that is passed on makes the gateway carry out a call.
* `Gateway.Checked`: A call that is classified as what it is, and whose check holds.
* `Gateway.Manages`: A call on the grants on one thing, which a user may manage.
* `Gateway.Confines`: What a call may do for a user who is no administrator.
* `Gateway.Confined`: What a request may do for users who are no administrators.
* `Gateway.after`: The world after some requests.

## Theorems

* `Management.run_onKey`: A call on a grant is a statement on its key.
* `Gateway.carries_iff`, `Gateway.run_pass`: Where a call is carried out, and what comes of it.
* `Gateway.Carries.checked`: A call that is carried out has been checked.
* `Gateway.confines_of_check`: What a call does whose check holds.
* `Gateway.confined`: One request.
* `Gateway.management_confined`: Any number of requests.
-/

namespace Gatehouse

open Gatehouse.Action World

variable {σ : Type}

namespace Management

variable {headers : Http.Headers} {params : Params} {kind : Kind} {key : String}

/-- A call on a grant is a statement on the key that its parameters name. -/
theorem run_onKey {call : Management}
    (hcall : call ∈ [createGrant kind, getGrant kind, updateGrant kind, deleteGrant kind])
    (headers : Http.Headers) (hkey : params.get kind.keyName = .ok key) :
    ∃ statement : Statement Json, Ledger.OnKey kind key statement ∧
      ∀ world : World σ, exec (run call headers params) world =
        exec (onLedger statement) world := by
  simp only [List.mem_cons, List.not_mem_nil, or_false] at hcall
  cases huser : params.get "username" with
  | error e =>
      -- Without a name nothing is done, whichever call it is.
      refine ⟨_, .refused e, ?_⟩
      intro world
      rcases hcall with rfl | rfl | rfl | rfl
      all_goals
        rw [run, exec_bind_of_ok hkey, exec_bind_of_error huser]
        rfl
  | ok username =>
      rcases hcall with rfl | rfl | rfl | rfl
      · cases hlevel : params.get "permission" with
        | error e =>
            refine ⟨_, .refused e, ?_⟩
            intro world
            rw [run, exec_bind_of_ok hkey, exec_bind_of_ok huser, exec_bind_of_error hlevel]
            rfl
        | ok level =>
            refine ⟨_, (Ledger.createGrant_onKey kind key username level).map grantAnswer, ?_⟩
            intro world
            rw [run, exec_bind_of_ok hkey, exec_bind_of_ok huser, exec_bind_of_ok hlevel, exec_map,
              exec_onLedger_map]
      · refine ⟨_, (Ledger.grant_onKey kind key username).map grantAnswer, ?_⟩
        intro world
        rw [run, exec_bind_of_ok hkey, exec_bind_of_ok huser, exec_map, exec_onLedger_map,
          exec_onLedger_look, exec_readLedger]
      · cases hlevel : params.get "permission" with
        | error e =>
            refine ⟨_, .refused e, ?_⟩
            intro world
            rw [run, exec_bind_of_ok hkey, exec_bind_of_ok huser, exec_bind_of_error hlevel]
            rfl
        | ok level =>
            refine ⟨_, (Ledger.updateGrant_onKey kind key username level).map fun _ => done, ?_⟩
            intro world
            rw [run, exec_bind_of_ok hkey, exec_bind_of_ok huser, exec_bind_of_ok hlevel,
              exec_bind_pure, exec_onLedger_map]
      · refine ⟨_, (Ledger.deleteGrant_onKey kind key username).map fun _ => done, ?_⟩
        intro world
        rw [run, exec_bind_of_ok hkey, exec_bind_of_ok huser, exec_bind_pure, exec_onLedger_map]

end Management

/-- A follow-up leaves the users. -/
theorem Followup.Effect.keeps {account : Account} {before after : Ledger}
    (h : Followup.Effect account before after) : Ledger.Keeps before after := by
  cases h with
  | none => exact .refl before
  | granted kind key =>
      exact .after _ fun held changed hok =>
        ((Ledger.createGrant_onKey kind key _ _).writes before held changed hok).1
  | dropped name => exact .after _ fun _ _ hok => Ledger.dropModelGrants_keeps hok
  | renamed old new => exact .after _ fun _ _ hok => Ledger.renameModelGrants_keeps hok

namespace Gateway

variable {gateway : Gateway σ} {request passed : Http.Request} {world : World σ}
  {call : Management} {params : Params} {account : Account}

/-- Whether a request that is passed on makes the gateway carry out a call with these parameters:
the path is taken as it was sent, asking for something may be done without wanting the body, and
the parameters are those that the call reads itself. -/
structure Carries (passed : Http.Request) (call : Management) (params : Params) : Prop where
  own : Local.ofPath? passed.target.path = some (.call call)
  accepted : (Local.call call).accepts passed.method = true
  read : Management.paramsOf passed [] = .ok params

/-- A call that is classified as what it is, and whose check holds of a sender with the parameters
that the check reads. -/
structure Checked (gateway : Gateway σ) (passed : Http.Request) (world : World σ)
    (call : Management) (params : Params) (account : Account) : Prop where
  sender : gateway.sender passed.headers world.ledger = .ok (some account)
  decoded : Path.decode passed.target.path = .ok call.path
  guarded : Path.isOpen call.path = false
  found : Route.find? call.path passed.method = some ⟨call.operation, []⟩
  read : (caseOf account call.path passed.method).paramsOf passed = .ok params
  check : checkOf? call.path passed.method = some call.check
  holds : (exec (gateway.evaluate account params call.check) world).1 = .ok true

/-- A call on the grants on one thing of a kind, which a user may manage. -/
def Manages (gateway : Gateway σ) (world : World σ) (account : Account) (headers : Http.Headers)
    (params : Params) (kind : Kind) (call : Management) : Prop :=
  ∃ key level, params.get kind.keyName = .ok key ∧
    world.ledger.levelOn gateway.default (some ⟨kind, key⟩) account.username = .ok level ∧
    level.allows .manage = true ∧
    ∃ statement : Statement Json, Ledger.OnKey kind key statement ∧
      ∀ world : World σ, exec (Management.run call headers params) world =
        exec (onLedger statement) world

/-- What a call may do for a user who is no administrator: it does not manage users, it tells him
of himself only, it gives a new password to himself only, and it is about grants on what he may
manage. -/
def Confines (gateway : Gateway σ) (world : World σ) (account : Account) (headers : Http.Headers)
    (params : Params) : Management → Prop
  | .createUser | .updateAdmin | .deleteUser => False
  | .getUser => params.get "username" = .ok account.username ∧
    (∀ details, world.ledger.details account.username = .ok details →
      details.account = account) ∧
    ∀ remote : σ, exec (Management.run .getUser headers params) ⟨world.ledger, remote⟩ =
      ((world.ledger.details account.username).map Management.userAnswer, ⟨world.ledger, remote⟩)
  | .updatePassword => params.get "username" = .ok account.username ∧
    ∀ (remote : σ) outcome left,
      exec (Management.run .updatePassword headers params) ⟨world.ledger, remote⟩ =
        (outcome, left) →
      left.ledger = world.ledger ∨ Ledger.Repassworded account world.ledger left.ledger
  | .createGrant kind => gateway.Manages world account headers params kind (.createGrant kind)
  | .getGrant kind => gateway.Manages world account headers params kind (.getGrant kind)
  | .updateGrant kind => gateway.Manages world account headers params kind (.updateGrant kind)
  | .deleteGrant kind => gateway.Manages world account headers params kind (.deleteGrant kind)

/-- Whether a sender, if the request has one, is no administrator. -/
def FromUser (gateway : Gateway σ) (request : Http.Request) (world : World σ) : Prop :=
  ∀ account, gateway.sender request.headers world.ledger = .ok (some account) →
    account.admin = false

/-- What a request may do for users who are no administrators. -/
structure Confined (gateway : Gateway σ) (request : Http.Request) (world : World σ) : Prop where
  /-- A call that it makes the gateway carry out was checked on the same parameters, for a user
  for whom the call does no more than it may. -/
  calls : ∀ passed call params, gateway.PassesOn request world passed →
    Carries passed call params → ∃ account, gateway.Checked passed world call params account ∧
      gateway.Confines world account passed.headers params call
  /-- It leaves the users as they are, or gives its sender a new password. -/
  accounts : Ledger.Keeps world.ledger ((gateway.handle request).run world).2.ledger ∨
    ∃ account, gateway.sender request.headers world.ledger = .ok (some account) ∧
      Ledger.Repassworded account world.ledger ((gateway.handle request).run world).2.ledger

/-- The world after some requests. -/
def after (gateway : Gateway σ) (requests : List Http.Request) (world : World σ) : World σ :=
  requests.foldl (fun world request => ((gateway.handle request).run world).2) world

/-- Where it is checked that the sender is an administrator he is one. -/
theorem admin_of_check (h : (exec (gateway.evaluate account params .admin) world).1 = .ok true) :
    account.admin = true := Except.ok.inj h

theorem ofPath?_call (call : Management) : Local.ofPath? call.path = some (.call call) := by
  have hall : ∀ call ∈ Management.all, Local.ofPath? call.path = some (.call call) := by
    decide +kernel
  exact hall call call.mem_all

/-- A call is carried out under its own path and method only, with parameters that can be read. -/
theorem carries_iff : Carries passed call params ↔ passed.target.path = call.path ∧
    passed.method = call.method ∧ Management.paramsOf passed [] = .ok params := by
  constructor
  · rintro ⟨hown, haccepted, hread⟩
    refine ⟨?_, ?_, hread⟩
    · unfold Local.ofPath? at hown
      split at hown
      · cases hown
      · rcases Option.map_eq_some_iff.1 hown with ⟨found, hfound, hsame⟩
        obtain rfl := Local.call.inj hsame
        have hpath := List.find?_some hfound
        exact (of_decide_eq_true hpath).symm
    · rw [Local.accepts, Bool.or_eq_true, Bool.and_eq_true] at haccepted
      rcases haccepted with hsame | ⟨-, hhead⟩
      · exact of_decide_eq_true hsame
      · -- What is asked for without its body has no parameters that can be read.
        rw [Management.paramsOf, Management.neededBody, of_decide_eq_true hhead] at hread
        cases hread
  · rintro ⟨hpath, hmethod, hread⟩
    refine ⟨?_, ?_, hread⟩
    · rw [hpath, ofPath?_call]
    · rw [Local.accepts, hmethod, Local.method, decide_eq_true rfl, Bool.true_or]

/-- A check that holds of a user who is no administrator is one that reads the parameters. -/
theorem needsParams_of_check (hadmin : account.admin = false)
    (hholds : (exec (gateway.evaluate account params call.check) world).1 = .ok true) :
    call.check.needsParams = true := by
  cases call with
  | createUser | updateAdmin | deleteUser =>
      have hrank := admin_of_check hholds
      rw [hadmin] at hrank
      exact nomatch hrank
  | getUser | updatePassword => rfl
  | createGrant kind | getGrant kind | updateGrant kind | deleteGrant kind => cases kind <;> rfl

/-- A call that is carried out for somebody who is no administrator has been checked, and with the
parameters that it is carried out with. -/
theorem Carries.checked (h : Carries passed call params)
    (hpassed : gateway.PassesOn request world passed) (huser : gateway.FromUser request world) :
    ∃ account, account.admin = false ∧ gateway.Checked passed world call params account := by
  rcases (passesOn_iff gateway request world passed).1 hpassed with ⟨htaken, path, hpath, hgrants⟩
  rcases carries_iff.1 h with ⟨hraw, hmethod, hown⟩
  rcases Management.found call with ⟨hdecode, hguarded, hfound⟩
  have hdecoded : Path.decode passed.target.path = .ok call.path := by
    rw [hraw, hdecode]
  -- So the path by which the check is found is that of the call.
  obtain rfl := Except.ok.inj (hpath.symm.trans hdecoded)
  rw [← hmethod] at hfound
  rcases hgrants with hopen | ⟨account, hadmits⟩
  · rw [hguarded] at hopen
    exact nomatch hopen
  · have hsender := sender_eq_ok_iff.2 hadmits.known
    have hadmin : account.admin = false := by
      rw [headers_of_bounded? htaken] at hsender
      exact huser account hsender
    have hcheck : checkOf? call.path passed.method = some call.check := by
      rw [hmethod, checkOf?_call]
    rcases hadmits.allowed with hrank | hnone | ⟨check, found, hsome, hread, hholds⟩
    · rw [hadmin] at hrank
      exact nomatch hrank
    · rw [hcheck] at hnone
      exact nomatch hnone
    · obtain rfl := Option.some.inj (hcheck.symm.trans hsome)
      -- The check reads the parameters, and with nothing captured, as the call does.
      have hneeds := needsParams_of_check hadmin hholds
      have hsame : found = params := by
        have hcase := caseOf_call account call
        rw [hadmin] at hcase
        have hchecked := hread
        rw [hmethod, hcase, Case.paramsOf_of_check rfl hneeds] at hchecked
        exact Except.ok.inj (hchecked.symm.trans hown)
      rw [hsame] at hread hholds
      exact ⟨account, hadmin, hsender, hdecoded, hguarded, hfound, hread, hcheck, hholds⟩

/-- Where it is checked that a request is about its sender it names him. -/
theorem get_of_sender (h : (exec (gateway.evaluate account params .sender) world).1 = .ok true) :
    params.get "username" = .ok account.username := by
  cases hname : params.get "username" with
  | error e =>
      rw [evaluate, exec_bind_of_error hname] at h
      cases h
  | ok username =>
      rw [evaluate, exec_bind_of_ok hname] at h
      have hsame : decide (username = account.username) = true := Except.ok.inj h
      rw [of_decide_eq_true hsame]

/-- Where it is checked that the sender may manage something, a call on grants is about that. -/
theorem manages_of_check {kind : Kind} (headers : Http.Headers)
    (hcall : call ∈ [.createGrant kind, .getGrant kind, .updateGrant kind, .deleteGrant kind])
    (h : (exec (gateway.evaluate account params (.capability kind.subject .manage)) world).1 =
      .ok true) : gateway.Manages world account headers params kind call := by
  rcases of_evaluate_kind gateway account world h with ⟨key, level, hkey, hlevel, hallows⟩
  exact ⟨key, level, hkey, hlevel, hallows, Management.run_onKey hcall headers hkey⟩

/-- The user whom a sender is, is found under his own name. -/
theorem findAccount_of_sender {headers : Http.Headers}
    (h : gateway.sender headers world.ledger = .ok (some account)) :
    world.ledger.findAccount account.username = .ok account := by
  rcases sender_eq_ok_iff.1 h with ⟨credentials, -, hfound⟩
  rcases Ledger.findAccount_eq_ok_iff.1 hfound with ⟨accounts, -, hrow⟩
  have hname := List.find?_some hrow
  rw [← of_decide_eq_true hname] at hfound
  exact hfound

/-- A call whose check holds of a user who is no administrator does no more than it may. -/
theorem confines_of_check (headers : Http.Headers) (hadmin : account.admin = false)
    (hfound : world.ledger.findAccount account.username = .ok account)
    (hholds : (exec (gateway.evaluate account params call.check) world).1 = .ok true) :
    gateway.Confines world account headers params call := by
  cases call with
  | createUser | updateAdmin | deleteUser =>
      have hrank := admin_of_check hholds
      rw [hadmin] at hrank
      exact nomatch hrank
  | getUser =>
      have hname := get_of_sender hholds
      refine ⟨hname, ?_, ?_⟩
      · -- What is told of a user starts with the row that is found by his name.
        intro details hdetails
        rcases Error.bind_eq_ok_iff.1 hdetails with ⟨row, hrow, hrest⟩
        rcases Error.bind_eq_ok_iff.1 hrest with ⟨experimentGrants, -, hrest⟩
        rcases Error.bind_eq_ok_iff.1 hrest with ⟨modelGrants, -, hlast⟩
        rw [← Except.ok.inj hlast]
        exact Except.ok.inj (hrow.symm.trans hfound)
      · intro remote
        rw [Management.run, exec_bind_of_ok hname, exec_map, exec_readLedger]
  | updatePassword =>
      have hname := get_of_sender hholds
      refine ⟨hname, ?_⟩
      intro remote outcome left hrun
      rw [Management.run, exec_bind_of_ok hname] at hrun
      cases hpassword : params.get "password" with
      | error e =>
          rw [exec_bind_of_error hpassword] at hrun
          have hleft : ⟨world.ledger, remote⟩ = left := congrArg Prod.snd hrun
          rw [← hleft]
          exact .inl rfl
      | ok password =>
          rw [exec_bind_of_ok hpassword, exec_bind_pure] at hrun
          have hleft := congrArg (fun result => result.2.ledger) hrun
          rw [ledger_onLedger] at hleft
          rw [← hleft]
          -- The row that is found by his name is his own.
          exact Ledger.updateUser_repasswords hfound password
  | createGrant kind => exact manages_of_check headers (by simp) hholds
  | getGrant kind => exact manages_of_check headers (by simp) hholds
  | updateGrant kind => exact manages_of_check headers (by simp) hholds
  | deleteGrant kind => exact manages_of_check headers (by simp) hholds

section Ledgers

variable {headers : Http.Headers} {outcome : Except Error Json} {left : World σ} {remote : σ}

/-- A call on grants leaves the users. -/
theorem Manages.keeps {kind : Kind} (h : gateway.Manages world account headers params kind call)
    (hrun : exec (Management.run call headers params) ⟨world.ledger, remote⟩ = (outcome, left)) :
    Ledger.Keeps world.ledger left.ledger := by
  rcases h with ⟨key, level, -, -, -, statement, hstatement, hsame⟩
  rw [hsame] at hrun
  have hleft := congrArg (fun result => result.2.ledger) hrun
  rw [ledger_onLedger] at hleft
  rw [← hleft]
  exact .after statement fun a changed hok => (hstatement.writes world.ledger a changed hok).1

/-- What a call that does no more than it may does to the users. -/
theorem Confines.accounts (h : gateway.Confines world account headers params call)
    (hrun : exec (Management.run call headers params) ⟨world.ledger, remote⟩ = (outcome, left)) :
    Ledger.Keeps world.ledger left.ledger ∨
      Ledger.Repassworded account world.ledger left.ledger := by
  -- Calls on users are for administrators, except for a password of the sender's own; calls on
  -- grants leave the users.
  cases call with
  | createUser => exact h.elim
  | updateAdmin => exact h.elim
  | deleteUser => exact h.elim
  | getUser =>
      rw [h.2.2] at hrun
      have hleft : ⟨world.ledger, remote⟩ = left := congrArg Prod.snd hrun
      rw [← hleft]
      exact .inl (.refl _)
  | updatePassword =>
      rcases h.2 remote outcome left hrun with hsame | hpassword
      · rw [hsame]
        exact .inl (.refl _)
      · exact .inr hpassword
  | createGrant kind => exact .inl (Manages.keeps h hrun)
  | getGrant kind => exact .inl (Manages.keeps h hrun)
  | updateGrant kind => exact .inl (Manages.keeps h hrun)
  | deleteGrant kind => exact .inl (Manages.keeps h hrun)

end Ledgers

section Requests

/-- A call that is carried out is what answers the request. -/
theorem run_pass (h : Carries passed call params) (gateway : Gateway σ) (world : World σ) :
    (gateway.pass passed).run world =
      settled (exec (Http.Response.ofJson 200 <$> Management.run call passed.headers params)
        world) := by
  rw [pass, h.own]
  dsimp only
  rw [if_pos h.accepted, run_answerLocally, Management.answer, exec_bind_of_ok h.read]

/-- What answers a request that is passed on does nothing to the ledger but by a call that the
request makes it carry out. -/
theorem pass_ledger (gateway : Gateway σ) (passed : Http.Request) (world : World σ) :
    ((gateway.pass passed).run world).2.ledger = world.ledger ∨ ∃ call params,
      Carries passed call params ∧ ((gateway.pass passed).run world).2 =
        (exec (Management.run call passed.headers params) world).2 := by
  cases hown : Local.ofPath? passed.target.path with
  | none =>
      left
      rw [pass, hown]
      rfl
  | some own =>
      by_cases haccepts : own.accepts passed.method = true
      · cases own with
        | health =>
            left
            rw [pass, hown]
            dsimp only
            rw [if_pos haccepts]
            rfl
        | call call =>
            cases hread : Management.paramsOf passed [] with
            | error e =>
                -- A call whose parameters cannot be read is not carried out.
                left
                rw [pass, hown]
                dsimp only
                rw [if_pos haccepts, run_answerLocally, Management.answer,
                  exec_bind_of_error hread]
                rfl
            | ok params =>
                right
                have hcarries : Carries passed call params := ⟨hown, haccepts, hread⟩
                refine ⟨call, params, hcarries, ?_⟩
                rw [run_pass hcarries, settled_snd, exec_map]
      · left
        rw [pass, hown]
        dsimp only
        rw [if_neg haccepts]
        rfl

/-- What follows a response leaves the users. -/
theorem complete_keeps (gateway : Gateway σ) (followup : Option Followup) (account : Account)
    (params : Params) (response : Http.Response) (world : World σ) :
    Ledger.Keeps world.ledger
      (exec (gateway.complete followup account params response) world).2.ledger := by
  cases followup with
  | none => exact .refl _
  | some followup =>
      unfold complete
      dsimp only
      split
      · exact .refl _
      · unfold follow
        split
        · exact .refl _
        · next body _ =>
          -- What the follow-up does to the ledger stands, whether or not it succeeds.
          have hkeeps := (followup.run_effect gateway.tracker gateway.default account params body
            world).keeps
          rcases hrun : exec (followup.run gateway.tracker gateway.default account params body)
            world with ⟨e | outcome, left⟩
          · rw [hrun] at hkeeps
            rw [exec_bind_error hrun]
            exact hkeeps
          · rw [hrun] at hkeeps
            rw [exec_bind_ok hrun]
            cases outcome with
            | unchanged => exact hkeeps
            | replaced body => exact hkeeps

/-- A call that is carried out for a user who is no administrator does no more than it may. -/
theorem Carries.confines (h : Carries passed call params)
    (hpassed : gateway.PassesOn request world passed) (huser : gateway.FromUser request world) :
    ∃ account, gateway.Checked passed world call params account ∧
      gateway.Confines world account passed.headers params call := by
  rcases h.checked hpassed huser with ⟨account, hadmin, hchecked⟩
  exact ⟨account, hchecked, confines_of_check passed.headers hadmin
    (findAccount_of_sender hchecked.sender) hchecked.holds⟩

/-- So it leaves the users, or gives the sender a new password. -/
theorem Carries.accounts (h : Carries passed call params)
    (htaken : gateway.bounded? request = some passed) (hgrants : gateway.Grants passed world)
    (huser : gateway.FromUser request world) (remote : σ) {left : World σ}
    (hleft : left = (exec (Management.run call passed.headers params) ⟨world.ledger, remote⟩).2) :
    Ledger.Keeps world.ledger left.ledger ∨ ∃ account,
      gateway.sender request.headers world.ledger = .ok (some account) ∧
        Ledger.Repassworded account world.ledger left.ledger := by
  have hpassed := (passesOn_iff gateway request world passed).2 ⟨htaken, hgrants⟩
  rcases h.confines hpassed huser with ⟨account, hchecked, hconfines⟩
  rcases hrun : exec (Management.run call passed.headers params) ⟨world.ledger, remote⟩ with
    ⟨outcome, after⟩
  rw [hrun] at hleft
  obtain rfl : left = after := hleft
  rcases hconfines.accounts hrun with hkeeps | hpassword
  · exact .inl hkeeps
  · -- The sender is named by the headers, which are those of the request as it was sent.
    have hsender := hchecked.sender
    rw [headers_of_bounded? htaken] at hsender
    exact .inr ⟨account, hsender, hpassword⟩

/-- A request whose sender, if there is one, is no administrator does no more than it may. -/
theorem confined (huser : gateway.FromUser request world) : gateway.Confined request world := by
  refine ⟨fun passed call params hpassed hcarries => hcarries.confines hpassed huser, ?_⟩
  have hhandle : ((gateway.handle request).run world).2 =
      ((gateway.receive gateway.pass request).run world).2 := rfl
  rw [hhandle]
  cases htaken : gateway.bounded? request with
  | none =>
      rw [receive, htaken]
      exact .inl (.refl _)
  | some taken =>
      rw [run_receive htaken, settled_snd]
      cases gateway.course taken world with
      | opened path hdecode hopen hrun =>
          rw [hrun, exec_lift]
          rcases gateway.pass_ledger taken world with hsame | ⟨call, params, hcarries, hleft⟩
          · rw [hsame]
            exact .inl (.refl _)
          · exact hcarries.accounts htaken ⟨path, hdecode, .inl hopen⟩ huser world.remote hleft
      | served path account params remote hdecode hsender hscreen hrun =>
          rw [hrun, exec_bind_ok (exec_lift _ _)]
          rcases gateway.pass_ledger taken ⟨world.ledger, remote⟩ with
            hsame | ⟨call, found, hcarries, hleft⟩
          · have hkeeps := gateway.complete_keeps (caseOf account path taken.method).followup account
              params ((gateway.pass taken).run ⟨world.ledger, remote⟩).1
              ((gateway.pass taken).run ⟨world.ledger, remote⟩).2
            rw [hsame] at hkeeps
            exact .inl hkeeps
          · -- Nothing follows a call.
            have hgrants := grants_of_screen hdecode hsender hscreen
            rcases carries_iff.1 hcarries with ⟨hraw, hmethod, -⟩
            rw [hraw, (Management.found call).1] at hdecode
            obtain rfl := Except.ok.inj hdecode
            rw [hmethod, caseOf_call]
            exact hcarries.accounts htaken hgrants huser remote hleft
      | stopped e remote hnot hrun =>
          have hleft := congrArg (fun result => result.2.ledger) (hrun gateway.pass)
          rw [settled_snd] at hleft
          rw [hleft]
          exact .inl (.refl _)

/-- A request that does no more than it may leaves the users who they are, and ids numbered. -/
theorem Confined.keeps (h : gateway.Confined request world) :
    ((gateway.handle request).run world).2.ledger.identities = world.ledger.identities ∧
      (world.ledger.Numbered → ((gateway.handle request).run world).2.ledger.Numbered) := by
  rcases h.accounts with hkeeps | ⟨account, -, hpassword⟩
  · exact ⟨hkeeps.identities, hkeeps.numbered⟩
  · exact ⟨hpassword.identities, hpassword.numbered⟩

/-- If no request is from an administrator, then the users stay who they are and none of them
becomes an administrator or ceases to be one; and each request makes the gateway carry out only
calls that were checked on the same parameters, that do no more than they may for their sender, and
that change no password but his. -/
theorem management_confined (gateway : Gateway σ) (requests : List Http.Request) (world : World σ)
    (husers : ∀ before request rest, requests = before ++ request :: rest →
      gateway.FromUser request (gateway.after before world)) :
    (gateway.after requests world).ledger.identities = world.ledger.identities ∧
    (world.ledger.Numbered → (gateway.after requests world).ledger.Numbered) ∧
    ∀ before request rest, requests = before ++ request :: rest →
      gateway.Confined request (gateway.after before world) := by
  have hconfined : ∀ before request rest, requests = before ++ request :: rest →
      gateway.Confined request (gateway.after before world) :=
    fun before request rest hsplit => confined (husers before request rest hsplit)
  have hkeeps : (gateway.after requests world).ledger.identities = world.ledger.identities ∧
      (world.ledger.Numbered → (gateway.after requests world).ledger.Numbered) := by
    clear husers
    -- By induction on the requests, from any world.
    induction requests generalizing world with
    | nil => exact ⟨rfl, id⟩
    | cons request rest ih =>
        rcases (hconfined [] request rest rfl).keeps with ⟨hfirst, hnumbered⟩
        have hlater : ∀ before later more, rest = before ++ later :: more → gateway.Confined later
            (gateway.after before ((gateway.handle request).run world).2) := by
          intro before later more hsplit
          exact hconfined (request :: before) later more (congrArg (request :: ·) hsplit)
        rcases ih _ hlater with ⟨hrest, hlast⟩
        exact ⟨hrest.trans hfirst, fun h => hlast (hnumbered h)⟩
  exact ⟨hkeeps.1, hkeeps.2, hconfined⟩

/-- When a user asks about himself the gateway carries that out, for him. -/
theorem management_confined_question :
    (trusting.after [question "ada"] lone).ledger.identities = lone.ledger.identities ∧
    ∃ account, trusting.Checked (question "ada") lone .getUser ⟨[("username", .string "ada")]⟩
      account := by
  have husers : ∀ before request rest, [question "ada"] = before ++ request :: rest →
      trusting.FromUser request (trusting.after before lone) := by
    intro before request rest hsplit
    cases before with
    | nil =>
        intro account hsender
        rcases Ledger.findAccount_eq_ok_iff.1 (findAccount_of_sender hsender) with
          ⟨accounts, haccounts, hrow⟩
        obtain rfl := Option.some.inj haccounts
        -- There is one user.
        rw [List.mem_singleton.1 (List.mem_of_find?_eq_some hrow)]
    | cons first before => simp at hsplit
  have hpassed : trusting.PassesOn (question "ada") lone (question "ada") :=
    (passesOn_iff _ _ _ _).2 ⟨rfl, grants_question⟩
  have hcarries : Carries (question "ada") .getUser ⟨[("username", .string "ada")]⟩ :=
    carries_iff.2 ⟨rfl, rfl, rfl⟩
  rcases management_confined trusting [question "ada"] lone husers with
    ⟨hidentities, -, hconfined⟩
  rcases (hconfined [] (question "ada") [] rfl).calls _ _ _ hpassed hcarries with
    ⟨account, hchecked, -⟩
  exact ⟨hidentities, account, hchecked⟩

end Requests

end Gateway

end Gatehouse
