import Gatehouse.Proofs.Gateway.Check
import Gatehouse.Proofs.Route
import Gatehouse.Tracker.Memory

/-!
# Mediation

Nothing is passed on but what may be, and what may be is passed on as it came. What a request
needs is stated in terms of its own path, headers and parameters; that a request is passed on is
told by the handler: it is asked about that request if its answer to it makes a difference. The
course of a request is the same for all handlers until it is passed on, and what was only looked
at up to then leaves the tables as they were.

## Main definitions

* `Gateway.Case.paramsOf`, `Gateway.screen`: What is read and checked before a request is passed on.
* `Gateway.Admits`, `Gateway.Grants`: What a request needs to be passed on.
* `Gateway.PassesOn`: Whether something is passed on.
* `Gateway.Course`: How far a request comes.

## Theorems

* `Gateway.readParams_eq`, `Gateway.exec_vet`: A request that is read goes on as it came.
* `Gateway.of_screen_ok`, `Gateway.screen_ok`: What happens before a request is passed on.
* `Gateway.exec_authorize_closed`, `Gateway.exec_serve`: The steps of a request that needs a sender.
* `Gateway.course`: The course of a request, for all handlers at once.
* `Gateway.passesOn_iff`: What is passed on, for requests of any length.
* `Gateway.caseOf_call`: What is decided about one of the gateway's own calls.
* `Gateway.mediation`: A request is passed on exactly where it needs nothing that it lacks.
-/

namespace Gatehouse

open Gatehouse.Action

variable {σ : Type}

namespace Gateway

open World

/-- The parameters of a request in its case; there are none where they are not needed. -/
def Case.paramsOf (c : Case) (request : Http.Request) : Except Error Params :=
  if c.needsParams then Management.paramsOf request c.captures else .ok .empty

/-- A check that needs parameters gets those of the request. -/
theorem Case.paramsOf_of_check {c : Case} {check : Check} (hcheck : c.check = some check)
    (hneeds : check.needsParams = true) (request : Http.Request) :
    c.paramsOf request = Management.paramsOf request c.captures := by
  have hall : c.needsParams = true := by
    rw [needsParams, hcheck, Option.any_some, hneeds, Bool.true_or]
  rw [paramsOf, if_pos hall]

/-- The parameters of a request in a case whose check holds of the caller. -/
def screen (gateway : Gateway σ) (account : Account) (c : Case) (request : Http.Request) :
    Action (World σ) Params := do
  let params ← Action.of (c.paramsOf request)
  gateway.demand account params c.check
  pure params

/-- What a request for a path that is not open needs, with this sender. -/
structure Admits (gateway : Gateway σ) (request : Http.Request) (world : World σ)
    (path : String) (account : Account) : Prop where
  /-- The sender shows who he is, and he is a user. -/
  known : ∃ credentials,
    Authn.authenticate gateway.scheme request.headers world.ledger = .ok (some credentials) ∧
      world.ledger.findAccount credentials.username = .ok account
  /-- If the check or the follow-up needs parameters, those of the request can be read. -/
  readable : (caseOf account path request.method).needsParams = true → ∃ params,
    Management.paramsOf request (caseOf account path request.method).captures = .ok params
  /-- He is an administrator, or path and method have no check, or the check holds of him with
  the parameters of the request. -/
  allowed : account.admin = true ∨ checkOf? path request.method = none ∨ ∃ check params,
    checkOf? path request.method = some check ∧
      (caseOf account path request.method).paramsOf request = .ok params ∧
      (exec (gateway.evaluate account params check) world).1 = .ok true

/-- What a request needs to be passed on. -/
def Grants (gateway : Gateway σ) (request : Http.Request) (world : World σ) : Prop :=
  ∃ path, Path.decode request.target.path = .ok path ∧
    (Path.isOpen path = true ∨ ∃ account, gateway.Admits request world path account)

/-- A request whose parameters are read goes on as it came. -/
theorem readParams_eq (request : Http.Request) (captures : List (String × String)) :
    readParams request captures =
      (Management.paramsOf request captures).map fun params => (request, params) := by
  rcases request with ⟨method, target, headers, body⟩
  rw [readParams, Management.paramsOf, Management.neededBody]
  dsimp only
  split
  · cases body with
    | tooLong => rfl
    | whole bytes =>
        dsimp only [Http.Body.read?]
        cases Params.ofRequest method headers target.query bytes captures <;> rfl
  · cases Params.ofRequest method headers target.query [] captures <;> rfl

theorem Case.read_eq (c : Case) (request : Http.Request) : c.read request =
    (c.paramsOf request).map fun params => (request, params) := by
  rw [Case.read, Case.paramsOf]
  split
  · exact readParams_eq request c.captures
  · rfl

/-- A request that goes on goes on as it came, with its parameters. -/
theorem exec_vet (gateway : Gateway σ) (account : Account) (c : Case) (request : Http.Request)
    (world : World σ) : exec (gateway.vet account c request) world =
      ((exec (gateway.screen account c request) world).1.map fun params => (request, params),
        (exec (gateway.screen account c request) world).2) := by
  rw [vet, screen, Case.read_eq]
  cases hparams : c.paramsOf request with
  | error e => rfl
  | ok params =>
      have hread : (Except.ok params : Except Error Params).map (fun p => (request, p)) =
          .ok (request, params) := rfl
      rw [exec_bind_of_ok hread, exec_bind_of_ok rfl, exec_bind, exec_bind]
      rcases exec (gateway.demand account params c.check) world with ⟨e | _, after⟩
      · rfl
      · rfl

/-- Whether something is passed on in the course of a request: what a handler does about it, and
about nothing else, makes a difference to what comes of the request. -/
def PassesOn (gateway : Gateway σ) (request : Http.Request) (world : World σ)
    (passed : Http.Request) : Prop :=
  ∃ next other : Handler σ, (∀ r, r ≠ passed → next r = other r) ∧
    (gateway.receive next request).run world ≠ (gateway.receive other request).run world

section Screen

variable (gateway : Gateway σ) (account : Account) (request : Http.Request) (world : World σ)

theorem untouched_demand (params : Params) (check : Option Check) :
    Untouched (gateway.demand account params check) := by
  cases check with
  | none => exact .pure _
  | some check =>
      refine .bind (gateway.untouched_evaluate account params check) ?_
      intro holds
      cases holds with
      | true => exact .pure _
      | false => exact .throw _

theorem untouched_screen (c : Case) : Untouched (gateway.screen account c request) :=
  .bind (.of _) fun params =>
    .bind (gateway.untouched_demand account params c.check) fun _ => .pure params

/-- A check that does not hold stops a request, and so does one that fails. -/
theorem exec_demand (params : Params) (check : Check) :
    exec (gateway.demand account params (some check)) world =
      match exec (gateway.evaluate account params check) world with
      | (.ok true, after) => (.ok (), after)
      | (.ok false, after) => (.error .forbidden, after)
      | (.error e, after) => (.error e, after) := by
  rw [demand, exec_bind]
  rcases exec (gateway.evaluate account params check) world with ⟨e | holds, after⟩
  · rfl
  · cases holds <;> rfl

/-- A request that goes on has its parameters, and its check holds if there is one. -/
theorem of_screen_ok {c : Case} {params : Params} {after : World σ}
    (h : exec (gateway.screen account c request) world = (.ok params, after)) :
    c.paramsOf request = .ok params ∧ ∀ check, c.check = some check →
      exec (gateway.evaluate account params check) world = (.ok true, after) := by
  cases hparams : c.paramsOf request with
  | error e =>
      rw [screen, exec_bind_of_error hparams] at h
      exact nomatch (Prod.mk.inj h).1
  | ok found =>
      -- What is left is the check: of its three outcomes only one lets the request go on.
      rw [screen, exec_bind_of_ok hparams] at h
      rcases exec_bind_eq_ok h with ⟨_, middle, hdemand, hpure⟩
      obtain rfl := Except.ok.inj (Prod.mk.inj hpure).1
      obtain rfl := (Prod.mk.inj hpure).2
      refine ⟨rfl, ?_⟩
      intro check hcheck
      rw [hcheck, exec_demand] at hdemand
      rcases hevaluate : exec (gateway.evaluate account found check) world with ⟨e | holds, last⟩
      · rw [hevaluate] at hdemand
        exact nomatch (Prod.mk.inj hdemand).1
      · rw [hevaluate] at hdemand
        cases holds with
        | true => rw [(Prod.mk.inj hdemand).2]
        | false => exact nomatch (Prod.mk.inj hdemand).1

/-- A request whose parameters can be read goes on where its check holds or there is none. -/
theorem screen_ok {c : Case} {params : Params} (hparams : c.paramsOf request = .ok params)
    (hcheck : ∀ check, c.check = some check →
      (exec (gateway.evaluate account params check) world).1 = .ok true) :
    ∃ after, exec (gateway.screen account c request) world = (.ok params, after) := by
  -- A check that holds, or none, demands nothing more.
  have hdemand : ∃ after, exec (gateway.demand account params c.check) world = (.ok (), after) := by
    cases hc : c.check with
    | none => exact ⟨world, rfl⟩
    | some check =>
        have hholds := hcheck check hc
        rcases hevaluate : exec (gateway.evaluate account params check) world with ⟨outcome, after⟩
        rw [hevaluate] at hholds
        obtain rfl : outcome = .ok true := hholds
        refine ⟨after, ?_⟩
        rw [exec_demand, hevaluate]
  rcases hdemand with ⟨after, hdemand⟩
  refine ⟨after, ?_⟩
  rw [screen, exec_bind_of_ok hparams, exec_bind_ok hdemand]
  rfl

end Screen

section Course

variable {gateway : Gateway σ} {request : Http.Request} {world : World σ} {path : String}
  {account : Account}

theorem sender_eq_ok_iff {headers : Http.Headers} {ledger : Ledger} :
    gateway.sender headers ledger = .ok (some account) ↔ ∃ credentials,
      Authn.authenticate gateway.scheme headers ledger = .ok (some credentials) ∧
        ledger.findAccount credentials.username = .ok account := by
  unfold sender
  rw [Error.bind_eq_ok_iff]
  constructor
  · rintro ⟨found, hfound, hrest⟩
    cases found with
    | none => exact nomatch hrest
    | some credentials =>
        refine ⟨credentials, hfound, ?_⟩
        dsimp only at hrest
        -- An account that is missing is an error of one kind or another, and no sender.
        cases haccount : ledger.findAccount credentials.username with
        | ok found =>
            rw [haccount] at hrest
            exact congrArg Except.ok (Option.some.inj (Except.ok.inj hrest))
        | error e =>
            rw [haccount] at hrest
            dsimp only at hrest
            split at hrest
            · exact nomatch hrest
            · exact nomatch hrest
  · rintro ⟨credentials, hfound, haccount⟩
    refine ⟨some credentials, hfound, ?_⟩
    dsimp only
    rw [haccount]

/-- What is needed of a known sender is what lets his request go on. -/
theorem admits_iff : gateway.Admits request world path account ↔
    gateway.sender request.headers world.ledger = .ok (some account) ∧ ∃ params after,
      exec (gateway.screen account (caseOf account path request.method) request) world =
        (.ok params, after) := by
  have hcheck : (caseOf account path request.method).check =
      if account.admin then none else checkOf? path request.method := rfl
  constructor
  · intro h
    refine ⟨sender_eq_ok_iff.2 h.known, ?_⟩
    have hparams : ∃ params, (caseOf account path request.method).paramsOf request =
        .ok params := by
      unfold Case.paramsOf
      by_cases hneeds : (caseOf account path request.method).needsParams = true
      · rw [if_pos hneeds]
        exact h.readable hneeds
      · rw [if_neg hneeds]
        exact ⟨.empty, rfl⟩
    rcases hparams with ⟨params, hparams⟩
    have hholds : ∀ check, (caseOf account path request.method).check = some check →
        (exec (gateway.evaluate account params check) world).1 = .ok true := by
      intro check hsome
      -- In the case of an administrator there is no check, whatever path and method name.
      rw [hcheck] at hsome
      rcases h.allowed with hadmin | hnone | ⟨named, found, hnamed, hfound, hholds⟩
      · rw [if_pos hadmin] at hsome
        exact nomatch hsome
      · rw [hnone] at hsome
        split at hsome
        · exact nomatch hsome
        · exact nomatch hsome
      · rw [hnamed] at hsome
        split at hsome
        · exact nomatch hsome
        · rw [hparams] at hfound
          obtain rfl := Except.ok.inj hfound
          obtain rfl := Option.some.inj hsome
          exact hholds
    rcases screen_ok gateway account request world hparams hholds with ⟨after, hscreen⟩
    exact ⟨params, after, hscreen⟩
  · rintro ⟨hsender, params, after, hscreen⟩
    rcases of_screen_ok gateway account request world hscreen with ⟨hparams, hholds⟩
    refine ⟨sender_eq_ok_iff.1 hsender, ?_, ?_⟩
    · intro hneeds
      rw [Case.paramsOf, if_pos hneeds] at hparams
      exact ⟨params, hparams⟩
    · by_cases hadmin : account.admin = true
      · exact .inl hadmin
      · rw [hcheck, if_neg hadmin] at hholds
        cases hnamed : checkOf? path request.method with
        | none => exact .inr (.inl rfl)
        | some check =>
            exact .inr (.inr ⟨check, params, rfl, hparams, congrArg Prod.fst (hholds check hnamed)⟩)

end Course

/-- The response that an outcome is answered with. -/
def settled : Except Error Http.Response × World σ → Http.Response × World σ
  | (.ok response, world) => (response, world)
  | (.error e, world) => (e.response, world)

theorem settled_snd (result : Except Error Http.Response × World σ) :
    (settled result).2 = result.2 := by
  rcases result with ⟨e | response, world⟩
  · rfl
  · rfl

theorem run_answer (gateway : Gateway σ) (next : Handler σ) (request : Http.Request)
    (world : World σ) : (gateway.answer next request).run world =
      settled (exec (gateway.authorize next request) world) := by
  have hexec : ((gateway.authorize next request).run.run world : Id _) =
      exec (gateway.authorize next request) world := rfl
  rw [answer, StateT.run_bind, hexec]
  rcases exec (gateway.authorize next request) world with ⟨e | response, after⟩
  · rfl
  · rfl

theorem run_answerLocally (call : Management) (request : Http.Request) (world : World σ) :
    (answerLocally (.call call) request).run world = settled (exec (call.answer request) world) := by
  have hexec : ((call.answer request).run.run world : Id _) = exec (call.answer request) world := rfl
  rw [answerLocally, StateT.run_bind, hexec]
  rcases exec (call.answer request) world with ⟨e | response, after⟩
  · rfl
  · rfl

/-- The body of a request is all there, within its allowed and its declared length. -/
def Fits (gateway : Gateway σ) (request : Http.Request) : Prop :=
  ∃ bytes, request.body = .whole bytes ∧ bytes.length ≤ gateway.maxBody ∧
    ∀ declared, declaredLength? request.headers = some declared →
      bytes.length ≤ declared ∧ declared ≤ gateway.maxBody

/-- Such a request is taken as it is. -/
theorem Fits.bounded?_eq {gateway : Gateway σ} {request : Http.Request}
    (h : gateway.Fits request) : gateway.bounded? request = some request := by
  rcases request with ⟨method, target, headers, body⟩
  rcases h with ⟨bytes, rfl, hlength, hdeclared⟩
  unfold bounded?
  dsimp only at hdeclared ⊢
  cases hlen : declaredLength? headers with
  | none =>
      dsimp only
      rw [Http.Body.upTo, if_pos hlength]
  | some declared =>
      rcases hdeclared declared hlen with ⟨hwithin, hallowed⟩
      dsimp only
      -- A body that is no longer than declared and than allowed loses nothing.
      rw [if_neg (Nat.not_lt.2 hallowed), Http.Body.upTo,
        if_pos (Nat.le_min.2 ⟨hlength, hwithin⟩)]

/-- What a request is taken as differs from it in its body at most. -/
theorem of_bounded? {gateway : Gateway σ} {request taken : Http.Request}
    (h : gateway.bounded? request = some taken) :
    taken = { request with body := taken.body } := by
  unfold bounded? at h
  split at h
  · split at h
    · exact nomatch h
    · rw [← Option.some.inj h]
  · rw [← Option.some.inj h]

theorem headers_of_bounded? {gateway : Gateway σ} {request taken : Http.Request}
    (h : gateway.bounded? request = some taken) : taken.headers = request.headers := by
  rw [of_bounded? h]

/-- What is taken is answered. -/
theorem run_receive {gateway : Gateway σ} {request taken : Http.Request}
    (h : gateway.bounded? request = some taken) (next : Handler σ) (world : World σ) :
    (gateway.receive next request).run world =
      settled (exec (gateway.authorize next taken) world) := by
  rw [receive, h]
  exact run_answer gateway next taken world

section Authorize

variable (gateway : Gateway σ) (world : World σ) {request : Http.Request} {path : String}

/-- A request for a path that is not open needs a sender. -/
theorem exec_authorize_closed (hdecode : Path.decode request.target.path = .ok path)
    (hclosed : ¬ Path.isOpen path = true) (next : Handler σ) :
    exec (gateway.authorize next request) world =
      match gateway.sender request.headers world.ledger with
      | .error e => (.error e, world)
      | .ok none => (.ok Error.challenge, world)
      | .ok (some account) => exec (gateway.serve next account path request) world := by
  have hread : exec (readLedger (gateway.sender request.headers)) world =
      (gateway.sender request.headers world.ledger, world) := exec_readLedger _ world
  rw [authorize, exec_bind_of_ok hdecode, if_neg hclosed, exec_bind, hread]
  rcases gateway.sender request.headers world.ledger with e | _ | account
  · rfl
  · rfl
  · rfl

/-- A request of a known sender that is not stopped is passed on, and its answer is completed. -/
theorem exec_serve (next : Handler σ) (account : Account) :
    exec (gateway.serve next account path request) world =
      match exec (gateway.screen account (caseOf account path request.method) request) world with
      | (.error e, after) => (.error e, after)
      | (.ok params, after) => exec (do
          let response ← next request
          gateway.complete (caseOf account path request.method).followup account params response :
            Action (World σ) Http.Response) after := by
  rw [serve, exec_bind, exec_vet]
  rcases exec (gateway.screen account (caseOf account path request.method) request) world with
    ⟨e | params, after⟩
  · rfl
  · rfl

end Authorize

/-- How far a request comes, whatever handler there is: it is open, it is served to its sender with
the tables as they were, or it is stopped for want of something. -/
inductive Course (gateway : Gateway σ) (request : Http.Request) (world : World σ) : Prop
  | opened (path : String) (hdecode : Path.decode request.target.path = .ok path)
      (hopen : Path.isOpen path = true)
      (hrun : ∀ next : Handler σ, exec (gateway.authorize next request) world =
        exec (liftM (next request)) world)
  | served (path : String) (account : Account) (params : Params) (remote : σ)
      (hdecode : Path.decode request.target.path = .ok path)
      (hsender : gateway.sender request.headers world.ledger = .ok (some account))
      (hscreen : exec (gateway.screen account (caseOf account path request.method) request) world =
        (.ok params, ⟨world.ledger, remote⟩))
      (hrun : ∀ next : Handler σ, exec (gateway.authorize next request) world =
        exec (do
          let response ← next request
          gateway.complete (caseOf account path request.method).followup account params response :
            Action (World σ) Http.Response) ⟨world.ledger, remote⟩)
  | stopped (e : Error) (remote : σ) (hnot : ¬ gateway.Grants request world)
      (hrun : ∀ next : Handler σ, settled (exec (gateway.authorize next request) world) =
        (e.response, ⟨world.ledger, remote⟩))

theorem course (gateway : Gateway σ) (request : Http.Request) (world : World σ) :
    gateway.Course request world := by
  cases hdecode : Path.decode request.target.path with
  | error e =>
      -- With a path that does not decode nothing is granted.
      refine .stopped e world.remote ?_ ?_
      · rintro ⟨path, hpath, -⟩
        rw [hdecode] at hpath
        exact nomatch hpath
      · intro next
        rw [authorize, exec_bind_of_error hdecode]
        rfl
  | ok path =>
      by_cases hopen : Path.isOpen path = true
      · refine .opened path hdecode hopen ?_
        intro next
        rw [authorize, exec_bind_of_ok hdecode, if_pos hopen]
      · -- What is not open needs a sender, and his request has to go on.
        have hneeds : gateway.Grants request world → ∃ account,
            gateway.Admits request world path account := by
          rintro ⟨found, hfound, hrest⟩
          rw [hdecode] at hfound
          obtain rfl := Except.ok.inj hfound
          exact hrest.resolve_left hopen
        have hclosed := gateway.exec_authorize_closed world hdecode hopen
        cases hsender : gateway.sender request.headers world.ledger with
        | error e =>
            refine .stopped e world.remote ?_ ?_
            · intro hgrants
              rcases hneeds hgrants with ⟨account, hadmits⟩
              rw [(admits_iff.1 hadmits).1] at hsender
              exact nomatch hsender
            · intro next
              rw [hclosed, hsender]
              rfl
        | ok found =>
            cases found with
            | none =>
                refine .stopped .unauthenticated world.remote ?_ ?_
                · intro hgrants
                  rcases hneeds hgrants with ⟨account, hadmits⟩
                  rw [(admits_iff.1 hadmits).1] at hsender
                  exact nomatch hsender
                · intro next
                  rw [hclosed, hsender]
                  rfl
            | some account =>
                -- What is looked at for the check leaves the tables as they were.
                have hledger := gateway.untouched_screen account request
                  (caseOf account path request.method) world
                rcases hscreen : exec (gateway.screen account
                  (caseOf account path request.method) request) world with
                  ⟨e | params, ledger, remote⟩
                · rw [hscreen] at hledger
                  obtain rfl : ledger = world.ledger := hledger
                  refine .stopped e remote ?_ ?_
                  · intro hgrants
                    rcases hneeds hgrants with ⟨other, hadmits⟩
                    rcases admits_iff.1 hadmits with ⟨hother, params, after, hok⟩
                    rw [hsender] at hother
                    obtain rfl := Option.some.inj (Except.ok.inj hother)
                    rw [hscreen] at hok
                    exact nomatch (Prod.mk.inj hok).1
                  · intro next
                    rw [hclosed, hsender]
                    dsimp only
                    rw [exec_serve, hscreen]
                    rfl
                · rw [hscreen] at hledger
                  obtain rfl : ledger = world.ledger := hledger
                  refine .served path account params remote hdecode hsender hscreen ?_
                  intro next
                  rw [hclosed, hsender]
                  dsimp only
                  rw [exec_serve, hscreen]

section Passing

variable {gateway : Gateway σ} {request : Http.Request} {world : World σ}

/-- A request that goes on is granted. -/
theorem grants_of_screen {path : String} {account : Account} {params : Params} {after : World σ}
    (hdecode : Path.decode request.target.path = .ok path)
    (hsender : gateway.sender request.headers world.ledger = .ok (some account))
    (hscreen : exec (gateway.screen account (caseOf account path request.method) request) world =
      (.ok params, after)) : gateway.Grants request world :=
  ⟨path, hdecode, .inr ⟨account, admits_iff.2 ⟨hsender, params, after, hscreen⟩⟩⟩

/-- A failure is not followed up. -/
theorem exec_complete_failure (followup : Option Followup) (account : Account) (params : Params)
    {response : Http.Response} (h : response.isFailure = true) (world : World σ) :
    exec (gateway.complete followup account params response) world = (.ok response, world) := by
  cases followup with
  | none => rfl
  | some followup =>
      rw [complete, if_pos h]
      rfl

/-- What is granted is answered as the handler answers it, at least where that is a failure. -/
theorem answered_of_grants (h : gateway.Grants request world) : ∃ after,
    ∀ (next : Handler σ) (response : Http.Response), next request = pure response →
      response.isFailure = true →
      settled (exec (gateway.authorize next request) world) = (response, after) := by
  cases gateway.course request world with
  | opened path hdecode hopen hrun =>
      refine ⟨world, ?_⟩
      intro next response hnext _
      rw [hrun, hnext]
      rfl
  | served path account params remote hdecode hsender hscreen hrun =>
      refine ⟨⟨world.ledger, remote⟩, ?_⟩
      intro next response hnext hfailure
      -- The handler answers with a failure, after which there is no follow-up.
      have hlift : exec (liftM (next request) : Action (World σ) Http.Response)
          ⟨world.ledger, remote⟩ = (.ok response, ⟨world.ledger, remote⟩) := by
        rw [hnext]
        rfl
      rw [hrun, exec_bind_ok hlift, exec_complete_failure _ _ _ hfailure]
      rfl
  | stopped e remote hnot => exact absurd h hnot

/-- What a handler does about other requests makes no difference. -/
theorem run_congr {next other : Handler σ} (h : next request = other request) :
    settled (exec (gateway.authorize next request) world) =
      settled (exec (gateway.authorize other request) world) := by
  cases gateway.course request world with
  | opened path hdecode hopen hrun => rw [hrun, hrun, h]
  | served path account params remote hdecode hsender hscreen hrun => rw [hrun, hrun, h]
  | stopped e remote hnot hrun => rw [hrun, hrun]

/-- What is passed on is the request as it is taken, where that is granted. -/
theorem passesOn_iff (gateway : Gateway σ) (request : Http.Request) (world : World σ)
    (passed : Http.Request) : gateway.PassesOn request world passed ↔
      gateway.bounded? request = some passed ∧ gateway.Grants passed world := by
  constructor
  · rintro ⟨next, other, hothers, hdiffer⟩
    cases htaken : gateway.bounded? request with
    | none =>
        rw [receive, receive, htaken] at hdiffer
        exact absurd rfl hdiffer
    | some taken =>
        rw [run_receive htaken, run_receive htaken] at hdiffer
        -- A handler is asked about what is taken only, so that is what the two differ on.
        have hpassed : taken = passed := by
          by_cases hsame : taken = passed
          · exact hsame
          · exact absurd (run_congr (hothers taken hsame)) hdiffer
        refine ⟨congrArg some hpassed, ?_⟩
        rw [← hpassed]
        cases gateway.course taken world with
        | opened path hdecode hopen => exact ⟨path, hdecode, .inl hopen⟩
        | served path account params remote hdecode hsender hscreen =>
            exact grants_of_screen hdecode hsender hscreen
        | stopped e remote hnot hrun =>
            rw [hrun, hrun] at hdiffer
            exact absurd rfl hdiffer
  · rintro ⟨htaken, hgrants⟩
    -- Two handlers that fail differently on the request, and alike on all others.
    classical
    rcases answered_of_grants hgrants with ⟨after, hanswered⟩
    refine ⟨fun _ => pure ⟨500, [], []⟩,
      fun r => if r = passed then pure ⟨501, [], []⟩ else pure ⟨500, [], []⟩, ?_, ?_⟩
    · intro r hr
      exact (if_neg hr).symm
    · rw [run_receive htaken, run_receive htaken, hanswered _ ⟨500, [], []⟩ rfl rfl,
        hanswered _ ⟨501, [], []⟩ (if_pos rfl) rfl]
      intro hsame
      have hstatus : (500 : Nat) = 501 := congrArg (fun result => result.1.status) hsame
      omega

/-- A check on a logged model asks for the experiment of the model that the path names. -/
theorem owner_of_models {path : String} {found : Route.Found} {capability : Capability}
    (hdecode : Path.decode request.target.path = .ok path)
    (hfound : Route.find? path request.method = some found)
    (hcheck : found.operation.check? = some (.capability .loggedModelId capability)) :
    ∃ root ∈ Route.apiRoots, ∃ id rest,
      Path.decodeSegments request.target.path =
        .ok (Path.segments (root ++ Route.modelsPath) ++ id :: rest) ∧
      ∀ account params, account.admin = false →
        (caseOf account path request.method).paramsOf request = .ok params →
        params.get "model_id" = .ok id ∧
        Subject.loggedModelId.owner gateway.tracker params = (do
          let experiment ← gateway.tracker.loggedModelExperiment id
          pure (some ⟨.experiment, experiment⟩)) := by
  rcases Route.models_found hfound hcheck with ⟨root, hroot, id, rest, more, hpath, hcaptures, hmore⟩
  refine ⟨root, hroot, id, rest, ?_, ?_⟩
  · rw [Path.decodeSegments_of_decode hdecode, hpath]
  · intro account params hadmin hparams
    -- Of somebody who is no administrator the check is evaluated, so the parameters are read.
    have hasked : (caseOf account path request.method).check =
        some (.capability .loggedModelId capability) := by
      simp only [caseOf, hadmin, checkOf?, hfound, hcheck, Option.bind_some, Option.some_or,
        Bool.false_eq_true, if_false]
    have hcase : (caseOf account path request.method).captures = found.captures := by
      simp only [Case.captures, caseOf, hfound, Option.map_some, Option.getD_some]
    rw [Case.paramsOf_of_check hasked rfl, hcase, hcaptures, Management.paramsOf] at hparams
    rcases Error.bind_eq_ok_iff.1 hparams with ⟨bytes, -, hread⟩
    have hid := Params.get_captured hmore hread
    refine ⟨hid, ?_⟩
    rw [Subject.owner, hid]
    rfl

/-- The check of one of the gateway's own calls. -/
theorem checkOf?_call (call : Management) : checkOf? call.path call.method = some call.check := by
  rw [checkOf?, (Management.found call).2.2, Option.bind_some, call.check?_operation,
    Option.some_or]

/-- The case of one of the gateway's own calls. -/
theorem caseOf_call (account : Account) (call : Management) :
    caseOf account call.path call.method =
      ⟨some ⟨call.operation, []⟩, none, if account.admin then none else some call.check⟩ := by
  have hfollowup : call.operation.followup? = none := by
    cases call with
    | createGrant kind => cases kind <;> rfl
    | getGrant kind => cases kind <;> rfl
    | updateGrant kind => cases kind <;> rfl
    | deleteGrant kind => cases kind <;> rfl
    | _ => rfl
  simp only [caseOf, (Management.found call).2.2, checkOf?_call, Option.bind_some, hfollowup,
    Option.filter_none]

/-- Whatever handler there is, a request whose body fits is passed on exactly where it is granted:
its path decodes, and either it is open or its sender is a known user, its parameters can be read
where they are needed, and he is an administrator or no check stands in the way. Otherwise the
answer is an error, the same for all handlers, and the tables stay as they are. A check on a logged
model is decided on the segment of the path that names the model. -/
theorem mediation (gateway : Gateway σ) (request : Http.Request) (world : World σ)
    (hfits : gateway.Fits request) :
    (∀ passed, gateway.PassesOn request world passed ↔
      passed = request ∧ gateway.Grants request world) ∧
    (¬ gateway.Grants request world → ∃ (e : Error) (remote : σ), ∀ next : Handler σ,
      (gateway.receive next request).run world = (e.response, ⟨world.ledger, remote⟩)) ∧
    ∀ path found capability, Path.decode request.target.path = .ok path →
      Route.find? path request.method = some found →
      found.operation.check? = some (.capability .loggedModelId capability) →
      ∃ root ∈ Route.apiRoots, ∃ id rest,
        Path.decodeSegments request.target.path =
          .ok (Path.segments (root ++ Route.modelsPath) ++ id :: rest) ∧
        ∀ account params, account.admin = false →
          (caseOf account path request.method).paramsOf request = .ok params →
          params.get "model_id" = .ok id ∧
          Subject.loggedModelId.owner gateway.tracker params = (do
            let experiment ← gateway.tracker.loggedModelExperiment id
            pure (some ⟨.experiment, experiment⟩)) := by
  have htaken := hfits.bounded?_eq
  refine ⟨?_, ?_, ?_⟩
  · intro passed
    rw [passesOn_iff, htaken, Option.some_inj]
    constructor
    · rintro ⟨rfl, hgrants⟩
      exact ⟨rfl, hgrants⟩
    · rintro ⟨rfl, hgrants⟩
      exact ⟨rfl, hgrants⟩
  · intro hnot
    -- Of the three courses that a request can take only the last one is not granted.
    cases gateway.course request world with
    | opened path hdecode hopen => exact absurd ⟨path, hdecode, .inl hopen⟩ hnot
    | served path account params remote hdecode hsender hscreen =>
        exact absurd (grants_of_screen hdecode hsender hscreen) hnot
    | stopped e remote _ hrun =>
        refine ⟨e, remote, ?_⟩
        intro next
        rw [run_receive htaken, hrun]
  · intro path found capability hdecode hfound hcheck
    exact owner_of_models hdecode hfound hcheck

/-- A user asks the gateway about a user. -/
def question (username : String) : Http.Request :=
  ⟨.get, ⟨none, "", Management.getUser.path, some ("username=" ++ username)⟩,
    [("x-remote-user", "ada")], .whole []⟩

/-- A gateway that trusts a proxy, before a tracker in memory. -/
def trusting : Gateway Memory :=
  ⟨Memory.tracker, .read, .remoteUser, 1024, fun _ => pure ⟨200, [], []⟩⟩

/-- A ledger with one user, and no resources. -/
def lone : World Memory :=
  ⟨⟨some ⟨[⟨1, "ada", .password "secret", false⟩], 1⟩, some .empty, some .empty⟩, .empty, 0⟩

/-- What a user asks about himself is granted. -/
theorem grants_question : trusting.Grants (question "ada") lone := by
  have hcase (account : Account) : caseOf account Management.getUser.path
      (question "ada").method = ⟨some ⟨.getUser, []⟩, none, if account.admin then none else
        some .sender⟩ := caseOf_call account .getUser
  have hcheck : checkOf? Management.getUser.path (question "ada").method = some .sender :=
    checkOf?_call .getUser
  refine ⟨_, (Management.found .getUser).1, .inr ⟨⟨1, "ada", .password "secret", false⟩,
    ⟨⟨"ada", none⟩, rfl, rfl⟩, ?_, .inr (.inr ⟨.sender, ⟨[("username", .string "ada")]⟩, hcheck,
      ?_, rfl⟩)⟩⟩
  · intro _
    rw [hcase]
    exact ⟨⟨[("username", .string "ada")]⟩, rfl⟩
  · rw [hcase]
    rfl

/-- A user who asks about himself is passed on. -/
theorem mediation_question :
    trusting.Fits (question "ada") ∧ trusting.PassesOn (question "ada") lone (question "ada") := by
  have hfits : trusting.Fits (question "ada") :=
    ⟨[], rfl, Nat.zero_le _, fun declared hdeclared => nomatch hdeclared⟩
  exact ⟨hfits, ((mediation trusting (question "ada") lone hfits).1 _).2 ⟨rfl, grants_question⟩⟩

end Passing

end Gateway

end Gatehouse
