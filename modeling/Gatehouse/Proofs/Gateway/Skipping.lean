import Gatehouse.Proofs.Gateway.Mediation

/-!
# Parameters that are not read

The gateway reads the parameters of a request only if its check or its follow-up needs them, and the
body only if the parameters stand there. Otherwise the check and the follow-up get no parameters at
all, and the parameters are taken from no bytes. That is told by flags which are written apart from
what they are about, so they could come to differ from it; a check that needs parameters and gets
none would be decided on nothing.

The flags are exact. Where one of them says that something is not needed, it makes no difference
what it would have been, from any tables and with any tracker. Where it says that something is
needed, there are two cases in which it makes a difference, so nothing is read in vain.

## Main definitions

* `Check.IgnoresParams`, `Followup.IgnoresParams`: Parameters make no difference.
* `Params.IgnoresBody`: The body makes no difference to the parameters.
* `Gateway.serveWith`: The answer to a request with given parameters.

## Theorems

* `Check.needsParams_eq_false_iff`, `Followup.needsParams_eq_false_iff`: Which checks and follow-ups
  need parameters.
* `Params.needsBody_eq_false_iff`: Which requests have their parameters in the body.
* `Gateway.exec_serve_eq`: The parameters with which a request is answered.
* `Gateway.skipping_exact`: What is not read makes no difference, and all else does.
-/

namespace Gatehouse

open Gatehouse.Action

/-- Parameters make no difference to a check: with any of them it comes to what it comes to without,
whoever is checked, whatever the tables hold and whatever the tracker says. -/
def Check.IgnoresParams (check : Check) : Prop :=
  ∀ {σ : Type} (gateway : Gateway σ) (account : Account) (params : Params) (world : World σ),
    exec (gateway.evaluate account params check) world =
      exec (gateway.evaluate account .empty check) world

/-- Parameters make no difference to a follow-up: with any of them it has the same outcome and
leaves the same tables as without, whoever is followed up and whatever the response. -/
def Followup.IgnoresParams (followup : Followup) : Prop :=
  ∀ {σ : Type} (tracker : Tracker σ) (default : Level) (account : Account) (params : Params)
    (body : Json) (world : World σ),
    exec (followup.run tracker default account params body) world =
      exec (followup.run tracker default account .empty body) world

/-- The body of a request makes no difference to its parameters. -/
def Params.IgnoresBody (method : Http.Method) (headers : Http.Headers) : Prop :=
  ∀ (query : Option String) (body : Bytes) (captures : List (String × String)),
    ofRequest method headers query body captures = ofRequest method headers query [] captures

/-- Somebody who is no administrator. -/
def somebody : Account := ⟨1, "ada", .password "secret", false⟩

/-- Parameters with one name that stands for `x`. -/
def Params.naming (name : String) : Params := ⟨[(name, .string "x")]⟩

namespace Check

/-- A check for which a name is missed without parameters and not with it does make something of
them. -/
theorem not_ignoresParams {check : Check} (name : String) {missed : String}
    (hnone : (exec (Gateway.trusting.evaluate somebody .empty check) Gateway.lone).1 =
      .error (.missingParameter missed))
    (hnamed : (exec (Gateway.trusting.evaluate somebody (.naming name) check) Gateway.lone).1 ≠
      .error (.missingParameter missed)) : ¬ check.IgnoresParams := by
  intro h
  rw [h Gateway.trusting, hnone] at hnamed
  exact hnamed rfl

/-- A check that is said to need parameters misses the name that it is about. -/
theorem not_ignoresParams_of_needsParams {check : Check} (h : check.needsParams = true) :
    ¬ check.IgnoresParams := by
  cases check with
  | admin => exact nomatch h
  | sender => exact not_ignoresParams "username" rfl (by nofun)
  | capability subject capability =>
      cases subject with
      | artifact experiment => exact nomatch h
      | experimentId => exact not_ignoresParams "experiment_id" rfl (by nofun)
      | experimentName => exact not_ignoresParams "experiment_name" rfl (by nofun)
      | runId => exact not_ignoresParams "run_id" rfl (by nofun)
      | loggedModelId => exact not_ignoresParams "model_id" rfl (by nofun)
      | modelName => exact not_ignoresParams "name" rfl (by nofun)

/-- The checks that are said to need parameters are those to which they make a difference. -/
theorem needsParams_eq_false_iff (check : Check) :
    check.needsParams = false ↔ check.IgnoresParams := by
  constructor
  · intro h
    cases check with
    | admin => exact fun _ _ _ _ => rfl
    | sender => exact nomatch h
    | capability subject capability =>
        cases subject with
        | artifact experiment => exact fun _ _ _ _ => rfl
        | _ => exact nomatch h
  · intro h
    rw [← Bool.not_eq_true]
    -- For each check that needs parameters there are some that it tells from none.
    exact fun hneeds => not_ignoresParams_of_needsParams hneeds h

end Check

namespace Followup

/-- The follow-ups that are said to need parameters are those to which they make a difference. -/
theorem needsParams_eq_false_iff (followup : Followup) :
    followup.needsParams = false ↔ followup.IgnoresParams := by
  constructor
  · intro h
    cases followup with
    | grantExperiment => exact fun _ _ _ _ _ _ => rfl
    | grantModel => exact fun _ _ _ _ _ _ => rfl
    | _ => exact nomatch h
  · intro h
    -- Names are missed without parameters, and a limit that is no number fails with them.
    have hnames := h Memory.tracker .read somebody
      ⟨[("name", .string "x"), ("new_name", .string "y")]⟩ .null Gateway.lone
    have hlimit := h Memory.tracker .read somebody (.naming "max_results") .null Gateway.lone
    cases followup with
    | grantExperiment => rfl
    | grantModel => rfl
    | dropModelGrants => exact nomatch (Prod.mk.inj hnames).1
    | renameModelGrants => exact nomatch (Prod.mk.inj hnames).1
    | narrowExperiments => exact nomatch (Prod.mk.inj hlimit).1
    | narrowLoggedModels => exact nomatch (Prod.mk.inj hlimit).1
    | narrowModels => exact nomatch (Prod.mk.inj hlimit).1

end Followup

namespace Params

variable {method : Http.Method} {headers : Http.Headers}

/-- Where the body is needed the parameters are its members. -/
theorem sourceValues_of_needsBody (h : needsBody method headers = true) (query : Option String)
    (body : Bytes) : sourceValues method headers query body = ofBody body := by
  cases method with
  | post => rfl
  | patch => rfl
  | delete => exact if_pos h
  | _ => exact nomatch h

/-- The requests that are said to need their body are those whose parameters depend on it. -/
theorem needsBody_eq_false_iff (method : Http.Method) (headers : Http.Headers) :
    needsBody method headers = false ↔ IgnoresBody method headers := by
  constructor
  · intro h query body captures
    exact ofRequest_body h query body [] captures
  · intro h
    by_contra hneeds
    rw [Bool.not_eq_false] at hneeds
    -- A single letter is no document, and no bytes at all are no parameters.
    have hletter : ofBody [120] = .error (.badRequest .bodyNotJson) := rfl
    have hblank : ofBody [] = .ok [] := rfl
    have hsame := h none [120] []
    rw [ofRequest, ofRequest, sourceValues_of_needsBody hneeds, sourceValues_of_needsBody hneeds,
      hletter, hblank] at hsame
    simp only [Except.map, reduceCtorEq] at hsame

end Params

/-- Where the body of a request is not needed its parameters are those of any bytes. -/
theorem Management.paramsOf_bodiless {request : Http.Request}
    (h : Params.needsBody request.method request.headers = false)
    (captures : List (String × String)) (bytes : Bytes) : Management.paramsOf request captures =
      Params.ofRequest request.method request.headers request.target.query bytes captures := by
  rw [Management.paramsOf, Management.neededBody, h]
  exact (Params.ofRequest_body h _ bytes [] captures).symm

namespace Gateway

section Congr

variable {σ : Type} (gateway : Gateway σ) (account : Account) (params : Params)

/-- Checks to which parameters make no difference stop the same requests with all of them. -/
theorem demand_congr {check : Option Check} (h : ∀ c ∈ check, c.IgnoresParams) :
    gateway.demand account params check = gateway.demand account .empty check := by
  cases check with
  | none => rfl
  | some check =>
      have hcheck : gateway.evaluate account params check = gateway.evaluate account .empty check :=
        Action.ext (h check rfl gateway account params)
      rw [demand, hcheck]
      rfl

/-- Follow-ups to which parameters make no difference complete a response alike with all of them. -/
theorem complete_congr {followup : Option Followup} (h : ∀ f ∈ followup, f.IgnoresParams)
    (response : Http.Response) : gateway.complete followup account params response =
      gateway.complete followup account .empty response := by
  cases followup with
  | none => rfl
  | some followup =>
      have hrun (body : Json) :
          followup.run gateway.tracker gateway.default account params body =
            followup.run gateway.tracker gateway.default account .empty body :=
        Action.ext (h followup rfl gateway.tracker gateway.default account params body)
      have hfollow : gateway.follow followup account params response =
          gateway.follow followup account .empty response := by
        rw [follow, follow]
        cases Json.ofBytes? response.body with
        | none => rfl
        | some body =>
            dsimp only
            rw [hrun]
      rw [complete, complete, hfollow]

end Congr

/-- The flag of a case is exact: parameters are not needed in it where they make no difference to
its check nor to its follow-up. -/
theorem Case.needsParams_eq_false_iff (c : Case) : c.needsParams = false ↔
    (∀ check ∈ c.check, check.IgnoresParams) ∧
      ∀ followup ∈ c.followup, followup.IgnoresParams := by
  rw [needsParams, Bool.or_eq_false_iff, Option.any_eq_false, Option.any_eq_false]
  refine and_congr ?_ ?_
  · exact forall₂_congr fun check _ => check.needsParams_eq_false_iff
  · exact forall₂_congr fun followup _ => followup.needsParams_eq_false_iff

/-- The answer to a request of a known sender with parameters that were read for it. -/
def serveWith {σ : Type} (gateway : Gateway σ) (next : Handler σ) (account : Account)
    (path : String) (request : Http.Request) (read : Except Error Params) :
    Action (World σ) Http.Response := do
  let params ← Action.of read
  gateway.demand account params (caseOf account path request.method).check
  let response ← next request
  gateway.complete (caseOf account path request.method).followup account params response

section Serve

variable {σ : Type} (gateway : Gateway σ) (next : Handler σ) (account : Account) (path : String)
  (request : Http.Request) (world : World σ)

/-- A request is answered with the parameters of its case. -/
theorem exec_serve_eq : exec (gateway.serve next account path request) world =
    exec (gateway.serveWith next account path request
      ((caseOf account path request.method).paramsOf request)) world := by
  cases hparams : (caseOf account path request.method).paramsOf request with
  | error e =>
      rw [exec_serve, screen, exec_bind_of_error hparams, serveWith, exec_bind_of_error rfl]
  | ok params =>
      rw [exec_serve, screen, exec_bind_of_ok hparams, serveWith, exec_bind_of_ok rfl, exec_bind,
        exec_bind]
      rcases exec (gateway.demand account params (caseOf account path request.method).check) world
        with ⟨e | _, after⟩
      · rfl
      · rfl

/-- Where parameters are not needed a request is answered as with any. -/
theorem exec_serve_unneeded (h : (caseOf account path request.method).needsParams = false)
    (params : Params) : exec (gateway.serve next account path request) world =
      exec (gateway.serveWith next account path request (.ok params)) world := by
  have hnone : (caseOf account path request.method).paramsOf request = .ok .empty := by
    rw [Case.paramsOf, h]
    rfl
  rcases (Case.needsParams_eq_false_iff _).1 h with ⟨hcheck, hfollowup⟩
  rw [exec_serve_eq, hnone, serveWith, serveWith, exec_bind_of_ok rfl, exec_bind_of_ok rfl,
    gateway.demand_congr account params hcheck]
  simp only [gateway.complete_congr account params hfollowup]

/-- Where parameters are needed and the body is not, a request is answered as with any body. -/
theorem exec_serve_bodiless (h : (caseOf account path request.method).needsParams = true)
    (hbody : Params.needsBody request.method request.headers = false) (bytes : Bytes) :
    exec (gateway.serve next account path request) world =
      exec (gateway.serveWith next account path request
        (Params.ofRequest request.method request.headers request.target.query bytes
          (caseOf account path request.method).captures)) world := by
  have hread : (caseOf account path request.method).paramsOf request =
      Params.ofRequest request.method request.headers request.target.query bytes
        (caseOf account path request.method).captures := by
    rw [Case.paramsOf, if_pos h, Management.paramsOf_bodiless hbody]
  rw [exec_serve_eq, hread]

end Serve

/-- What is not read makes no difference, and nothing is read in vain. The parameters of a request
are said not to be needed exactly where its check and its follow-up come to the same with any
parameters as with none, from any tables and with any tracker; and its body is said not to be needed
exactly where its parameters are the same with any bytes as with none. So a request is answered as
it is with any parameters where these are not read, and as with those of any body where that is not
read. -/
theorem skipping_exact :
    (∀ c : Case, c.needsParams = false ↔
      (∀ check ∈ c.check, check.IgnoresParams) ∧
        ∀ followup ∈ c.followup, followup.IgnoresParams) ∧
    (∀ method headers, Params.needsBody method headers = false ↔
      Params.IgnoresBody method headers) ∧
    ∀ {σ : Type} (gateway : Gateway σ) (next : Handler σ) (account : Account) (path : String)
      (request : Http.Request) (world : World σ),
      ((caseOf account path request.method).needsParams = false → ∀ params,
        exec (gateway.serve next account path request) world =
          exec (gateway.serveWith next account path request (.ok params)) world) ∧
      ((caseOf account path request.method).needsParams = true →
        Params.needsBody request.method request.headers = false → ∀ bytes,
        exec (gateway.serve next account path request) world =
          exec (gateway.serveWith next account path request
            (Params.ofRequest request.method request.headers request.target.query bytes
              (caseOf account path request.method).captures)) world) := by
  refine ⟨Case.needsParams_eq_false_iff, Params.needsBody_eq_false_iff, ?_⟩
  intro σ gateway next account path request world
  exact ⟨exec_serve_unneeded gateway next account path request world,
    exec_serve_bodiless gateway next account path request world⟩

/-- An upload of an artifact, with a grant to the creator of an experiment behind it. -/
def upkeep : Case :=
  ⟨none, some .grantExperiment, some (.capability (.artifact (some "1")) .update)⟩

/-- No parameters are needed to check an upload or to grant a level to a creator, nor for an
administrator who asks about a user. Anybody else needs them for that, but not the body, and a
request to delete does not need its body unless that is a document. -/
theorem skipping_exact_question :
    (upkeep.needsParams = false ∧ ∀ check ∈ upkeep.check, check.IgnoresParams) ∧
    (Params.needsBody .delete [] = false ∧
      Params.ofRequest .delete [] (some "name=m") [120] [] =
        Params.ofRequest .delete [] (some "name=m") [] []) ∧
    ((caseOf { somebody with admin := true } Management.getUser.path .get).needsParams = false ∧
      exec (trusting.serve trusting.pass { somebody with admin := true } Management.getUser.path
          (question "ada")) lone =
        exec (trusting.serveWith trusting.pass { somebody with admin := true }
          Management.getUser.path (question "ada") (.ok (.naming "username"))) lone) ∧
    (caseOf somebody Management.getUser.path .get).needsParams = true ∧
      Params.needsBody .get (question "ada").headers = false ∧
      exec (trusting.serve trusting.pass somebody Management.getUser.path (question "ada")) lone =
        exec (trusting.serveWith trusting.pass somebody Management.getUser.path (question "ada")
          (Params.ofRequest .get (question "ada").headers (some "username=ada") [120] []))
        lone := by
  -- An administrator is not checked; anybody else is compared with the user he asks about.
  have hcase (account : Account) : caseOf account Management.getUser.path .get =
      ⟨some ⟨.getUser, []⟩, none, if account.admin then none else some .sender⟩ :=
    caseOf_call account .getUser
  have hupkeep : upkeep.needsParams = false := rfl
  have hdelete : Params.needsBody .delete [] = false := rfl
  have hadmin : (caseOf { somebody with admin := true } Management.getUser.path .get).needsParams =
      false := by
    rw [hcase]
    rfl
  have hneeds : (caseOf somebody Management.getUser.path .get).needsParams = true := by
    rw [hcase]
    rfl
  have hcaptures : (caseOf somebody Management.getUser.path .get).captures = [] := by
    rw [hcase]
    rfl
  have hget : Params.needsBody .get (question "ada").headers = false := rfl
  refine ⟨⟨hupkeep, ?_⟩, ⟨hdelete, ?_⟩, ⟨hadmin, ?_⟩, hneeds, hget, ?_⟩
  · exact ((skipping_exact.1 upkeep).1 hupkeep).1
  · exact (skipping_exact.2.1 _ _).1 hdelete (some "name=m") [120] []
  · exact (skipping_exact.2.2 trusting trusting.pass _ _ (question "ada") lone).1 hadmin _
  · rw [← hcaptures]
    exact (skipping_exact.2.2 trusting trusting.pass _ _ (question "ada") lone).2 hneeds hget [120]

end Gateway

end Gatehouse
