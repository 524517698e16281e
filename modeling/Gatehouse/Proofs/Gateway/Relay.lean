import Gatehouse.Proofs.Gateway.Mediation
import Gatehouse.Proofs.Visibility

/-!
# What goes through the gateway

A handler is asked once or not at all, and it is asked about the request as it was sent, whether
or not the gateway has read the body for itself. What comes back goes out as it came, unless a
search is narrowed: then the body is another one, and of the fields only the length of the old body
is gone. A failure goes out as it came in every case.

That a handler is asked once is told without counting. What a request comes to is, for all handlers
alike, a function of one answer of the handler: no such function could tell what comes of two.

## Main definitions

* `Hook`: A follow-up with whom and what it concerns.
* `Gateway.Hooks`: What is to follow a success.
* `Gateway.Relays`: What is made of the answer of a handler.

## Theorems

* `Followup.listing_of_replaced`: Only searches are given another body.
* `Gateway.relays_complete`: What is made of an answer with the follow-up of a case.
* `Gateway.relayed`: What the handler is asked, and what its answer comes to.
-/

namespace Gatehouse

open Gatehouse.Action

variable {σ : Type}

namespace Followup

/-- Only a follow-up that narrows a search gives another body. -/
theorem listing_of_replaced {tracker : Tracker σ} {default : Level} {followup : Followup}
    {account : Account} {params : Params} {body new : Json} {world last : World σ}
    (h : exec (followup.run tracker default account params body) world =
      (.ok (.replaced new), last)) : followup.listing?.isSome = true := by
  -- What a creator is granted leaves the response unchanged.
  have hgrant (kind : Kind) (path : List String) (missing : Fault) :
      exec (grantCreator kind path missing account body) world ≠ (.ok (.replaced new), last) := by
    intro h
    unfold grantCreator at h
    split at h
    · exact nomatch (Prod.mk.inj h).1
    · split at h
      · exact nomatch (Prod.mk.inj h).1
      · rcases exec_bind_eq_ok h with ⟨_, _, -, hpure⟩
        exact nomatch (Prod.mk.inj hpure).1
  cases followup with
  | grantExperiment => exact absurd h (hgrant _ _ _)
  | grantModel => exact absurd h (hgrant _ _ _)
  | dropModelGrants =>
      rcases exec_bind_eq_ok h with ⟨_, _, -, hdrop⟩
      rcases exec_bind_eq_ok hdrop with ⟨_, _, -, hpure⟩
      exact nomatch (Prod.mk.inj hpure).1
  | renameModelGrants =>
      rcases exec_bind_eq_ok h with ⟨_, _, -, hname⟩
      rcases exec_bind_eq_ok hname with ⟨_, _, -, hrename⟩
      rcases exec_bind_eq_ok hrename with ⟨_, _, -, hpure⟩
      exact nomatch (Prod.mk.inj hpure).1
  | narrowExperiments => rfl
  | narrowLoggedModels => rfl
  | narrowModels => rfl

end Followup

/-- A follow-up with whom and what it concerns. -/
structure Hook where
  followup : Followup
  account : Account
  params : Params

namespace Gateway

/-- What a follow-up does about a body. -/
def run (gateway : Gateway σ) (hook : Hook) (body : Json) : Action (World σ) Followup.Outcome :=
  hook.followup.run gateway.tracker gateway.default hook.account hook.params body

/-- What is to follow a success of a request: nothing where its path is open, and otherwise what
follows in the case of its sender, with the parameters of the request. -/
inductive Hooks (gateway : Gateway σ) (request : Http.Request) (world : World σ) :
    Option Hook → Prop
  | opened {path : String} (hdecode : Path.decode request.target.path = .ok path)
      (hopen : Path.isOpen path = true) : Hooks gateway request world none
  | served {path : String} {account : Account} {params : Params}
      (hdecode : Path.decode request.target.path = .ok path)
      (hsender : gateway.sender request.headers world.ledger = .ok (some account))
      (hparams : (caseOf account path request.method).paramsOf request = .ok params) :
      Hooks gateway request world ((caseOf account path request.method).followup.map
        fun followup => ⟨followup, account, params⟩)

/-- What is made of the answer of a handler, with what is to follow a success. -/
structure Relays (gateway : Gateway σ) (hook : Option Hook)
    (finish : Http.Response → World σ → Http.Response × World σ) : Prop where
  /-- Without a follow-up, and after a failure, nothing happens to it. -/
  untouched : ∀ response after, hook = none ∨ response.isFailure = true →
    finish response after = (response, after)
  /-- A follow-up that leaves the answer unchanged leaves all of it. -/
  unchanged : ∀ followup response after body last, hook = some followup →
    response.isFailure = false → Json.ofBytes? response.body = some body →
    exec (gateway.run followup body) after = (.ok .unchanged, last) →
    finish response after = (response, last)
  /-- One that gives another body narrows a search, and leaves the status and all fields but the
  length of the body. -/
  replaced : ∀ followup response after body new last, hook = some followup →
    response.isFailure = false → Json.ofBytes? response.body = some body →
    exec (gateway.run followup body) after = (.ok (.replaced new), last) →
    followup.followup.listing?.isSome = true ∧ (finish response after).2 = last ∧
      (finish response after).1.status = response.status ∧
      (finish response after).1.body = new.bytes ∧
      ∀ name, name ≠ "content-length" → (finish response after).1.headers.filter (·.1 = name) =
        response.headers.filter (·.1 = name)
  /-- One that fails is reported in place of the answer. -/
  failed : ∀ followup response after body e last, hook = some followup →
    response.isFailure = false → Json.ofBytes? response.body = some body →
    exec (gateway.run followup body) after = (.error e, last) →
    finish response after = (e.response, last)
  /-- So is a body that is no document, which a follow-up cannot be run on. -/
  unreadable : ∀ followup response after, hook = some followup → response.isFailure = false →
    Json.ofBytes? response.body = none → finish response after = (Error.document.response, after)

section Complete

variable (gateway : Gateway σ) (account : Account) (params : Params)

/-- The answer with the follow-up of a case. -/
def finish (followup : Option Followup) (response : Http.Response) (after : World σ) :
    Http.Response × World σ :=
  settled (exec (gateway.complete followup account params response) after)

variable {followup : Followup} {response : Http.Response}

/-- What is done about a success is what its follow-up does about its body. -/
theorem finish_eq (hsuccess : response.isFailure = false) (after : World σ) :
    gateway.finish account params (some followup) response after =
      settled (exec (gateway.follow followup account params response) after) := by
  rw [finish, complete, if_neg (by rw [hsuccess]; exact Bool.false_ne_true)]

theorem exec_follow {body : Json} (hbody : Json.ofBytes? response.body = some body)
    (followup : Followup) (after : World σ) :
    exec (gateway.follow followup account params response) after =
      match exec (gateway.run ⟨followup, account, params⟩ body) after with
      | (.ok .unchanged, last) => (.ok response, last)
      | (.ok (.replaced new), last) => (.ok { response with
          headers := Http.Headers.remove "content-length" response.headers
          body := new.bytes }, last)
      | (.error e, last) => (.error e, last) := by
  rw [follow, hbody]
  dsimp only
  rw [exec_bind, run]
  rcases exec (followup.run gateway.tracker gateway.default account params body) after with
    ⟨e | outcome, last⟩
  · rfl
  · cases outcome <;> rfl

/-- The fields of another name stay when those of a name are removed. -/
theorem filter_remove {name other : String} (h : other ≠ name) (headers : Http.Headers) :
    (Http.Headers.remove name headers).filter (·.1 = other) = headers.filter (·.1 = other) := by
  rw [Http.Headers.remove, List.filter_filter]
  refine List.filter_congr ?_
  intro field _
  by_cases hfield : field.1 = other
  · simp [hfield, h]
  · simp [hfield]

/-- What is made of an answer with the follow-up of a case. -/
theorem relays_complete (followup : Option Followup) :
    gateway.Relays (followup.map fun followup => ⟨followup, account, params⟩)
      (gateway.finish account params followup) where
  untouched response after h := by
    rcases h with hnone | hfailure
    · rw [Option.map_eq_none_iff] at hnone
      rw [hnone]
      rfl
    · rw [finish, exec_complete_failure followup account params hfailure]
      rfl
  unchanged hook response after body last hhook hsuccess hbody hrun := by
    rcases Option.map_eq_some_iff.1 hhook with ⟨followup, rfl, rfl⟩
    rw [finish_eq gateway account params hsuccess, exec_follow gateway account params hbody, hrun]
    rfl
  replaced hook response after body new last hhook hsuccess hbody hrun := by
    rcases Option.map_eq_some_iff.1 hhook with ⟨followup, rfl, rfl⟩
    rw [finish_eq gateway account params hsuccess, exec_follow gateway account params hbody, hrun]
    refine ⟨Followup.listing_of_replaced hrun, rfl, rfl, rfl, ?_⟩
    intro name hname
    exact filter_remove hname response.headers
  failed hook response after body e last hhook hsuccess hbody hrun := by
    rcases Option.map_eq_some_iff.1 hhook with ⟨followup, rfl, rfl⟩
    rw [finish_eq gateway account params hsuccess, exec_follow gateway account params hbody, hrun]
    rfl
  unreadable hook response after hhook hsuccess hbody := by
    rcases Option.map_eq_some_iff.1 hhook with ⟨followup, rfl, rfl⟩
    rw [finish_eq gateway account params hsuccess, follow, hbody]
    rfl

end Complete

/-- A request whose body fits is answered by the gateway itself, whatever handler there is, or the
handler is asked once, about the request as it was sent. What comes of its answer is the answer
where nothing is to follow or what follows leaves it unchanged, and where it is a failure; where a
search is narrowed it is the answer with another body and without the length of the old one. -/
theorem relayed (gateway : Gateway σ) (request : Http.Request) (world : World σ)
    (hfits : gateway.Fits request) :
    (∃ (e : Error) (remote : σ), ∀ next : Handler σ,
      (gateway.receive next request).run world = (e.response, ⟨world.ledger, remote⟩)) ∨
    ∃ (hook : Option Hook) (remote : σ)
      (finish : Http.Response → World σ → Http.Response × World σ),
      gateway.Hooks request world hook ∧ gateway.Relays hook finish ∧
      ∀ next : Handler σ, (gateway.receive next request).run world =
        let answered := (next request).run ⟨world.ledger, remote⟩
        finish answered.1 answered.2 := by
  have htaken := hfits.bounded?_eq
  cases gateway.course request world with
  | opened path hdecode hopen hrun =>
      refine .inr ⟨none, world.remote, fun response after => (response, after),
        .opened hdecode hopen, ?_, ?_⟩
      · -- Nothing follows on an open path, whoever asks.
        exact gateway.relays_complete ⟨0, "", .password "", false⟩ .empty none
      · intro next
        rw [run_receive htaken, hrun]
        rfl
  | served path account params remote hdecode hsender hscreen hrun =>
      -- The follow-up has the parameters that were read for the check.
      have hparams := (of_screen_ok gateway account request world hscreen).1
      refine .inr ⟨_, remote, gateway.finish account params
        (caseOf account path request.method).followup, .served hdecode hsender hparams,
        gateway.relays_complete account params _, ?_⟩
      intro next
      rw [run_receive htaken, hrun, exec_bind_ok (exec_lift _ _)]
      rfl
  | stopped e remote _ hrun =>
      refine .inl ⟨e, remote, ?_⟩
      intro next
      rw [run_receive htaken, hrun]

/-- A user searches experiments, with the parameters in the body. -/
def searching : Http.Request :=
  ⟨.post, ⟨none, "", "/api/2.0" ++ "/mlflow/experiments/search", none⟩, [("x-remote-user", "ada")],
    .whole (Text.utf8 "{}")⟩

theorem find?_searching : Route.find? searching.target.path searching.method =
    some ⟨.searchExperiments, []⟩ := by
  have hin : (Operation.searchExperiments, "/mlflow/experiments/search",
      [Http.Method.get, Http.Method.post]) ∈ Route.trackingEndpoints := by
    simp [Route.trackingEndpoints]
  exact Route.found_plain hin (List.mem_cons_self : "/api/2.0" ∈ Route.apiRoots)
    (List.mem_cons_of_mem _ List.mem_cons_self) (by decide +kernel)

theorem checkOf?_searching : checkOf? searching.target.path searching.method = none := by
  rw [checkOf?, find?_searching]
  decide +kernel

theorem caseOf_searching (account : Account) :
    caseOf account searching.target.path searching.method =
      ⟨some ⟨.searchExperiments, []⟩, (some .narrowExperiments).filter (Followup.applies account),
        none⟩ := by
  rw [caseOf, find?_searching, checkOf?_searching, ite_self]
  rfl

theorem grants_searching : trusting.Grants searching lone := by
  have hdecode : Path.decode searching.target.path = .ok searching.target.path :=
    Path.decode_eq_self (by decide +kernel) (by decide +kernel)
  refine ⟨_, hdecode, .inr ⟨⟨1, "ada", .password "secret", false⟩,
    ⟨⟨"ada", none⟩, rfl, rfl⟩, ?_, .inr (.inl checkOf?_searching)⟩⟩
  intro _
  rw [caseOf_searching]
  exact ⟨_, rfl⟩

/-- The search is relayed, though its body is read for its parameters. -/
theorem relayed_searching : trusting.Fits searching ∧
    ∃ (hook : Option Hook) (remote : Memory)
      (finish : Http.Response → World Memory → Http.Response × World Memory),
      trusting.Hooks searching lone hook ∧ trusting.Relays hook finish ∧
      ∀ next : Handler Memory, (trusting.receive next searching).run lone =
        let answered := (next searching).run ⟨lone.ledger, remote⟩
        finish answered.1 answered.2 := by
  have hfits : trusting.Fits searching :=
    ⟨_, rfl, by decide +kernel, fun declared hdeclared => nomatch hdeclared⟩
  refine ⟨hfits, (relayed trusting searching lone hfits).resolve_left ?_⟩
  -- What is granted is passed on, so what comes of it is not the same for all handlers.
  rintro ⟨e, remote, hsame⟩
  rcases (passesOn_iff trusting searching lone searching).2 ⟨hfits.bounded?_eq, grants_searching⟩
    with ⟨next, other, -, hdiffer⟩
  exact hdiffer ((hsame next).trans (hsame other).symm)

end Gateway

end Gatehouse
