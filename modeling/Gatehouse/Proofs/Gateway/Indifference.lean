import Gatehouse.Proofs.Gateway.Mediation
import Gatehouse.Proofs.Ledger.Rows

/-!
# What a decision depends on

Whether a request goes on depends on its sender and on his grant on one resource, and on nothing
else that the ledger holds. Two ledgers are compared: both have their unique indexes, they say the
same of the account that the request claims to come from, and the same of the grant of its user on
the resource that the check finds. Other users, other grants and all ids may differ. Then the two
runs of a request go side by side, step for step, until it is passed on in both of them or is
answered with the same error in both.

The resource is found by the tracker, so it may be the experiment of a run or of a logged model;
it is found in the same way on both sides, since nothing of it is read from the ledger.

## Main definitions

* `Authn.claimed?`: The name that a request claims.
* `Gateway.Locates`: The resource whose grants decide the check of a request.
* `World.Alike`: Two steps with one outcome, each on its own ledger.

## Theorems

* `World.Alike.bind`: Steps in turn go side by side.
* `Gateway.sender_alike`: The sender is found in both ledgers or in neither.
* `Gateway.alike_screen`: The check of a request goes side by side.
* `Gateway.indifferent`: What a decision depends on.
-/

namespace Gatehouse

open Gatehouse.Action

variable {σ α β : Type}

/-- The name that a request claims to come from, if it claims one. -/
def Authn.claimed? (scheme : Scheme) (headers : Http.Headers) : Option String :=
  match scheme with
  | .basic => (basicCredentials? headers).map (·.1)
  | .remoteUser => remoteUser? headers

namespace Authn

variable {scheme : Scheme} {headers : Http.Headers} {ledger other : Ledger}

/-- Who is told where somebody is verified is he. -/
theorem eq_of_verified {verified : Except Error Bool} {shown told : Credentials}
    (h : verified.map (fun holds => if holds then some shown else none) = .ok (some told)) :
    shown = told := by
  cases verified with
  | error e => exact nomatch h
  | ok holds =>
      cases holds with
      | false => exact nomatch h
      | true => exact Option.some.inj (Except.ok.inj h)

/-- Whoever is verified is the one that the request claims to come from. -/
theorem claimed_of_authenticate {credentials : Credentials}
    (h : authenticate scheme headers ledger = .ok (some credentials)) :
    claimed? scheme headers = some credentials.username := by
  -- Both schemes read a name from the request, and verify nobody else.
  cases scheme with
  | basic =>
      rw [authenticate] at h
      rw [claimed?]
      cases hbasic : basicCredentials? headers with
      | none =>
          rw [hbasic] at h
          cases h
      | some pair =>
          rw [hbasic] at h
          rw [← eq_of_verified h, Option.map_some]
  | remoteUser =>
      rw [authenticate] at h
      rw [claimed?]
      cases hremote : remoteUser? headers with
      | none =>
          rw [hremote] at h
          cases h
      | some username =>
          rw [hremote] at h
          rw [← eq_of_verified h]

/-- Verifying depends on the secret of the account that is claimed, and on whether there is one. -/
theorem authenticate_congr (h : ∀ username, claimed? scheme headers = some username →
    (∃ a b, ledger.findAccount username = .ok a ∧ other.findAccount username = .ok b ∧
      a.secret = b.secret) ∨
    ∃ e, ledger.findAccount username = .error e ∧ other.findAccount username = .error e) :
    authenticate scheme headers ledger = authenticate scheme headers other := by
  cases scheme with
  | basic =>
      rw [authenticate, authenticate]
      cases hbasic : basicCredentials? headers with
      | none => rfl
      | some pair =>
          dsimp only
          rw [Ledger.authenticate, Ledger.authenticate]
          -- Of the ledger only the account of the name is asked for.
          rcases h pair.1 (by rw [claimed?, hbasic, Option.map_some]) with
            ⟨a, b, ha, hb, hsecret⟩ | ⟨e, ha, hb⟩
          · rw [ha, hb]
            dsimp only
            rw [hsecret]
          · rw [ha, hb]
  | remoteUser =>
      rw [authenticate, authenticate]
      cases hremote : remoteUser? headers with
      | none => rfl
      | some username =>
          dsimp only
          rw [Ledger.hasUser, Ledger.hasUser]
          rcases h username (by rw [claimed?, hremote]) with ⟨a, b, ha, hb, -⟩ | ⟨e, ha, hb⟩
          · rw [ha, hb]
          · rw [ha, hb]

end Authn

namespace World

/-- Two steps have one outcome and do the same behind the gateway, and each leaves its ledger as it
was. -/
def Alike (ledger other : Ledger) (remote : σ) (x y : Action (World σ) α) : Prop :=
  ∃ outcome after, exec x ⟨ledger, remote⟩ = (outcome, ⟨ledger, after⟩) ∧
    exec y ⟨other, remote⟩ = (outcome, ⟨other, after⟩)

namespace Alike

variable {ledger other : Ledger} {remote : σ}

theorem of (outcome : Except Error α) :
    Alike ledger other remote (Action.of outcome) (Action.of outcome) :=
  ⟨outcome, remote, rfl, rfl⟩

theorem pure (a : α) : Alike ledger other remote (Pure.pure a) (Pure.pure a) :=
  ⟨.ok a, remote, rfl, rfl⟩

theorem throw (e : Error) :
    Alike ledger other remote (MonadExcept.throw e : Action (World σ) α) (MonadExcept.throw e) :=
  ⟨.error e, remote, rfl, rfl⟩

theorem readLedger {f : Ledger → Except Error α} (h : f ledger = f other) :
    Alike ledger other remote (World.readLedger f) (World.readLedger f) :=
  ⟨f ledger, remote, rfl, by rw [exec_readLedger, h]⟩

theorem onRemote (action : Action σ α) :
    Alike ledger other remote (World.onRemote action) (World.onRemote action) :=
  ⟨_, _, exec_onRemote action _, exec_onRemote action _⟩

/-- What follows need only go side by side from where the first steps have led. -/
theorem bind {x y : Action (World σ) α} {f g : α → Action (World σ) β}
    (h : Alike ledger other remote x y)
    (hnext : ∀ a after, exec x ⟨ledger, remote⟩ = (.ok a, ⟨ledger, after⟩) →
      Alike ledger other after (f a) (g a)) : Alike ledger other remote (x >>= f) (y >>= g) := by
  rcases h with ⟨outcome, after, hx, hy⟩
  cases outcome with
  | error e => exact ⟨.error e, after, exec_bind_error hx, exec_bind_error hy⟩
  | ok a =>
      rcases hnext a after hx with ⟨last, final, hf, hg⟩
      exact ⟨last, final, (exec_bind_ok hx).trans hf, (exec_bind_ok hy).trans hg⟩

end Alike

end World

namespace Gateway

open World

/-- The resource whose grants decide the check of a request: what the check is decided on belongs to
it, in the case of the sender and with the parameters of the request. -/
def Locates (gateway : Gateway σ) (request : Http.Request) (world : World σ) (owner : Owner) :
    Prop :=
  ∃ taken path account subject capability params after,
    gateway.bounded? request = some taken ∧ Path.decode taken.target.path = .ok path ∧
    gateway.sender taken.headers world.ledger = .ok (some account) ∧
    (caseOf account path taken.method).check = some (.capability subject capability) ∧
    (caseOf account path taken.method).paramsOf taken = .ok params ∧
    exec (subject.owner gateway.tracker params) world.remote = (.ok (some owner), after)

section Sender

variable {gateway : Gateway σ} {headers : Http.Headers} {ledger other : Ledger}

/-- In two ledgers that say the same of whom a request claims to come from, the sender is found in
both or in neither, with the same name and the same rank. -/
theorem sender_alike (h : ledger.Unique) (hother : other.Unique)
    (hsame : ∀ username, Authn.claimed? gateway.scheme headers = some username →
      ledger.SameAccount other username) :
    (∃ a b, gateway.sender headers ledger = .ok (some a) ∧
      gateway.sender headers other = .ok (some b) ∧ a.username = b.username ∧ a.admin = b.admin ∧
      Authn.claimed? gateway.scheme headers = some a.username) ∨
    ((∀ account, gateway.sender headers ledger ≠ .ok (some account)) ∧
      gateway.sender headers ledger = gateway.sender headers other) := by
  have hfind (username : String)
      (hclaimed : Authn.claimed? gateway.scheme headers = some username) :=
    h.findAccount_congr hother (hsame username hclaimed)
  have hverified : Authn.authenticate gateway.scheme headers ledger =
      Authn.authenticate gateway.scheme headers other := by
    refine Authn.authenticate_congr ?_
    intro username hclaimed
    rcases hfind username hclaimed with ⟨a, b, ha, hb, -, -, hsecret, -⟩ | ⟨ha, hb⟩
    · exact .inl ⟨a, b, ha, hb, hsecret⟩
    · exact .inr ⟨_, ha, hb⟩
  -- Verifying comes to the same, so the lookup of the account is left.
  unfold sender
  rw [← hverified]
  cases hcredentials : Authn.authenticate gateway.scheme headers ledger with
  | error e => exact .inr ⟨fun account hsome => (nomatch hsome), rfl⟩
  | ok found =>
      cases found with
      | none => exact .inr ⟨fun account hsome => (nomatch hsome), rfl⟩
      | some credentials =>
          -- Whoever is verified is the one who is claimed, of whom both ledgers say the same.
          have hclaimed := Authn.claimed_of_authenticate hcredentials
          rcases hfind credentials.username hclaimed with
            ⟨a, b, ha, hb, hnameA, hnameB, -, hadmin⟩ | ⟨ha, hb⟩
          · refine .inl ⟨a, b, ?_, ?_, hnameA.trans hnameB.symm, hadmin, by rw [hclaimed, hnameA]⟩
            · simp only [bind, Except.bind, ha]
            · simp only [bind, Except.bind, hb]
          · refine .inr ⟨?_, ?_⟩
            · intro account hsome
              simp only [bind, Except.bind, ha] at hsome
              exact nomatch hsome
            · simp only [bind, Except.bind, ha, hb]

end Sender

section Check

variable {gateway : Gateway σ} {a b : Account}

/-- What is decided about a sender depends on his rank. -/
theorem caseOf_congr (hadmin : a.admin = b.admin) (path : String) (method : Http.Method) :
    caseOf a path method = caseOf b path method := by
  have happlies : Followup.applies a = Followup.applies b := by
    funext followup
    cases followup <;> simp only [Followup.applies, hadmin]
  rw [caseOf, caseOf, hadmin, happlies]

variable {ledger other : Ledger} {remote : σ} {params : Params}

/-- A check goes side by side if the levels on what it is decided on are the same. -/
theorem alike_evaluate (hname : a.username = b.username) (hadmin : a.admin = b.admin)
    (check : Check) (hlevel : ∀ subject capability owner after,
      check = .capability subject capability →
      exec (subject.owner gateway.tracker params) remote = (.ok (some owner), after) →
      ledger.levelOn gateway.default (some owner) a.username =
        other.levelOn gateway.default (some owner) a.username) :
    Alike ledger other remote (gateway.evaluate a params check)
      (gateway.evaluate b params check) := by
  cases check with
  | admin =>
      rw [evaluate, evaluate, hadmin]
      exact .pure _
  | sender =>
      rw [evaluate, evaluate, hname]
      exact .bind (.of _) fun _ _ _ => .pure _
  | capability subject capability =>
      rw [evaluate, evaluate, hname]
      -- The tracker finds the owner without a look at either ledger, and then the level is read.
      refine .bind (.bind (.onRemote _) ?_) fun _ _ _ => .pure _
      intro owner after howner
      refine .readLedger ?_
      cases owner with
      | none => rfl
      | some owner =>
          rw [exec_onRemote] at howner
          obtain ⟨hfound, hafter⟩ := Prod.mk.inj howner
          rw [← hname]
          exact hlevel subject capability owner after rfl
            (Prod.ext hfound (congrArg World.remote hafter))

/-- The check of a request goes side by side, with the resource that it finds. -/
theorem alike_screen (hname : a.username = b.username) (hadmin : a.admin = b.admin) (c : Case)
    (request : Http.Request) (hlevel : ∀ subject capability params owner after,
      c.check = some (.capability subject capability) →
      c.paramsOf request = .ok params →
      exec (subject.owner gateway.tracker params) remote = (.ok (some owner), after) →
      ledger.levelOn gateway.default (some owner) a.username =
        other.levelOn gateway.default (some owner) a.username) :
    Alike ledger other remote (gateway.screen a c request) (gateway.screen b c request) := by
  refine .bind (.of _) ?_
  intro params after hparams
  -- Reading parameters asks nobody, so the check starts where the request did.
  rw [exec_of] at hparams
  obtain ⟨hread, hsame⟩ := Prod.mk.inj hparams
  obtain rfl : remote = after := congrArg World.remote hsame
  refine .bind ?_ fun _ _ _ => .pure params
  cases hcheck : c.check with
  | none => exact .pure _
  | some check =>
      refine .bind (alike_evaluate hname hadmin check ?_) ?_
      · intro subject capability owner after hcapability howner
        rw [hcapability] at hcheck
        exact hlevel subject capability params owner after hcheck hread howner
      · intro holds _ _
        cases holds with
        | true => exact .pure _
        | false => exact .throw _

end Check

/-- What comes of a request in two ledgers: it is passed on in both, or it is answered in both with
the same failure, whatever handler there is. -/
inductive Verdict (gateway : Gateway σ) (request : Http.Request) (ledger other : Ledger)
    (remote : σ) : Prop
  | passed (taken : Http.Request) (htaken : gateway.bounded? request = some taken)
      (hgrants : gateway.Grants taken ⟨ledger, remote⟩)
      (hother : gateway.Grants taken ⟨other, remote⟩)
  | stopped (response : Http.Response) (after : σ) (hfailure : response.isFailure = true)
      (hrun : ∀ next : Handler σ,
        (gateway.receive next request).run ⟨ledger, remote⟩ = (response, ⟨ledger, after⟩) ∧
        (gateway.receive next request).run ⟨other, remote⟩ = (response, ⟨other, after⟩))

theorem isFailure_response (e : Error) : e.response.isFailure = true := by
  rw [Http.Response.isFailure, e.response_status]
  cases e <;> rfl

section Verdict

variable {gateway : Gateway σ} {request taken : Http.Request} {ledger other : Ledger} {remote : σ}

/-- What fails in the same way in both ledgers is answered in the same way. -/
theorem Verdict.failed (htaken : gateway.bounded? request = some taken) (e : Error) (after : σ)
    (h : ∀ next : Handler σ,
      exec (gateway.authorize next taken) ⟨ledger, remote⟩ = (.error e, ⟨ledger, after⟩) ∧
      exec (gateway.authorize next taken) ⟨other, remote⟩ = (.error e, ⟨other, after⟩)) :
    gateway.Verdict request ledger other remote := by
  refine .stopped e.response after (isFailure_response e) ?_
  intro next
  rw [run_receive htaken, run_receive htaken, (h next).1, (h next).2]
  exact ⟨rfl, rfl⟩

/-- A request for a path that is not open comes to the same in both ledgers. -/
theorem verdict_closed (h : ledger.Unique) (hother : other.Unique)
    (htaken : gateway.bounded? request = some taken) {path : String}
    (hdecode : Path.decode taken.target.path = .ok path) (hclosed : ¬ Path.isOpen path = true)
    (haccount : ∀ username, Authn.claimed? gateway.scheme request.headers = some username →
      ledger.SameAccount other username)
    (hgrant : ∀ username, Authn.claimed? gateway.scheme request.headers = some username →
      ∀ owner, gateway.Locates request ⟨ledger, remote⟩ owner →
        ledger.SameGrant other owner username) :
    gateway.Verdict request ledger other remote := by
  have hheaders := headers_of_bounded? htaken
  rw [← hheaders] at haccount hgrant
  have hleft := gateway.exec_authorize_closed ⟨ledger, remote⟩ hdecode hclosed
  have hright := gateway.exec_authorize_closed ⟨other, remote⟩ hdecode hclosed
  rcases sender_alike h hother haccount with
    ⟨a, b, ha, hb, hname, hadmin, hclaimed⟩ | ⟨hnobody, hsame⟩
  · -- The sender is found in both, so the check decides, and it decides alike.
    have hlevel : ∀ subject capability params owner after,
        (caseOf a path taken.method).check = some (.capability subject capability) →
        (caseOf a path taken.method).paramsOf taken = .ok params →
        exec (subject.owner gateway.tracker params) remote = (.ok (some owner), after) →
        ledger.levelOn gateway.default (some owner) a.username =
          other.levelOn gateway.default (some owner) a.username := by
      intro subject capability params owner after hcheck hparams howner
      exact h.levelOn_congr hother (hgrant a.username hclaimed owner ⟨taken, path, a, subject,
        capability, params, after, htaken, hdecode, ha, hcheck, hparams, howner⟩) gateway.default
    rcases alike_screen hname hadmin (caseOf a path taken.method) taken hlevel with
      ⟨outcome, after, hscreen, hscreenOther⟩
    rw [caseOf_congr hadmin] at hscreenOther
    cases outcome with
    | ok params =>
        exact .passed taken htaken (grants_of_screen hdecode ha hscreen)
          (grants_of_screen hdecode hb hscreenOther)
    | error e =>
        refine .failed htaken e after ?_
        intro next
        rw [hleft, hright, ha, hb]
        dsimp only
        rw [exec_serve, exec_serve, hscreen, hscreenOther]
        exact ⟨rfl, rfl⟩
  · -- Nobody is found in either, and both say so in the same way.
    cases hsender : gateway.sender taken.headers ledger with
    | error e =>
        refine .failed htaken e remote ?_
        intro next
        rw [hleft, hright, ← hsame, hsender]
        exact ⟨rfl, rfl⟩
    | ok found =>
        cases found with
        | some account => exact absurd hsender (hnobody account)
        | none =>
            refine .stopped Error.challenge remote rfl ?_
            intro next
            rw [run_receive htaken, run_receive htaken, hleft, hright, ← hsame, hsender]
            exact ⟨rfl, rfl⟩

/-- So does every other request. -/
theorem verdict (h : ledger.Unique) (hother : other.Unique)
    (haccount : ∀ username, Authn.claimed? gateway.scheme request.headers = some username →
      ledger.SameAccount other username)
    (hgrant : ∀ username, Authn.claimed? gateway.scheme request.headers = some username →
      ∀ owner, gateway.Locates request ⟨ledger, remote⟩ owner →
        ledger.SameGrant other owner username) :
    gateway.Verdict request ledger other remote := by
  -- What stops a request before its sender is looked up is seen in no ledger.
  cases htaken : gateway.bounded? request with
  | none =>
      refine .stopped tooLarge remote rfl ?_
      intro next
      rw [receive, htaken]
      exact ⟨rfl, rfl⟩
  | some taken =>
      cases hdecode : Path.decode taken.target.path with
      | error e =>
          refine .failed htaken e remote ?_
          intro next
          rw [authorize, exec_bind_of_error hdecode, exec_bind_of_error hdecode]
          exact ⟨rfl, rfl⟩
      | ok path =>
          by_cases hopen : Path.isOpen path = true
          · exact .passed taken htaken ⟨path, hdecode, .inl hopen⟩ ⟨path, hdecode, .inl hopen⟩
          · exact verdict_closed h hother htaken hdecode hopen haccount hgrant

end Verdict

/-- What is decided about a request depends on nothing that a ledger holds but the account of its
sender and his grant on the resource that its check finds. In two ledgers with unique indexes that
have the same account under the name that the request claims, and the same level, or none, for him
on that resource, the request is passed on in one if and only if it is in the other; and if it is
not, the answer is the same failure in both, whatever handler there is, and the tables stay. -/
theorem indifferent (gateway : Gateway σ) (request : Http.Request) (ledger other : Ledger)
    (remote : σ) (h : ledger.Unique) (hother : other.Unique)
    (haccount : ∀ username, Authn.claimed? gateway.scheme request.headers = some username →
      ledger.SameAccount other username)
    (hgrant : ∀ username, Authn.claimed? gateway.scheme request.headers = some username →
      ∀ owner, gateway.Locates request ⟨ledger, remote⟩ owner →
        ledger.SameGrant other owner username) :
    (∀ passed, gateway.PassesOn request ⟨ledger, remote⟩ passed ↔
      gateway.PassesOn request ⟨other, remote⟩ passed) ∧
    ((∀ passed, ¬ gateway.PassesOn request ⟨ledger, remote⟩ passed) →
      ∃ (response : Http.Response) (after : σ), response.isFailure = true ∧
        ∀ next : Handler σ,
          (gateway.receive next request).run ⟨ledger, remote⟩ = (response, ⟨ledger, after⟩) ∧
          (gateway.receive next request).run ⟨other, remote⟩ = (response, ⟨other, after⟩)) := by
  cases verdict h hother haccount hgrant with
  | passed taken htaken hgrants hgrantsOther =>
      refine ⟨?_, ?_⟩
      · intro passed
        -- It is granted in both, so it is passed on in both, and as the same request.
        rw [passesOn_iff, passesOn_iff, htaken, Option.some_inj]
        constructor
        · rintro ⟨rfl, -⟩
          exact ⟨rfl, hgrantsOther⟩
        · rintro ⟨rfl, -⟩
          exact ⟨rfl, hgrants⟩
      · intro hnone
        exact absurd ((passesOn_iff _ _ _ taken).2 ⟨htaken, hgrants⟩) (hnone taken)
  | stopped response after hfailure hrun =>
      -- An answer that is the same with all handlers was given by none of them.
      have hsame (world : World σ) (result : Http.Response × World σ)
          (hall : ∀ next : Handler σ, (gateway.receive next request).run world = result)
          (passed : Http.Request) : ¬ gateway.PassesOn request world passed := by
        rintro ⟨next, answering, -, hdiffer⟩
        exact hdiffer ((hall next).trans (hall answering).symm)
      refine ⟨?_, fun _ => ⟨response, after, hfailure, hrun⟩⟩
      intro passed
      exact iff_of_false (hsame _ _ (fun next => (hrun next).1) passed)
        (hsame _ _ (fun next => (hrun next).2) passed)

/-- A user reads an experiment. -/
def reading : Http.Request :=
  ⟨.get, ⟨none, "", "/api/2.0" ++ "/mlflow/experiments/get", some "experiment_id=7"⟩,
    [("x-remote-user", "ada")], .whole []⟩

/-- A ledger with one user and his grant. -/
def sparse : Ledger :=
  ⟨some ⟨[⟨1, "ada", .password "secret", false⟩], 1⟩, some ⟨[⟨1, "7", 1, "EDIT"⟩], 1⟩, some .empty⟩

/-- A ledger in which the same user has another id, and somebody else has grants as well, one of
them of a level that is none. -/
def crowded : Ledger :=
  ⟨some ⟨[⟨1, "bob", .password "hidden", true⟩, ⟨4, "ada", .password "secret", false⟩], 4⟩,
    some ⟨[⟨1, "7", 1, "ALL"⟩, ⟨2, "8", 1, "READ"⟩, ⟨5, "7", 4, "EDIT"⟩], 5⟩, some .empty⟩

theorem unique_sparse : sparse.Unique where
  accounts := ⟨_, rfl, by decide⟩
  grants kind := by cases kind <;> exact ⟨_, rfl, by decide⟩

theorem unique_crowded : crowded.Unique where
  accounts := ⟨_, rfl, by decide⟩
  grants kind := by cases kind <;> exact ⟨_, rfl, by decide⟩

theorem sameAccount_crowded : sparse.SameAccount crowded "ada" := by
  intro secret admin
  simp [Ledger.HasAccount, sparse, crowded]

theorem sameGrant_crowded (owner : Owner) : sparse.SameGrant crowded owner "ada" := by
  intro level
  rcases owner with ⟨kind, key⟩
  cases kind with
  | experiment => simp [Ledger.HoldsLevel, Ledger.grants?, sparse, crowded]
  | model => simp [Ledger.HoldsLevel, Ledger.grants?, sparse, crowded, Table.empty]

/-- What stands in the fuller ledger makes no difference to what its user reads. -/
theorem indifferent_reading : sparse.Unique ∧ crowded.Unique ∧
    (∀ passed, trusting.PassesOn reading ⟨sparse, lone.remote⟩ passed ↔
      trusting.PassesOn reading ⟨crowded, lone.remote⟩ passed) := by
  have hclaimed : ∀ username, Authn.claimed? trusting.scheme reading.headers = some username →
      username = "ada" := by
    intro username h
    exact (Option.some.inj h).symm
  refine ⟨unique_sparse, unique_crowded, (indifferent trusting reading sparse crowded lone.remote
    unique_sparse unique_crowded ?_ ?_).1⟩
  · intro username h
    rw [hclaimed username h]
    exact sameAccount_crowded
  · intro username h owner _
    rw [hclaimed username h]
    exact sameGrant_crowded owner

end Gateway

end Gatehouse
