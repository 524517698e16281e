import Gatehouse.Proofs.Gateway.Mediation

/-!
# Bodies beyond the limit

A request with a longer body than allowed should be refused at once, before anybody asks who sends
it and before anything is passed on, and one with a body that is not longer should not notice that
there is a limit. The second is so for every request. The first is so where the length is declared:
only a declared length is looked at before the request goes on its way, and a body of which no
length is declared shows itself only to whoever reads it.

That the way of telling senders is asked about a request is told like its being passed on: another
way of telling them would make a difference. For that the answer to a request is taken with any way
of telling senders; with that of the gateway it is the answer of the gateway.

## Main definitions

* `Gateway.receiveBy`: The answer to a request with any way of telling senders.
* `Gateway.AsksSender`: Whether it is asked who sends a request.
* `Gateway.Refuses`: A request is refused at once because of its length.
* `Gateway.TakesWhole`: The limit makes no difference to a request.
* `Gateway.KeepsLimit`: What a limit is meant to do about a request.

## Theorems

* `Gateway.bounded?_declared`, `Gateway.bounded?_undeclared`: A long body with its length declared
  and without.
* `Gateway.refuses_declared`: A request with a declared length beyond the limit is refused at once.
* `Gateway.not_refuses_undeclared`: Without a declared length no request is.
* `Gateway.takesWhole`: Within the limit there is no difference.
* `Gateway.keepsLimit_iff`: The limit does what it is meant to do exactly where a body beyond it
  has its length declared.
-/

namespace Gatehouse

open Gatehouse.Action

variable {σ : Type}

/-- A way of telling who sends a request, from its headers and the ledger. -/
abbrev Authenticator := Http.Headers → Ledger → Except Error (Option Authn.Credentials)

namespace Gateway

open World

/-- The account of the sender, or nothing when he has to show who he is. -/
def senderBy (authenticate : Authenticator) (headers : Http.Headers) (ledger : Ledger) :
    Except Error (Option Account) := do
  match ← authenticate headers ledger with
  | none => .ok none
  | some credentials =>
    match ledger.findAccount credentials.username with
    | .ok account => .ok (some account)
    | .error e => if e.isNotFound then .error .unauthenticated else .error e

/-- The answer to a request, or the error that stopped it, with any way of telling senders. -/
def authorizeBy (authenticate : Authenticator) (gateway : Gateway σ) (next : Handler σ)
    (request : Http.Request) : Action (World σ) Http.Response := do
  let path ← Action.of (Path.decode request.target.path)
  if Path.isOpen path then next request
  else
    match ← World.readLedger (senderBy authenticate request.headers) with
    | none => pure Error.challenge
    | some account => gateway.serve next account path request

/-- The answer to a request whose body is held to its bounds, with any way of telling senders. -/
def receiveBy (authenticate : Authenticator) (gateway : Gateway σ) (next : Handler σ)
    (request : Http.Request) : StateM (World σ) Http.Response :=
  match gateway.bounded? request with
  | some request => do
    match ← (gateway.authorizeBy authenticate next request).run with
    | .ok response => pure response
    | .error e => pure e.response
  | none => pure tooLarge

/-- The gateway has a way of telling senders of its own. -/
theorem receiveBy_authenticate (gateway : Gateway σ) (next : Handler σ) (request : Http.Request) :
    gateway.receiveBy (Authn.authenticate gateway.scheme) next request =
      gateway.receive next request := rfl

/-- Whether it is asked who sends a request: with some handler, the way of telling senders makes a
difference to what comes of the request. -/
def AsksSender (gateway : Gateway σ) (request : Http.Request) (world : World σ) : Prop :=
  ∃ (next : Handler σ) (authenticate other : Authenticator),
    (gateway.receiveBy authenticate next request).run world ≠
      (gateway.receiveBy other next request).run world

/-- A request is refused at once because of its length. -/
structure Refuses (gateway : Gateway σ) (request : Http.Request) (world : World σ) : Prop where
  /-- The answer tells that the body is too long. -/
  status : ((gateway.handle request).run world).1.status = 413
  /-- No table has changed, and nothing behind the gateway has. -/
  unchanged : ((gateway.handle request).run world).2 = world
  /-- Nobody has asked who sends the request. -/
  unasked : ¬ gateway.AsksSender request world
  /-- Neither the gateway's own calls nor the service behind it have seen it. -/
  unpassed : ∀ passed, ¬ gateway.PassesOn request world passed

/-- The limit makes no difference to a request. -/
structure TakesWhole (gateway : Gateway σ) (request : Http.Request) (world : World σ) : Prop where
  /-- It is taken as it came. -/
  taken : gateway.bounded? request = some request
  /-- It is answered as it is with any higher limit. -/
  unlimited : ∀ limit, gateway.maxBody ≤ limit →
    ({ gateway with maxBody := limit } : Gateway σ).handle request = gateway.handle request
  /-- Whatever is passed on is the request with all of its body. -/
  whole : ∀ passed, gateway.PassesOn request world passed → passed = request

/-- What a limit is meant to do about a request with these bytes in its body. -/
structure KeepsLimit (gateway : Gateway σ) (request : Http.Request) (world : World σ)
    (bytes : Bytes) : Prop where
  beyond : gateway.maxBody < bytes.length → gateway.Refuses request world
  within : bytes.length ≤ gateway.maxBody → gateway.TakesWhole request world

/-- If a request states the length of its body, it is the true one. -/
def StatesLength (request : Http.Request) (bytes : Bytes) : Prop :=
  ∀ value, Http.Headers.first? "content-length" request.headers = some value →
    declaredLength? request.headers = some bytes.length

variable {gateway : Gateway σ} {request : Http.Request} {world : World σ} {bytes : Bytes}

/-- A request with a declared length beyond the limit is not taken. -/
theorem bounded?_declared {declared : Nat}
    (hdeclared : declaredLength? request.headers = some declared)
    (hlong : gateway.maxBody < declared) : gateway.bounded? request = none := by
  rw [bounded?, hdeclared]
  exact if_pos hlong

theorem declaredLength?_absent {headers : Http.Headers}
    (h : Http.Headers.first? "content-length" headers = none) : declaredLength? headers = none := by
  rw [declaredLength?, Http.Headers.readable?, h]
  rfl

/-- A request without a declared length is taken, with a body that cannot be read to its end. -/
theorem bounded?_undeclared (hbody : request.body = .whole bytes)
    (hdeclared : declaredLength? request.headers = none)
    (hlong : gateway.maxBody < bytes.length) :
    gateway.bounded? request = some { request with body := .tooLong } := by
  rw [bounded?, hdeclared, hbody]
  dsimp only
  rw [Http.Body.upTo, if_neg (Nat.not_le.2 hlong)]

theorem status_dispatched (request : Http.Request) (response : Http.Response) :
    (dispatched request response).status = response.status := by
  unfold dispatched
  dsimp only
  split
  · rfl
  · rfl

theorem run_handle (gateway : Gateway σ) (request : Http.Request) (world : World σ) :
    (gateway.handle request).run world =
      (dispatched request ((gateway.receive gateway.pass request).run world).1,
        ((gateway.receive gateway.pass request).run world).2) := rfl

/-- What is not taken is refused, whatever the handler and the way of telling senders. -/
theorem refuses_declared (htaken : gateway.bounded? request = none) :
    gateway.Refuses request world := by
  have hreceive (authenticate : Authenticator) (next : Handler σ) :
      gateway.receiveBy authenticate next request = pure tooLarge := by
    rw [receiveBy, htaken]
  -- The way of telling senders does not come into it.
  have hrun : (gateway.receive gateway.pass request).run world = (tooLarge, world) := by
    rw [← receiveBy_authenticate, hreceive]
    rfl
  refine ⟨?_, ?_, ?_, ?_⟩
  · rw [run_handle, hrun, status_dispatched]
    rfl
  · rw [run_handle, hrun]
  · rintro ⟨next, authenticate, other, hdiffer⟩
    rw [hreceive, hreceive] at hdiffer
    exact hdiffer rfl
  · intro passed hpassed
    rw [passesOn_iff, htaken] at hpassed
    exact nomatch hpassed.1

/-- No error is reported as a matter of length. -/
theorem status_ne_tooLarge (e : Error) : e.response.status ≠ 413 := by
  rw [Error.response_status]
  cases e <;> simp [Error.status]

/-- It is asked who sends a request for a path that is not open. -/
theorem asksSender_closed {taken : Http.Request} {path : String}
    (htaken : gateway.bounded? request = some taken)
    (hdecode : Path.decode taken.target.path = .ok path) (hclosed : ¬ Path.isOpen path = true) :
    gateway.AsksSender request world := by
  -- Somebody who has to show who he is gets another answer than one for whom that fails.
  refine ⟨gateway.pass, fun _ _ => .ok none, fun _ _ => .error .forbidden, ?_⟩
  have hrun (authenticate : Authenticator) :
      (gateway.receiveBy authenticate gateway.pass request).run world =
        settled (exec (gateway.authorizeBy authenticate gateway.pass taken) world) := by
    rw [receiveBy, htaken]
    have hexec : ((gateway.authorizeBy authenticate gateway.pass taken).run.run world : Id _) =
        exec (gateway.authorizeBy authenticate gateway.pass taken) world := rfl
    dsimp only
    rw [StateT.run_bind, hexec]
    rcases exec (gateway.authorizeBy authenticate gateway.pass taken) world with
      ⟨e | response, after⟩
    · rfl
    · rfl
  rw [hrun, hrun, authorizeBy, authorizeBy, exec_bind_of_ok hdecode, exec_bind_of_ok hdecode,
    if_neg hclosed, if_neg hclosed]
  intro hsame
  have hstatus : (401 : Nat) = 403 := congrArg (fun result => result.1.status) hsame
  omega

/-- What is taken is not refused at once: its path is looked at first, and that alone is no matter
of length. -/
theorem not_refuses_undeclared {taken : Http.Request}
    (htaken : gateway.bounded? request = some taken) : ¬ gateway.Refuses request world := by
  intro hrefuses
  cases hdecode : Path.decode taken.target.path with
  | error e =>
      -- A path that is refused is refused with another status.
      have hrun : (gateway.receive gateway.pass request).run world = (e.response, world) := by
        rw [run_receive htaken, authorize, exec_bind_of_error hdecode]
        rfl
      have hstatus := hrefuses.status
      rw [run_handle, hrun, status_dispatched] at hstatus
      exact status_ne_tooLarge e hstatus
  | ok path =>
      by_cases hopen : Path.isOpen path = true
      · exact hrefuses.unpassed taken
          ((passesOn_iff gateway request world taken).2 ⟨htaken, path, hdecode, .inl hopen⟩)
      · exact hrefuses.unasked (asksSender_closed htaken hdecode hopen)

/-- A body within the limit is not noticed. -/
theorem takesWhole (hbody : request.body = .whole bytes) (hstates : StatesLength request bytes)
    (hlength : bytes.length ≤ gateway.maxBody) : gateway.TakesWhole request world := by
  have hfits {limit : Nat} (hlimit : bytes.length ≤ limit) :
      ({ gateway with maxBody := limit } : Gateway σ).Fits request := by
    refine ⟨bytes, hbody, hlimit, ?_⟩
    intro declared hdeclared
    -- A length that is declared is one that is stated.
    cases hvalue : Http.Headers.first? "content-length" request.headers with
    | none =>
        rw [declaredLength?_absent hvalue] at hdeclared
        exact nomatch hdeclared
    | some value =>
        rw [hstates value hvalue] at hdeclared
        obtain rfl := Option.some.inj hdeclared
        exact ⟨Nat.le_refl _, hlimit⟩
  have htaken := (hfits hlength).bounded?_eq
  refine ⟨htaken, ?_, ?_⟩
  · intro limit hlimit
    have hhigher := (hfits (Nat.le_trans hlength hlimit)).bounded?_eq
    have hreceive : gateway.receive gateway.pass request = gateway.answer gateway.pass request := by
      rw [receive, htaken]
    have hraised : ({ gateway with maxBody := limit } : Gateway σ).receive gateway.pass request =
        gateway.answer gateway.pass request := by
      rw [receive, hhigher]
      rfl
    rw [handle, handle, hreceive]
    exact congrArg (dispatched request <$> ·) hraised
  · intro passed hpassed
    rw [passesOn_iff, htaken] at hpassed
    exact (Option.some.inj hpassed.1).symm

/-- The limit does what it is meant to do about a request exactly if a body beyond it has its
length declared. Then the request is refused at once; otherwise it goes on its way, and unless its
path stops it, it is asked who sends it or it is passed on. -/
theorem keepsLimit_iff (gateway : Gateway σ) (request : Http.Request) (world : World σ)
    {bytes : Bytes} (hbody : request.body = .whole bytes) (hstates : StatesLength request bytes) :
    gateway.KeepsLimit request world bytes ↔
      (gateway.maxBody < bytes.length →
        (Http.Headers.first? "content-length" request.headers).isSome = true) := by
  constructor
  · intro hkeeps hlong
    cases hvalue : Http.Headers.first? "content-length" request.headers with
    | none =>
        -- A length that is not declared lets the request through, so it is not refused.
        have htaken := bounded?_undeclared hbody (declaredLength?_absent hvalue) hlong
        exact absurd (hkeeps.beyond hlong) (not_refuses_undeclared htaken)
    | some value => rfl
  · intro hdeclared
    refine ⟨?_, takesWhole hbody hstates⟩
    intro hlong
    rcases Option.isSome_iff_exists.1 (hdeclared hlong) with ⟨value, hvalue⟩
    exact refuses_declared (bounded?_declared (hstates value hvalue) hlong)

/-- Somebody sends five bytes. -/
def upload (headers : Http.Headers) : Http.Request :=
  ⟨.post, ⟨none, "", "/api/2.0/mlflow/experiments/create", none⟩, headers, .whole [1, 2, 3, 4, 5]⟩

/-- A gateway that takes four bytes. -/
def narrow : Gateway Memory := { trusting with maxBody := 4 }

/-- Five bytes that are declared are refused at once. -/
theorem keepsLimit_iff_declared : narrow.maxBody < 5 ∧
    StatesLength (upload [("content-length", "5")]) [1, 2, 3, 4, 5] ∧
    narrow.KeepsLimit (upload [("content-length", "5")]) lone [1, 2, 3, 4, 5] := by
  have hstates : StatesLength (upload [("content-length", "5")]) [1, 2, 3, 4, 5] := by
    intro value _
    rfl
  exact ⟨by decide, hstates, (keepsLimit_iff narrow _ lone rfl hstates).2 fun _ => rfl⟩

/-- Five bytes that are not declared are not: who sends them is asked for his credentials. -/
theorem undeclared_unlimited : narrow.maxBody < 5 ∧
    StatesLength (upload []) [1, 2, 3, 4, 5] ∧
    ((narrow.handle (upload [])).run lone).1 = Error.challenge ∧
    ¬ narrow.KeepsLimit (upload []) lone [1, 2, 3, 4, 5] := by
  have hanswer : ((narrow.handle (upload [])).run lone).1 = Error.challenge := by rfl
  have hstates : StatesLength (upload []) [1, 2, 3, 4, 5] := by
    intro value hvalue
    exact nomatch hvalue
  refine ⟨by decide, hstates, hanswer, ?_⟩
  intro hkeeps
  have hstatus := (hkeeps.beyond (by decide)).status
  rw [hanswer] at hstatus
  exact absurd hstatus (by decide)

end Gateway

end Gatehouse
