import Gatehouse.Authn
import Gatehouse.Followup
import Gatehouse.Management.Answer
import Gatehouse.Owner
import Gatehouse.Route

/-!
# The gateway

A request is decided before anything answers it. Its path is decoded; unless the path is
open, the sender has to show who he is and has to pass the check of the operation that path
and method name. Administrators pass every check. What answers is the gateway itself for
its own calls and the service behind it for all others; a success may have a follow-up.

Bodies longer than allowed are refused before anything else when their length is declared,
and when they are read otherwise.

## Main definitions

* `Gateway`: What a gateway is set up with.
* `Handler`: What answers the requests that are passed on.
* `Gateway.evaluate`: Whether a check holds.
* `Gateway.readParams`: The parameters of a request, and the request as it goes on.
* `Gateway.pass`: The handler of a gateway: itself, or the service behind it.
* `Gateway.authorize`: The answer to a request, or the error that stopped it, with whatever
  handler there is.
* `Gateway.handle`: The response to a request.
-/

namespace Gatehouse

/-- What a gateway is set up with: the tracker that it asks, the level where no grant is
held, the way in which senders show who they are, how many bytes a body may have, and the
service that answers what the gateway does not. -/
structure Gateway (σ : Type) where
  tracker : Tracker σ
  default : Level
  scheme : Authn.Scheme
  maxBody : Nat
  service : Http.Request → StateM σ Http.Response

/-- What answers the requests that are passed on. -/
abbrev Handler (σ : Type) := Http.Request → StateM (World σ) Http.Response

/-- What the gateway answers itself. -/
inductive Local where
  | health
  | call (call : Management)
  deriving DecidableEq, Repr

namespace Local

/-- The path of the health check. -/
def healthPath : String := "/health"

/-- What the gateway answers itself under a path, the path taken as it was sent. -/
def ofPath? (path : String) : Option Local :=
  if path = healthPath then some health
  else (Management.all.find? (·.path = path)).map call

/-- The method under which it is answered. -/
def method : Local → Http.Method
  | health => .get
  | call c => c.method

/-- Whether a method is accepted. What is asked for may also be asked for without its
body. -/
def accepts (own : Local) (method : Http.Method) : Bool :=
  method = own.method || (own.method = .get && method = .head)

/-- The methods that are accepted, as they are told. -/
def allowed (own : Local) : String :=
  if own.method = .get then "GET,HEAD" else own.method.name

end Local

namespace Followup

/-- Whether a follow-up concerns a caller: grants of models follow whoever caused it, all
else is for those who are no administrators. -/
def applies (account : Account) : Followup → Bool
  | dropModelGrants | renameModelGrants => true
  | _ => !account.admin

/-- Whether a follow-up reads parameters. -/
def needsParams : Followup → Bool
  | grantExperiment | grantModel => false
  | _ => true

end Followup

/-- Whether a check reads parameters. -/
def Check.needsParams : Check → Bool
  | .capability (.artifact _) _ => false
  | .admin => false
  | _ => true

namespace Gateway

variable {σ : Type}

/-- What is decided about a request once its sender is known. -/
structure Case where
  found : Option Route.Found
  followup : Option Followup
  check : Option Check

/-- The check that a path and a method name, whoever asks. -/
def checkOf? (path : String) (method : Http.Method) : Option Check :=
  ((Route.find? path method).bind (·.operation.check?)).or (Route.artifactCheck? path method)

/-- The case of a request. -/
def caseOf (account : Account) (path : String) (method : Http.Method) : Case :=
  let found := Route.find? path method
  { found
    followup := (found.bind (·.operation.followup?)).filter (Followup.applies account)
    check := if account.admin then none else checkOf? path method }

/-- Whether the parameters have to be read. -/
def Case.needsParams (c : Case) : Bool :=
  c.check.any Check.needsParams || c.followup.any Followup.needsParams

/-- What the path captures. -/
def Case.captures (c : Case) : List (String × String) :=
  (c.found.map (·.captures)).getD []

/-- Whether a check holds of the caller. -/
def evaluate (gateway : Gateway σ) (account : Account) (params : Params) :
    Check → Action (World σ) Bool
  | .admin => pure account.admin
  | .sender => do
    let username ← Action.of (params.get "username")
    pure (username = account.username)
  | .capability subject capability => do
    let level ← subject.level gateway.tracker gateway.default params account.username
    pure (level.allows capability)

/-- The account of the sender, or nothing when he has to show who he is. -/
def sender (gateway : Gateway σ) (headers : Http.Headers) (ledger : Ledger) :
    Except Error (Option Account) := do
  match ← Authn.authenticate gateway.scheme headers ledger with
  | none => .ok none
  | some credentials =>
    match ledger.findAccount credentials.username with
    | .ok account => .ok (some account)
    | .error e => if e.isNotFound then .error .unauthenticated else .error e

/-- A local answer as a response. -/
def answerLocally (own : Local) (request : Http.Request) : StateM (World σ) Http.Response :=
  match own with
  | .health => pure (.ofText 200 "OK")
  | .call c => do
    match ← (c.answer request).run with
    | .ok response => pure response
    | .error e => pure e.response

/-- The answer to a request that nothing stops. -/
def pass (gateway : Gateway σ) : Handler σ := fun request =>
  match Local.ofPath? request.target.path with
  | some own =>
    if own.accepts request.method then answerLocally own request
    else pure ⟨405, [], []⟩
  | none => do
    let world ← get
    let (response, remote) := (gateway.service request).run world.remote
    set { world with remote := remote }
    pure response

/-- The response after the follow-up that a success has. A response holds its whole body, so
the fault of a body that cannot be read to its end has no place here. -/
def follow (gateway : Gateway σ) (followup : Followup) (account : Account)
    (params : Params) (response : Http.Response) : Action (World σ) Http.Response := do
  match Json.ofBytes? response.body with
  | none => throw .document
  | some body =>
    match ← followup.run gateway.tracker gateway.default account params body with
    | .unchanged => pure response
    | .replaced body =>
      pure { response with
        headers := Http.Headers.remove "content-length" response.headers
        body := body.bytes }

/-- The parameters of a request with those captured from its path, and the request as it goes on:
where they stand in the body, the body is read and what was read takes its place. -/
def readParams (request : Http.Request) (captures : List (String × String)) :
    Except Error (Http.Request × Params) := do
  -- A body that is not needed is not looked at, so it may be too long and still go on.
  let (body, bytes) ←
    if Params.needsBody request.method request.headers then
      match request.body.read? with
      | some bytes => .ok (.whole bytes, bytes)
      | none => .error (.badRequest .bodyTooLong)
    else .ok (request.body, [])
  let params ← Params.ofRequest request.method request.headers request.target.query bytes captures
  pure ({ request with body := body }, params)

/-- The request as it goes on in its case, with its parameters; there are none where they are not
needed. -/
def Case.read (c : Case) (request : Http.Request) : Except Error (Http.Request × Params) :=
  if c.needsParams then readParams request c.captures else .ok (request, .empty)

/-- Refuses a caller of whom a check does not hold. -/
def demand (gateway : Gateway σ) (account : Account) (params : Params)
    (check : Option Check) : Action (World σ) Unit :=
  match check with
  | none => pure ()
  | some check => do
    if ← gateway.evaluate account params check then pure () else throw .forbidden

/-- The request as it goes on in a case whose check holds of the caller, with its parameters. -/
def vet (gateway : Gateway σ) (account : Account) (c : Case) (request : Http.Request) :
    Action (World σ) (Http.Request × Params) := do
  let (request, params) ← Action.of (c.read request)
  gateway.demand account params c.check
  pure (request, params)

/-- The response with the follow-up of the case, which only a success has. -/
def complete (gateway : Gateway σ) (followup : Option Followup) (account : Account)
    (params : Params) (response : Http.Response) : Action (World σ) Http.Response :=
  match followup with
  | none => pure response
  | some followup =>
    if response.isFailure then pure response
    else gateway.follow followup account params response

/-- The answer to a request of a known sender. -/
def serve (gateway : Gateway σ) (next : Handler σ) (account : Account) (path : String)
    (request : Http.Request) : Action (World σ) Http.Response := do
  let c := caseOf account path request.method
  let (request, params) ← gateway.vet account c request
  let response ← next request
  gateway.complete c.followup account params response

/-- The answer to a request, or the error that stopped it. -/
def authorize (gateway : Gateway σ) (next : Handler σ) (request : Http.Request) :
    Action (World σ) Http.Response := do
  let path ← Action.of (Path.decode request.target.path)
  -- What is open is passed on, whoever asks.
  if Path.isOpen path then next request
  else
    match ← World.readLedger (gateway.sender request.headers) with
    | none => pure Error.challenge
    | some account => gateway.serve next account path request

/-- The answer to a request, an error as the response that reports it. -/
def answer (gateway : Gateway σ) (next : Handler σ) (request : Http.Request) :
    StateM (World σ) Http.Response := do
  match ← (gateway.authorize next request).run with
  | .ok response => pure response
  | .error e => pure e.response

/-- The refusal of a body that is declared too long. -/
def tooLarge : Http.Response := .ofText 413 "length limit exceeded"

/-- The length that a request declares for its body. -/
def declaredLength? (headers : Http.Headers) : Option Nat :=
  (Http.Headers.readable? "content-length" headers).bind fun value =>
    (Params.natOfText? value).map (·.toNat)

/-- The request with its body held to its allowed and its declared length, or nothing when
more is declared than allowed. -/
def bounded? (gateway : Gateway σ) (request : Http.Request) : Option Http.Request :=
  match declaredLength? request.headers with
  | some declared =>
    if gateway.maxBody < declared then none
    else some { request with body := request.body.upTo (min gateway.maxBody declared) }
  | none => some { request with body := request.body.upTo gateway.maxBody }

/-- The answer to a request whose body is held to its bounds. -/
def receive (gateway : Gateway σ) (next : Handler σ) (request : Http.Request) :
    StateM (World σ) Http.Response :=
  match gateway.bounded? request with
  | some request => gateway.answer next request
  | none => pure tooLarge

/-- The response as it is sent: under a local path with another method it tells the methods
that are accepted, and where no body is wanted there is none. -/
def dispatched (request : Http.Request) (response : Http.Response) : Http.Response :=
  let success := 200 ≤ response.status && response.status < 300
  if request.method = .connect && success then { response with body := [] }
  else
    let headers := match Local.ofPath? request.target.path with
      | some own =>
        if own.accepts request.method || (Http.Headers.first? "allow" response.headers).isSome
        then response.headers
        else response.headers ++ [("allow", own.allowed)]
      | none => response.headers
    { response with
      headers := headers
      body := if request.method = .head then [] else response.body }

/-- The response to a request. -/
def handle (gateway : Gateway σ) (request : Http.Request) : StateM (World σ) Http.Response :=
  dispatched request <$> gateway.receive gateway.pass request

end Gateway

end Gatehouse
