import Gatehouse.Management
import Gatehouse.World

/-!
# Answers of the management interface

What each call does on the ledger and what it answers. The parameters are read in a fixed
order, so the first one missing is the one that is reported.

## Main definitions

* `Management.run`: The effect and the answer of a call with its parameters.
* `Management.answer`: The same, from a request.
-/

namespace Gatehouse

namespace Management

/-- The truth value that the text of a parameter spells, in any case. -/
def flagOf (name value : String) : Except Error Bool :=
  let lower := value.toList.map Char.toLower
  if lower = "true".toList then .ok true
  else if lower = "false".toList then .ok false
  else .error (.badParameter (.notBoolean name value))

/-- Refuses a request whose content type does not start as that of a document. -/
def requireJson (headers : Http.Headers) : Except Error Unit :=
  let value := (Http.Headers.readable? "content-type" headers).getD ""
  if "application/json".toList.isPrefixOf value.toList then .ok ()
  else .error (.badRequest (.contentType value))

/-- The name under which a grant of a kind is answered. -/
def grantName : Kind → String
  | .experiment => "experiment_permission"
  | .model => "registered_model_permission"

/-- An answer without content. -/
def done : Json := .object []

/-- A user with his grants as an answer. -/
def userAnswer (details : Details) : Json := .object [("user", details.toJson)]

/-- A grant as an answer. -/
def grantAnswer (held : Held) : Json := .object [(grantName held.kind, held.toJson)]

/-- The effect and the answer of a call with its parameters. -/
def run {σ : Type} (call : Management) (headers : Http.Headers) (params : Params) :
    Action (World σ) Json := do
  let text (name : String) : Action (World σ) String := Action.of (params.get name)
  match call with
  | createUser =>
    Action.of (requireJson headers)
    let username ← text "username"
    let password ← text "password"
    let _ ← World.onLedger (Ledger.createUser username password false)
    userAnswer <$> World.readLedger (Ledger.details username)
  | getUser =>
    let username ← text "username"
    userAnswer <$> World.readLedger (Ledger.details username)
  | updatePassword =>
    let username ← text "username"
    let password ← text "password"
    World.onLedger (Ledger.updateUser username (some password) none)
    pure done
  | updateAdmin =>
    let username ← text "username"
    let admin ← text "is_admin"
    let admin ← Action.of (flagOf "is_admin" admin)
    World.onLedger (Ledger.updateUser username none (some admin))
    pure done
  | deleteUser =>
    let username ← text "username"
    World.onLedger (Ledger.deleteUser username)
    pure done
  | createGrant kind =>
    let key ← text kind.keyName
    let username ← text "username"
    let level ← text "permission"
    grantAnswer <$> World.onLedger (Ledger.createGrant kind key username level)
  | getGrant kind =>
    let key ← text kind.keyName
    let username ← text "username"
    grantAnswer <$> World.readLedger (Ledger.grant kind key username)
  | updateGrant kind =>
    let key ← text kind.keyName
    let username ← text "username"
    let level ← text "permission"
    World.onLedger (Ledger.updateGrant kind key username level)
    pure done
  | deleteGrant kind =>
    let key ← text kind.keyName
    let username ← text "username"
    World.onLedger (Ledger.deleteGrant kind key username)
    pure done

/-- The bytes of a request that its parameters need. -/
def neededBody (request : Http.Request) : Except Error Bytes :=
  if Params.needsBody request.method request.headers then
    match request.body.read? with
    | some bytes => .ok bytes
    | none => .error (.badRequest .bodyTooLong)
  else .ok []

/-- The parameters of a request, with those captured from its path. -/
def paramsOf (request : Http.Request) (captures : List (String × String)) :
    Except Error Params := do
  let bytes ← neededBody request
  Params.ofRequest request.method request.headers request.target.query bytes captures

/-- The effect and the answer of a call. -/
def answer {σ : Type} (call : Management) (request : Http.Request) :
    Action (World σ) Http.Response := do
  let params ← Action.of (paramsOf request [])
  Http.Response.ofJson 200 <$> run call request.headers params

end Management

end Gatehouse
