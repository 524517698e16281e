import Gatehouse.Http.Message

/-!
# Errors

Every way in which a request or an administrative step can fail, as its cause. The
wording, the code that clients see and the status are functions of the cause.

## Main definitions

* `Absent`, `Conflict`, `BadRequest`, `BadParameter`, `Fault`: The families of causes.
* `Error`: The causes.
* `Error.message`: The wording.
* `Error.wireCode`, `Error.status`: What clients see of the kind.
* `Error.diagnosticCode`, `Error.help`: What an operator sees of the kind.
* `Error.response`: The response that reports the error.

## Theorems

* `Error.bind_eq_ok_iff`, `Error.map_eq_ok_iff`: When two steps in turn give a result.
* `Error.mapM_eq_map`: When a step succeeds for each of several items.
-/

namespace Gatehouse

/-- The name under which the gateway asks for credentials. -/
def realm : String := "trackgate"

/-- What does not exist. -/
inductive Absent where
  | account (username : String)
  | experimentGrant (experiment username : String)
  | modelGrant (name username : String)
  | experimentNamed (name : String)
  | run (id : String)
  | loggedModel (id : String)
  | reported (message : String)
  deriving DecidableEq, Repr

/-- What exists already. -/
inductive Conflict where
  | account (username : String)
  | experimentGrant (experiment username : String)
  | modelGrant (name username : String)
  | modelGrants (name : String)
  | reported (message : String)
  deriving DecidableEq, Repr

/-- What is wrong with a request. -/
inductive BadRequest where
  | pathEncoding (path : String)
  | pathSegment (path : String)
  | method (name : String)
  | bodyTooLong
  | bodyNotObject
  | bodyNotJson
  | emptyCredentials
  | emptyPassword
  | contentType (value : String)
  | destination (path : String)
  | reported (message : String)
  deriving DecidableEq, Repr

/-- What is wrong with a parameter. -/
inductive BadParameter where
  | notNatural (name value : String)
  | notBoolean (name value : String)
  | tokenCoding (token : String)
  | tokenContent
  | ordering
  | reported (message : String)
  deriving DecidableEq, Repr

/-- What went wrong inside the gateway or behind it. -/
inductive Fault where
  | noExperimentId
  | noModelName
  | passwordHash
  | authorization (name : String)
  | trackerAddress (url : String)
  | trackerStatus (status : Nat)
  | runOwner (id : String)
  | modelOwner (id : String)
  | offset
  | reported (message : String)
  deriving DecidableEq, Repr

/-- The cause of a failure. -/
inductive Error where
  | document
  | database (cause : String)
  | unreachable (cause : String)
  | missingParameter (name : String)
  | badParameter (cause : BadParameter)
  | badLevel (name : String)
  | absent (cause : Absent)
  | conflict (cause : Conflict)
  | badRequest (cause : BadRequest)
  | unauthenticated
  | forbidden
  | fault (cause : Fault)
  deriving DecidableEq, Repr

/-- The wording of an absence. -/
def Absent.message : Absent → String
  | account username => s!"User with username={username} not found"
  | experimentGrant experiment username =>
    s!"Experiment permission with experiment_id={experiment} and username={username} not found"
  | modelGrant name username =>
    s!"Registered model permission with name={name} and username={username} not found"
  | experimentNamed name => s!"Could not find experiment with name {name}"
  | run id => s!"Run with id={id} not found"
  | loggedModel id => s!"Logged model with id={id} not found"
  | reported message => message

/-- The wording of a conflict. -/
def Conflict.message : Conflict → String
  | account username => s!"User (username={username}) already exists"
  | experimentGrant experiment username =>
    s!"Experiment permission (experiment_id={experiment}, username={username}) already exists"
  | modelGrant name username =>
    s!"Registered model permission (name={name}, username={username}) already exists"
  | modelGrants name => s!"Registered model permissions for name={name} already exist"
  | reported message => message

/-- The wording of what is wrong with a request. -/
def BadRequest.message : BadRequest → String
  | pathEncoding path => s!"Invalid path encoding in '{path}'"
  | pathSegment path => s!"Invalid request path '{path}'"
  | method name => s!"Unsupported HTTP method '{name}'"
  | bodyTooLong => "Failed to read request body: length limit exceeded"
  | bodyNotObject => "Request body must be a JSON object"
  | bodyNotJson => "Invalid JSON body: not a document"
  | emptyCredentials => "Username and password cannot be empty."
  | emptyPassword => "Password cannot be empty."
  | contentType value => s!"Invalid content type: '{value}'"
  | destination path => s!"Cannot forward '{path}': not an address"
  | reported message => message

/-- The wording of what is wrong with a parameter. -/
def BadParameter.message : BadParameter → String
  | notNatural name value => s!"'{name}' must be a non-negative integer, got '{value}'"
  | notBoolean name value => s!"'{name}' must be true or false, got '{value}'"
  | tokenCoding token => s!"Invalid page token, could not base64-decode: {token}"
  | tokenContent => "Invalid page token, could not parse JSON: not a cursor"
  | ordering => "Invalid order_by: not a list of orderings"
  | reported message => message

/-- The wording of a fault. -/
def Fault.message : Fault → String
  | noExperimentId => "create experiment response has no experiment_id"
  | noModelName => "create registered model response has no registered_model.name"
  | passwordHash => "Invalid password hash: not in the stored form"
  | authorization name => s!"Unsupported authorization function '{name}'"
  | trackerAddress url => s!"Invalid upstream url '{url}': not an address"
  | trackerStatus status => s!"upstream returned {status} {Http.reason status}"
  | runOwner id => s!"Run {id} has no experiment_id"
  | modelOwner id => s!"Logged model {id} has no experiment_id"
  | offset => "page offset out of range"
  | reported message => message

namespace Error

/-- The wording of an error. -/
def message : Error → String
  | document => "Serialization error: not a document"
  | database cause => s!"Database error: {cause}"
  | unreachable cause => s!"Upstream request failed: {cause}"
  | missingParameter name => s!"Missing value for required parameter '{name}'"
  | badParameter cause => s!"Invalid parameter: {cause.message}"
  | badLevel name => s!"Invalid permission \x60{name}\x60"
  | absent cause => cause.message
  | conflict cause => cause.message
  | badRequest cause => s!"Bad request: {cause.message}"
  | unauthenticated => "You are not authenticated"
  | forbidden => "Permission denied"
  | fault cause => cause.message

/-- The code that clients see. -/
def wireCode : Error → String
  | missingParameter _ | badParameter _ | badLevel _ => "INVALID_PARAMETER_VALUE"
  | absent _ => "RESOURCE_DOES_NOT_EXIST"
  | conflict _ => "RESOURCE_ALREADY_EXISTS"
  | badRequest _ => "BAD_REQUEST"
  | unauthenticated => "UNAUTHENTICATED"
  | forbidden => "PERMISSION_DENIED"
  | document | database _ | unreachable _ | fault _ => "INTERNAL_ERROR"

/-- The status of the response that reports the error. -/
def status : Error → Nat
  | missingParameter _ | badParameter _ | badLevel _ | conflict _ | badRequest _ => 400
  | absent _ => 404
  | unauthenticated => 401
  | forbidden => 403
  | document | database _ | unreachable _ | fault _ => 500

/-- Whether the error reports that something does not exist. -/
def isNotFound : Error → Bool
  | absent _ => true
  | _ => false

/-- The code that an operator sees. -/
def diagnosticCode : Error → String
  | document => "trackgate::serde"
  | database _ => "trackgate::db"
  | unreachable _ => "trackgate::upstream"
  | missingParameter _ => "trackgate::missing_parameter"
  | badParameter _ => "trackgate::invalid_parameter"
  | badLevel _ => "trackgate::invalid_permission"
  | absent _ => "trackgate::not_found"
  | conflict _ => "trackgate::already_exists"
  | badRequest _ => "trackgate::bad_request"
  | unauthenticated => "trackgate::unauthenticated"
  | forbidden => "trackgate::forbidden"
  | fault _ => "trackgate::internal"

/-- What an operator is told to do about it. -/
def help : Error → Option String
  | unreachable _ => some "Check that \x60upstream.url\x60 points at a reachable tracking server"
  | badLevel _ =>
    some "Valid permissions are: READ, EDIT, UPDATE, MANAGE, NO_PERMISSIONS"
  | _ => none

/-- The request for credentials. -/
def challenge : Http.Response :=
  let page := Http.Response.ofText 401
    "You are not authenticated. Please provide valid credentials."
  { page with headers := page.headers ++ [("www-authenticate", s!"Basic realm=\"{realm}\"")] }

/-- The refusal, the same whether or not the resource exists. -/
def refusal : Http.Response := Http.Response.ofText 403 "Permission denied"

/-- The response that reports the error. -/
def response : Error → Http.Response
  | unauthenticated => challenge
  | forbidden => refusal
  | e => Http.Response.ofJson e.status
      (Json.ofMembers [("error_code", .string e.wireCode), ("message", .string e.message)])

/-- A step that may fail and what follows it give a result exactly when both do. -/
theorem bind_eq_ok_iff {ε α β : Type} {x : Except ε α} {f : α → Except ε β} {b : β} :
    (x >>= f) = .ok b ↔ ∃ a, x = .ok a ∧ f a = .ok b := by
  cases x <;> simp [bind, Except.bind]

/-- What is made of the result of a step is there exactly when the result is. -/
theorem map_eq_ok_iff {ε α β : Type} {x : Except ε α} {f : α → β} {b : β} :
    x.map f = .ok b ↔ ∃ a, x = .ok a ∧ f a = b := by
  cases x <;> simp [Except.map]

/-- Steps that succeed for every item succeed for all of them in turn. -/
theorem mapM_eq_map {ε α β : Type} {f : α → Except ε β} {g : α → β} {items : List α}
    (h : ∀ item ∈ items, f item = .ok (g item)) : items.mapM f = .ok (items.map g) := by
  induction items with
  | nil => rfl
  | cons item rest ih =>
    rw [List.mapM_cons, h item List.mem_cons_self,
      ih fun other hother => h other (List.mem_cons_of_mem item hother)]
    rfl

theorem response_status (e : Error) : e.response.status = e.status := by
  cases e <;> rfl

end Error

end Gatehouse
