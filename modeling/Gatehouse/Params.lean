import Gatehouse.Json.Tree
import Gatehouse.Error
import Gatehouse.Text.Blank
import Gatehouse.Text.Form

/-!
# Request parameters

The parameters of one request, gathered from where its method keeps them: the query
string, or a JSON body. Names captured from the path win over both. A name that is
repeated in a query holds the list of its values, and its first value is the value of the
parameter.

## Main definitions

* `Params`: Named values.
* `Params.ofRequest`: The parameters of a request.
* `Params.get`, `Params.get?`, `Params.list`, `Params.nat?`: Reading a parameter.
* `Params.needsBody`: Whether the parameters of a request stand in its body.

## Theorems

* `Params.ofRequest_body`: A body that is not needed makes no difference.
* `Params.lookup_captured`: What a path captures leaves other names alone.
-/

namespace Gatehouse

/-- Named values in the order of their names. -/
structure Params where
  values : List (String × Json)

namespace Params

/-- No parameters. -/
def empty : Params := ⟨[]⟩

/-- The text of a value, when it has one; a list has that of its first item. -/
def scalar? : Json → Option String
  | .string s => some s
  | .number n => some n.text
  | .bool b => some (if b then "true" else "false")
  | .array (first :: _) => scalar? first
  | _ => none

/-- The value of a parameter as it was given. -/
def raw? (name : String) (params : Params) : Option Json :=
  Json.lookup name params.values

/-- The text of a parameter, if it has one. -/
def get? (name : String) (params : Params) : Option String :=
  (params.raw? name).bind scalar?

/-- The text of a required parameter. A run may go by its older name. -/
def get (name : String) (params : Params) : Except Error String :=
  match params.get? name with
  | some value => .ok value
  | none =>
    if name = "run_id" then
      match params.get? "run_uuid" with
      | some value => .ok value
      | none => .error (.missingParameter "run_uuid")
    else .error (.missingParameter name)

/-- All texts of a parameter that may be repeated. -/
def list (name : String) (params : Params) : List String :=
  match params.raw? name with
  | some (.array items) => items.filterMap scalar?
  | some value => (scalar? value).toList
  | none => []

/-- The 64-bit number that a text spells in decimal, a plus sign allowed. -/
def natOfText? (text : String) : Option UInt64 :=
  let digits := match text.toList with
    | '+' :: rest => rest
    | chars => chars
  if digits.isEmpty || !digits.all Char.isDigit then none
  else
    let n := digits.foldl (fun n c => n * 10 + (c.toNat - 48)) 0
    if n < UInt64.size then some (UInt64.ofNat n) else none

/-- The number that a parameter spells, if it is there. -/
def nat? (name : String) (params : Params) : Except Error (Option UInt64) :=
  match params.get? name with
  | none => .ok none
  | some text =>
    match natOfText? text with
    | some n => .ok (some n)
    | none => .error (.badParameter (.notNatural name text))

/-- Whether the content type announces a JSON document. -/
def isJson (headers : Http.Headers) : Bool :=
  match Http.Headers.readable? "content-type" headers with
  | none => false
  | some value =>
    let kind := Text.trimList Text.isBlank (value.toList.takeWhile (· != ';'))
    kind = "application/json".toList || "+json".toList.isSuffixOf kind

/-- Whether the parameters of a request stand in its body. -/
def needsBody (method : Http.Method) (headers : Http.Headers) : Bool :=
  match method with
  | .post | .patch => true
  | .delete => isJson headers
  | _ => false

/-- One more value for a name: a first one stands alone, later ones make a list. -/
def addValue (values : List (String × Json)) (pair : String × String) :
    List (String × Json) :=
  let value := Json.string pair.2
  let joined := match Json.lookup pair.1 values with
    | none => value
    | some (.array items) => .array (items ++ [value])
    | some first => .array [first, value]
  Json.insertMember pair.1 joined values

/-- The values of a query string. -/
def ofQuery : Option String → List (String × Json)
  | none => []
  | some query => (Text.formDecode (Text.utf8 query)).foldl addValue []

/-- Whether a byte is a blank of ASCII. -/
def isBlankByte (b : UInt8) : Bool :=
  b == 32 || b == 9 || b == 10 || b == 12 || b == 13

/-- The values of a body; a blank body has none. -/
def ofBody (body : Bytes) : Except Error (List (String × Json)) :=
  if body.all isBlankByte then .ok []
  else
    match Json.ofBytes? body with
    | none => .error (.badRequest .bodyNotJson)
    | some (.object members) => .ok members
    | some _ => .error (.badRequest .bodyNotObject)

/-- The values where the method of a request keeps them. -/
def sourceValues (method : Http.Method) (headers : Http.Headers) (query : Option String)
    (body : Bytes) : Except Error (List (String × Json)) :=
  match method with
  | .get => .ok (ofQuery query)
  | .post | .patch => ofBody body
  | .delete => if isJson headers then ofBody body else .ok (ofQuery query)
  | other => .error (.badRequest (.method other.name))

/-- The parameters of a request. -/
def ofRequest (method : Http.Method) (headers : Http.Headers) (query : Option String)
    (body : Bytes) (captures : List (String × String)) : Except Error Params :=
  (sourceValues method headers query body).map fun values =>
    ⟨captures.foldl (fun held c => Json.insertMember c.1 (.string c.2) held) values⟩

theorem ofRequest_body {method : Http.Method} {headers : Http.Headers}
    (h : needsBody method headers = false) (query : Option String) (body other : Bytes)
    (captures : List (String × String)) :
    ofRequest method headers query body captures =
      ofRequest method headers query other captures := by
  have : sourceValues method headers query body = sourceValues method headers query other := by
    cases method <;> simp_all [needsBody, sourceValues]
  rw [ofRequest, ofRequest, this]

/-- What a path captures is held under its own names only. -/
theorem lookup_captured {name : String} {captures : List (String × String)}
    (h : ∀ c ∈ captures, c.1 ≠ name) (values : List (String × Json)) :
    Json.lookup name (captures.foldl (fun held c => Json.insertMember c.1 (.string c.2) held)
      values) = Json.lookup name values := by
  induction captures generalizing values with
  | nil => rfl
  | cons c rest ih =>
    rw [List.foldl_cons, ih fun other hother => h other (List.mem_cons_of_mem c hother),
      Json.lookup_insertMember, if_neg fun hsame => h c List.mem_cons_self hsame.symm]

end Params

end Gatehouse
