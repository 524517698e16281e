import Gatehouse.Tracker
import Gatehouse.Url

/-!
# The site of a tracking server

Where a tracking server is reached, and how. Every path below the gateway has its address
below the base address of the server, whose own path stays in front. A transport carries a
request there and brings the reply back, unless the server cannot be reached.

## Main definitions

* `Site`, `Site.ofText`: The base address of a server.
* `Site.address`: The address of a path.
* `Outgoing`, `Transport`: A request to a server, and what carries it.
* `Transport.send`, `Transport.ask`: The reply, and the document that it holds.
-/

namespace Gatehouse

/-- The base address of a server. -/
structure Site where
  base : Url

namespace Site

/-- The site that a text spells. -/
def ofText (text : String) : Except Error Site :=
  match Url.ofText? text with
  | some base => .ok ⟨base⟩
  | none => .error (.fault (.trackerAddress text))

/-- The base address without slashes at its end. -/
def trimmed (site : Site) : String :=
  String.ofList (site.base.text.toList.reverse.dropWhile (· == '/')).reverse

/-- The address of a path, with its query if it has one. -/
def address (site : Site) (path : String) : Except Error Url :=
  match Url.ofText? (site.trimmed ++ path) with
  | some url => .ok url
  | none => .error (.badRequest (.destination path))

end Site

/-- A request to a server. -/
structure Outgoing where
  method : Http.Method
  url : Url
  headers : Http.Headers
  body : Bytes

/-- What carries a request to a server and brings back the reply, the last one when the
server sends it elsewhere; nothing when the server cannot be reached. -/
abbrev Transport (σ : Type) := Outgoing → StateM σ (Option Http.Response)

namespace Transport

variable {σ : Type}

/-- The reply to a request. -/
def send (transport : Transport σ) (outgoing : Outgoing) : Action σ Http.Response := do
  match ← (transport outgoing : StateM σ (Option Http.Response)) with
  | some reply => pure reply
  | none => throw (.unreachable "no reply")

/-- What a reply says when it is no success. -/
def complaint (status : Nat) (body : Json) : Error :=
  let told := (body.get? "message").bind Json.string?
  if status = 404 then .absent (.reported (told.getD (Fault.trackerStatus status).message))
  else
    match told with
    | some message => .fault (.reported message)
    | none => .fault (.trackerStatus status)

/-- The document that the reply to a request holds. -/
def ask (transport : Transport σ) (outgoing : Outgoing) : Action σ Json := do
  let reply ← transport.send outgoing
  let body := (Json.ofBytes? reply.body).getD .null
  if 200 ≤ reply.status && reply.status < 300 then pure body
  else throw (complaint reply.status body)

end Transport

end Gatehouse
