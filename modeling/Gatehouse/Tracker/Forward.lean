import Gatehouse.Tracker.Site

/-!
# Forwarding

What the gateway does not answer itself goes on to the tracking server as it came, and the
reply comes back as it is. Only what concerns one connection is left out, and credentials
stay at the gateway.

## Main definitions

* `Forward.ownFields`: The header fields that concern one connection.
* `Forward.outgoing`: The request that goes on.
* `Forward.service`: The response to a request.
-/

namespace Gatehouse

namespace Forward

variable {σ : Type}

/-- The header fields that concern one connection. -/
def ownFields : List String :=
  ["connection", "keep-alive", "proxy-authenticate", "proxy-authorization", "te", "trailer",
   "transfer-encoding", "upgrade"]

/-- The header fields of a request that do not go on. -/
def keptFields : List String := ownFields ++ ["host", "authorization"]

/-- The header fields without some. -/
def without (names : List String) (headers : Http.Headers) : Http.Headers :=
  headers.filter fun field => !names.contains field.1

/-- The request that goes on. -/
def outgoing (site : Site) (request : Http.Request) : Except Error Outgoing := do
  let url ← site.address request.target.forwarded
  match request.body.read? with
  | none => .error (.badRequest .bodyTooLong)
  | some body => .ok ⟨request.method, url, without keptFields request.headers, body⟩

/-- The reply to a request that goes on, or why there is none. -/
def forward (site : Site) (transport : Transport σ) (request : Http.Request) :
    Action σ Http.Response := do
  let outgoing ← Action.of (outgoing site request)
  let reply ← transport.send outgoing
  pure { reply with headers := without ownFields reply.headers }

/-- The response to a request. -/
def service (site : Site) (transport : Transport σ) (request : Http.Request) :
    StateM σ Http.Response := do
  match ← (forward site transport request).run with
  | .ok response => pure response
  | .error e => pure e.response

end Forward

end Gatehouse
