import Gatehouse.Http.Headers
import Gatehouse.Http.Target
import Gatehouse.Json.Printer

/-!
# Requests and responses

A request carries a body that may turn out to be longer than allowed when it is read; a
response carries its bytes.

## Main definitions

* `Http.Body`: What reading the body of a request gives.
* `Http.Request`, `Http.Response`: Messages.
* `Http.Response.ofText`, `Http.Response.ofJson`: Responses with a content type.
* `Http.reason`: The phrase of a status.
-/

namespace Gatehouse.Http

/-- The body of a request: all of it, or more than may be read. -/
inductive Body where
  | whole (bytes : Bytes)
  | tooLong
  deriving DecidableEq

/-- A request. -/
structure Request where
  method : Method
  target : Target
  headers : Headers
  body : Body

/-- A response. -/
structure Response where
  status : Nat
  headers : Headers
  body : Bytes

namespace Body

/-- The bytes, unless there are too many. -/
def read? : Body → Option Bytes
  | whole bytes => some bytes
  | tooLong => none

/-- The body when at most this many bytes may be read. -/
def upTo (limit : Nat) : Body → Body
  | whole bytes => if bytes.length ≤ limit then whole bytes else tooLong
  | tooLong => tooLong

end Body

namespace Response

/-- A response with a text. -/
def ofText (status : Nat) (text : String) : Response :=
  ⟨status, [("content-type", "text/plain; charset=utf-8")], Text.utf8 text⟩

/-- A response with a document. -/
def ofJson (status : Nat) (value : Json) : Response :=
  ⟨status, [("content-type", "application/json")], value.bytes⟩

/-- Whether the status reports an error of the client or of the server. -/
def isFailure (response : Response) : Bool :=
  400 ≤ response.status && response.status < 600

end Response

/-- The registered statuses with their phrases. -/
def reasons : List (Nat × String) :=
  [(100, "Continue"), (101, "Switching Protocols"), (102, "Processing"), (103, "Early Hints"),
   (200, "OK"), (201, "Created"), (202, "Accepted"), (203, "Non Authoritative Information"),
   (204, "No Content"), (205, "Reset Content"), (206, "Partial Content"),
   (207, "Multi-Status"), (208, "Already Reported"), (226, "IM Used"),
   (300, "Multiple Choices"), (301, "Moved Permanently"), (302, "Found"), (303, "See Other"),
   (304, "Not Modified"), (305, "Use Proxy"), (307, "Temporary Redirect"),
   (308, "Permanent Redirect"), (400, "Bad Request"), (401, "Unauthorized"),
   (402, "Payment Required"), (403, "Forbidden"), (404, "Not Found"),
   (405, "Method Not Allowed"), (406, "Not Acceptable"),
   (407, "Proxy Authentication Required"), (408, "Request Timeout"), (409, "Conflict"),
   (410, "Gone"), (411, "Length Required"), (412, "Precondition Failed"),
   (413, "Payload Too Large"), (414, "URI Too Long"), (415, "Unsupported Media Type"),
   (416, "Range Not Satisfiable"), (417, "Expectation Failed"), (418, "I'm a teapot"),
   (421, "Misdirected Request"), (422, "Unprocessable Entity"), (423, "Locked"),
   (424, "Failed Dependency"), (425, "Too Early"), (426, "Upgrade Required"),
   (428, "Precondition Required"), (429, "Too Many Requests"),
   (431, "Request Header Fields Too Large"), (451, "Unavailable For Legal Reasons"),
   (500, "Internal Server Error"), (501, "Not Implemented"), (502, "Bad Gateway"),
   (503, "Service Unavailable"), (504, "Gateway Timeout"),
   (505, "HTTP Version Not Supported"), (506, "Variant Also Negotiates"),
   (507, "Insufficient Storage"), (508, "Loop Detected"), (510, "Not Extended"),
   (511, "Network Authentication Required")]

/-- The phrase of a status. -/
def reason (status : Nat) : String :=
  (reasons.lookup status).getD "<unknown status code>"

end Gatehouse.Http
