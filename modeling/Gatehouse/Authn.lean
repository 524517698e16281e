import Gatehouse.Ledger.Accounts
import Gatehouse.Text.Base64
import Gatehouse.Text.Blank
import Gatehouse.Text.Form

/-!
# Authentication

Who sends a request. One scheme takes a name and a password from the authorization header
and checks them against the accounts; the other trusts a header in which a proxy in front
of the gateway has put the name of a registered user.

## Main definitions

* `Authn.Scheme`, `Authn.Scheme.ofName`: The schemes and their names.
* `Authn.basicCredentials?`: Name and password of the authorization header.
* `Authn.authenticate`: The sender of a request, if it has shown who it is.
-/

namespace Gatehouse

namespace Authn

/-- A way to tell who sends a request. -/
inductive Scheme where
  | basic
  | remoteUser
  deriving DecidableEq, Repr

/-- Whom a request comes from, with the password when one was given. -/
structure Credentials where
  username : String
  password : Option String
  deriving DecidableEq, Repr

/-- The names of the schemes. -/
def schemeNames : List (String × Scheme) :=
  [("basic", .basic), ("trackgate.authn:basic", .basic), ("remote-user", .remoteUser),
   ("trackgate.authn:remote_user", .remoteUser)]

/-- The scheme of a name. -/
def Scheme.ofName (name : String) : Except Error Scheme :=
  match schemeNames.lookup name with
  | some scheme => .ok scheme
  | none => .error (.fault (.authorization name))

/-- Name and password of a payload: the base64 form of both with a colon between them. -/
def payloadCredentials? (payload : List Char) : Option (String × String) := do
  let bytes ← Text.base64Decode? (Text.trimList Text.isBlank payload)
  let text ← Text.ofUtf8? bytes
  let (username, password) := Text.splitFirst ':' text.toList
  some (String.ofList username, String.ofList (← password))

/-- Name and password of the authorization header. -/
def basicCredentials? (headers : Http.Headers) : Option (String × String) := do
  let value ← Http.Headers.readable? "authorization" headers
  let (scheme, payload) := Text.splitFirst ' ' value.toList
  let payload ← payload
  if scheme.map Char.toLower = "basic".toList then payloadCredentials? payload else none

/-- The name in the header of a trusted proxy. -/
def remoteUser? (headers : Http.Headers) : Option String :=
  ((Http.Headers.readable? "x-remote-user" headers).map Text.trim).filter (!·.isEmpty)

/-- The sender of a request, or nothing when it has to show who it is. -/
def authenticate (scheme : Scheme) (headers : Http.Headers) (ledger : Ledger) :
    Except Error (Option Credentials) :=
  match scheme with
  | .basic =>
    match basicCredentials? headers with
    | none => .ok none
    | some (username, password) =>
      (ledger.authenticate username password).map fun verified =>
        if verified then some ⟨username, some password⟩ else none
  | .remoteUser =>
    -- The name is believed, and only looked up.
    match remoteUser? headers with
    | none => .ok none
    | some username =>
      (ledger.hasUser username).map fun known =>
        if known then some ⟨username, none⟩ else none

end Authn

end Gatehouse
