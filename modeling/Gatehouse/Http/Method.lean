import Gatehouse.Text.Utf8

/-!
# Request methods

A method is one of the nine registered ones or an extension, any other token. Methods
are told apart by case.

## Main definitions

* `Http.isTokenChar`: The characters of tokens.
* `Http.Method`: The methods.
* `Http.Method.ofName?`: The method of a name.
-/

namespace Gatehouse.Http

/-- Letters, digits and fifteen marks. -/
def isTokenChar (c : Char) : Bool :=
  c.isAlphanum || "!#$%&'*+-.^_\x60|~".toList.contains c

/-- Whether a text is a token. -/
def isToken (s : String) : Bool :=
  !s.isEmpty && s.toList.all isTokenChar

/-- A request method. -/
inductive Method where
  | options
  | get
  | post
  | put
  | delete
  | head
  | trace
  | connect
  | patch
  | extension (name : String)
  deriving DecidableEq, Repr

namespace Method

/-- The name of a method. -/
def name : Method → String
  | options => "OPTIONS"
  | get => "GET"
  | post => "POST"
  | put => "PUT"
  | delete => "DELETE"
  | head => "HEAD"
  | trace => "TRACE"
  | connect => "CONNECT"
  | patch => "PATCH"
  | extension name => name

/-- The methods that are not extensions. -/
def registered : List Method :=
  [options, get, post, put, delete, head, trace, connect, patch]

/-- The method of a name, or nothing when the name is no token. -/
def ofName? (s : String) : Option Method :=
  match registered.find? (·.name = s) with
  | some method => some method
  | none => if isToken s then some (extension s) else none

end Method

end Gatehouse.Http
