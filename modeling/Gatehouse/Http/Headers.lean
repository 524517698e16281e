import Gatehouse.Http.Method

/-!
# Header fields

The fields of a message in order of arrival. Names are kept in lower case, and a name may
occur more than once. A value may hold any text without control characters, but only
visible ASCII counts as readable.

## Main definitions

* `Http.Headers`: Fields in order.
* `Http.Headers.add?`: One more field, if name and value are allowed.
* `Http.Headers.first?`, `Http.Headers.readable?`: The first value of a name.
* `Http.Headers.remove`, `Http.Headers.set`: The fields without a name, and with one
  value for it.
-/

namespace Gatehouse.Http

/-- Fields with their names in lower case, in order of arrival. -/
abbrev Headers := List (String × String)

/-- Whether a value may be sent: no control character but the tab. -/
def isFieldValue (value : String) : Bool :=
  value.toList.all fun c => (32 ≤ c.toNat && c.toNat != 127) || c == '\t'

/-- Whether a value reads as text: visible ASCII, the space and the tab. -/
def isVisible (value : String) : Bool :=
  value.toList.all fun c => (32 ≤ c.toNat && c.toNat < 127) || c == '\t'

namespace Headers

/-- The name as it is kept. -/
def key (name : String) : String := String.ofList (name.toList.map Char.toLower)

/-- The fields with one more, or nothing when its name or value is not allowed. -/
def add? (headers : Headers) (name value : String) : Option Headers :=
  if isToken name && isFieldValue value then some (headers ++ [(key name, value)]) else none

/-- The first value of a name in lower case. -/
def first? (name : String) (headers : Headers) : Option String :=
  (headers.find? (·.1 = name)).map (·.2)

/-- The first value of a name, when it reads as text. -/
def readable? (name : String) (headers : Headers) : Option String :=
  (first? name headers).filter isVisible

/-- The fields without those of a name. -/
def remove (name : String) (headers : Headers) : Headers :=
  headers.filter (·.1 ≠ name)

/-- The fields with one value for a name. -/
def set (name value : String) (headers : Headers) : Headers :=
  remove name headers ++ [(name, value)]

end Headers

end Gatehouse.Http
