import Gatehouse.Text.Form
import Gatehouse.Url.Coding

/-!
# Paths of addresses

The path of an address is a list of segments. A segment that is a dot stays where it is,
one that is two dots goes back by one, and both may be spelled out. In addresses of the
known schemes a backslash separates segments like a slash.

## Main definitions

* `Url.Path.segments`: The segments between separators.
* `Url.Path.resolve`: The segments that are left after the dots are followed.
* `Url.Path.text`: The written form.
-/

namespace Gatehouse.Url

namespace Path

/-- Whether a character separates segments. -/
def isSeparator (known : Bool) (c : Char) : Bool := c == '/' || (known && c == '\\')

/-- The segments of a text, a separator in front left aside. -/
def segments (known : Bool) (text : List Char) : List (List Char) :=
  let slashes := text.map fun c => if isSeparator known c then '/' else c
  match slashes with
  | '/' :: rest => Text.splitOn '/' rest
  | all => Text.splitOn '/' all

/-- A dot, as it is or spelled out, taken from the front. -/
def dropDot : List Char → Option (List Char)
  | '.' :: rest => some rest
  | '%' :: '2' :: e :: rest => if e = 'e' || e = 'E' then some rest else none
  | _ => none

/-- Whether a segment is a dot. -/
def isHere (segment : List Char) : Bool := dropDot segment = some []

/-- Whether a segment is two dots. -/
def isBack (segment : List Char) : Bool := ((dropDot segment).bind dropDot) = some []

/-- The segments after the given ones, which are in reverse, when dots are followed. A dot
at the end leaves an empty segment. -/
def resolveFrom : List (List Char) → List (List Char) → List (List Char)
  | before, [] => before.reverse
  | before, segment :: rest =>
    if isBack segment then
      resolveFrom (if rest.isEmpty then [] :: before.tail else before.tail) rest
    else if isHere segment then
      resolveFrom (if rest.isEmpty then [] :: before else before) rest
    else resolveFrom (spell needsCodingInPath segment :: before) rest

/-- The segments that are left when dots are followed. -/
def resolve (segments : List (List Char)) : List (List Char) := resolveFrom [] segments

/-- The segments with a slash before each. -/
def text (segments : List (List Char)) : List Char :=
  segments.flatMap ('/' :: ·)

end Path

end Gatehouse.Url
