import Gatehouse.Text.Blank
import Gatehouse.Url.Host
import Gatehouse.Url.Path

/-!
# Addresses

An address has a scheme, mostly a host with names and a number before and after it, a
path, and may have a query and a fragment. Blanks around an address and line breaks and
tabs in it do not count. Six schemes are known: their addresses always have a host and a
path of segments, and they take backslashes for slashes.

## Main definitions

* `Url`: The parts of an address.
* `Url.ofText?`: The address that a text spells.
* `Url.text`: The written form.
* `Url.addQuery`: The address with more pairs in its query.
-/

namespace Gatehouse

/-- The path of an address: segments, or any text where there is no hierarchy. -/
inductive UrlPath where
  | segments (list : List (List Char))
  | plain (text : List Char)
  deriving DecidableEq

/-- The parts of an address. -/
structure Url where
  scheme : List Char
  user : List Char
  password : List Char
  host : Option Url.Host
  number : Option Nat
  path : UrlPath
  query : Option (List Char)
  fragment : Option (List Char)
  deriving DecidableEq

namespace Url

/-- The known schemes with the numbers that their servers usually have. -/
def knownSchemes : List (String × Option Nat) :=
  [("http", some 80), ("https", some 443), ("ws", some 80), ("wss", some 443),
   ("ftp", some 21), ("file", none)]

/-- Whether a scheme is a known one. -/
def isKnown (scheme : List Char) : Bool :=
  knownSchemes.any (·.1.toList = scheme)

/-- The usual number of a scheme. -/
def usual? (scheme : List Char) : Option Nat :=
  (knownSchemes.find? (·.1.toList = scheme)).bind (·.2)

/-- A text without blanks and controls around it and without tabs and line breaks. -/
def clean (text : List Char) : List Char :=
  (Text.trimList (·.toNat ≤ 0x20) text).filter fun c => c != '\t' && c != '\n' && c != '\r'

/-- Whether a character may stand in a scheme. -/
def isSchemeChar (c : Char) : Bool := c.isAlphanum || c == '+' || c == '-' || c == '.'

/-- The scheme of a text in lower case, and what follows its colon. -/
def splitScheme? (text : List Char) : Option (List Char × List Char) :=
  match text with
  | c :: _ =>
    if c.isAlpha then
      match text.dropWhile isSchemeChar with
      | ':' :: rest => some ((text.takeWhile isSchemeChar).map Char.toLower, rest)
      | _ => none
    else none
  | [] => none

/-- What stands before the first character of a kind, and the rest from it on. -/
def splitAt (p : Char → Bool) (text : List Char) : List Char × List Char :=
  (text.takeWhile (!p ·), text.dropWhile (!p ·))

/-- Fragment and query of a text, and what is before them. -/
def splitTail (known : Bool) (text : List Char) :
    List Char × Option (List Char) × Option (List Char) :=
  let (text, fragment) := Text.splitFirst '#' text
  let (text, query) := Text.splitFirst '?' text
  (text, query.map (spell (needsCodingInQuery known)),
    fragment.map (spell needsCodingInFragment))

/-- The number after a host, the usual one of its scheme left out. -/
def numberOf? (scheme digits : List Char) : Option (Option Nat) :=
  if digits.isEmpty then some none
  else if digits.all Char.isDigit then
    let n := digits.foldl (fun n c => n * 10 + (c.toNat - 48)) 0
    if n < UInt16.size then some (if usual? scheme = some n then none else some n) else none
  else none

/-- The text of a host and the digits after it; a colon in brackets belongs to the host. -/
def splitHost (text : List Char) : List Char × Option (List Char) :=
  match text with
  | '[' :: _ =>
    let (inside, rest) := splitAt (· == ']') text
    match rest with
    | ']' :: ':' :: digits => (inside ++ [']'], some digits)
    | rest => (inside ++ rest, none)
  | _ => Text.splitFirst ':' text

/-- The names before a host and the rest, when there is an at-sign. -/
def splitUser (text : List Char) : Option (List Char) × List Char :=
  let (host, user) := Text.splitFirst '@' text.reverse
  (user.map List.reverse, host.reverse)

/-- An address from its scheme, what stands between its slashes and its path, and the
rest. -/
def withAuthority? (scheme authority : List Char) (path : UrlPath)
    (query fragment : Option (List Char)) : Option Url := do
  let (user, place) := splitUser authority
  let (name, password) := Text.splitFirst ':' (user.getD [])
  let (host, digits) := splitHost place
  -- A user or a number needs a host, and so does an address of the web.
  if host.isEmpty && (user.isSome || digits.isSome || (isKnown scheme && scheme ≠ "file".toList))
  then none
  let host ← if host.isEmpty then some (.name []) else Host.ofText? (isKnown scheme) host
  let number ← numberOf? scheme (digits.getD [])
  some ⟨scheme, spell needsCodingInUser name, spell needsCodingInUser (password.getD []),
    some host, number, path, query, fragment⟩

/-- The path of segments that a text spells; under a known scheme there is always one. -/
def pathOf (known : Bool) (text : List Char) : UrlPath :=
  if text.isEmpty && !known then .segments []
  else .segments (Path.resolve (Path.segments known text))

/-- The address that follows a known scheme. -/
def knownOf? (scheme rest : List Char) : Option Url :=
  let rest := if scheme = "file".toList then
      match rest.map fun c => if c = '\\' then '/' else c with
      | '/' :: '/' :: _ => rest.drop 2
      | _ => '/' :: rest
    else rest.dropWhile (Path.isSeparator true)
  let (authority, rest) := splitAt (fun c => c == '/' || c == '\\' || c == '?' || c == '#') rest
  let (path, query, fragment) := splitTail true rest
  withAuthority? scheme authority (pathOf true path) query fragment

/-- The address that follows any other scheme. -/
def otherOf? (scheme rest : List Char) : Option Url :=
  match rest with
  | '/' :: '/' :: rest =>
    let (authority, rest) := splitAt (fun c => c == '/' || c == '?' || c == '#') rest
    let (path, query, fragment) := splitTail false rest
    withAuthority? scheme authority (pathOf false path) query fragment
  | '/' :: _ =>
    let (path, query, fragment) := splitTail false rest
    some ⟨scheme, [], [], none, none, pathOf false path, query, fragment⟩
  | _ =>
    let (path, query, fragment) := splitTail false rest
    some ⟨scheme, [], [], none, none, .plain (spell isUnprintable path), query, fragment⟩

/-- The address that a text spells, or nothing when it is none. -/
def ofText? (s : String) : Option Url := do
  let (scheme, rest) ← splitScheme? (clean s.toList)
  if isKnown scheme then knownOf? scheme rest else otherOf? scheme rest

/-- The names before a host with the at-sign after them. -/
def userText (url : Url) : List Char :=
  if url.user.isEmpty && url.password.isEmpty then []
  else url.user ++ (if url.password.isEmpty then [] else ':' :: url.password) ++ ['@']

/-- The host with what stands around it. -/
def authorityText (url : Url) : List Char :=
  match url.host with
  | none => []
  | some host =>
    '/' :: '/' :: (url.userText ++ host.text ++
      match url.number with
      | none => []
      | some n => ':' :: Nat.toDigits 10 n)

/-- The path as it is written. -/
def pathText (url : Url) : List Char :=
  match url.path with
  | .segments list => Path.text list
  | .plain text => text

/-- An optional part with its mark. -/
def marked (mark : Char) : Option (List Char) → List Char
  | none => []
  | some text => mark :: text

/-- The written form. -/
def text (url : Url) : String :=
  String.ofList (url.scheme ++ ':' :: (url.authorityText ++ url.pathText ++
    marked '?' url.query ++ marked '#' url.fragment))

/-- The address with more pairs in its query. Without any, an empty query is left out. -/
def addQuery (url : Url) (pairs : List (String × String)) : Url :=
  if pairs.isEmpty then { url with query := url.query.filter (!·.isEmpty) }
  else
    let more := (Text.formEncode pairs).map Text.asciiChar
    { url with
      query := match url.query with
        | none => some more
        | some held => some (if held.isEmpty then more else held ++ '&' :: more) }

end Url

end Gatehouse
