import Gatehouse.Text.Utf8

/-!
# Request targets

What a request line asks for: a path with an optional query, a lone asterisk, a lone
authority, or an absolute address. A fragment is dropped. Bytes beyond ASCII may stand in
paths and queries as they are.

## Main definitions

* `Http.Target`: The parts of a target.
* `Http.Target.ofText?`: The target that a text spells.
* `Http.Target.path`: The path that a request is about.
* `Http.Target.forwarded`: Path and query as they are passed on.
* `Http.Target.text`: The written form.
-/

namespace Gatehouse.Http

/-- The parts of a request target. The raw path is empty for a lone authority, and may be
empty after an authority. -/
structure Target where
  scheme : Option String
  authority : String
  rawPath : String
  query : Option String
  deriving DecidableEq, Repr

namespace Target

/-- The greatest length of a target in bytes. -/
def maxLength : Nat := 65534

/-- The greatest length of a scheme. -/
def maxScheme : Nat := 64

/-- How many colons an authority may have before its last bracket or at-sign. -/
def maxColons : Nat := 8

/-- Whether a character may stand in a path. -/
def isPathChar (c : Char) : Bool :=
  c.toNat ≥ 0x21 && c != '#' && c != '<' && c != '>' && c != '?' && c != '\x60'

/-- Whether a character may stand in a query. -/
def isQueryChar (c : Char) : Bool :=
  c.toNat ≥ 0x21 && c != '"' && c != '#' && c != '<' && c != '>'

/-- Whether a character may stand in a scheme. -/
def isSchemeChar (c : Char) : Bool :=
  c.isAlphanum || c == '+' || c == '-' || c == '.'

/-- Whether a character may stand in an authority, the percent sign left aside. -/
def isAuthorityChar (c : Char) : Bool :=
  c.isAlphanum || "!$&'()*+,-.:;=@[]_~".toList.contains c

/-- What a query consists of, without the fragment after it. -/
def queryOf? (text : List Char) : Option String :=
  let query := text.takeWhile (· != '#')
  if query.all isQueryChar then some (String.ofList query) else none

/-- The path and the query of a text, without the fragment after them. -/
def pathAndQuery? (text : List Char) : Option (String × Option String) :=
  let path := text.takeWhile fun c => c != '?' && c != '#'
  if path.all isPathChar then
    match text.dropWhile fun c => c != '?' && c != '#' with
    | '?' :: rest => (queryOf? rest).map fun query => (String.ofList path, some query)
    | _ => some (String.ofList path, none)
  else none

/-- What has been seen of an authority: colons and a percent sign since the last bracket
or at-sign, brackets, and whether an at-sign was last. -/
structure Seen where
  colons : Nat
  opened : Bool
  closed : Bool
  percent : Bool
  atLast : Bool

/-- The effect of one character of an authority. -/
def Seen.step (seen : Seen) (c : Char) : Option Seen :=
  let seen := { seen with atLast := false }
  if c = ':' then
    if seen.colons < maxColons then some { seen with colons := seen.colons + 1 } else none
  else if c = '[' then
    if seen.percent || seen.opened then none else some { seen with opened := true }
  else if c = ']' then
    if seen.opened && !seen.closed then
      some { seen with closed := true, colons := 0, percent := false }
    else none
  else if c = '@' then some { seen with colons := 0, percent := false, atLast := true }
  else if c = '%' then some { seen with percent := true }
  else if isAuthorityChar c then some seen
  else none

/-- Whether a text is an authority: paired brackets, at most one colon in its host, and
no percent sign there. -/
def isAuthority (text : List Char) : Bool :=
  match text.foldlM Seen.step ⟨0, false, false, false, false⟩ with
  | none => false
  | some seen =>
    seen.opened == seen.closed && seen.colons ≤ 1 && !seen.atLast && !seen.percent

/-- The characters before the path, query or fragment, and the rest. -/
def splitAuthority (text : List Char) : List Char × List Char :=
  (text.takeWhile fun c => c != '/' && c != '?' && c != '#',
    text.dropWhile fun c => c != '/' && c != '?' && c != '#')

/-- The scheme that a text starts with and what follows its two slashes. -/
def splitScheme (text : List Char) : Option (List Char × List Char) :=
  if text.length ≤ 3 then none
  else
    match text.dropWhile isSchemeChar with
    | ':' :: '/' :: '/' :: rest => some (text.takeWhile isSchemeChar, rest)
    | _ => none

/-- The scheme as it is kept: the two common ones in lower case. -/
def schemeText (scheme : List Char) : String :=
  let lower := scheme.map Char.toLower
  String.ofList (if lower = "http".toList || lower = "https".toList then lower else scheme)

/-- The target that a text spells, or nothing when it is none. -/
def ofText? (s : String) : Option Target :=
  let text := s.toList
  if (Text.utf8 s).length > maxLength then none
  else
    match text with
    | [] => none
    | ['*'] => some ⟨none, "", "*", none⟩
    | '/' :: _ => (pathAndQuery? text).map fun (path, query) => ⟨none, "", path, query⟩
    | _ =>
      match splitScheme text with
      | none =>
        -- Without a scheme it can only be an authority.
        let (authority, rest) := splitAuthority text
        if rest.isEmpty && isAuthority authority then
          some ⟨none, String.ofList authority, "", none⟩
        else none
      | some (scheme, rest) =>
        let (authority, rest) := splitAuthority rest
        if scheme.length ≤ maxScheme && !authority.isEmpty && isAuthority authority then
          (pathAndQuery? rest).map fun (path, query) =>
            ⟨some (schemeText scheme), String.ofList authority, path, query⟩
        else none

/-- The path that a request is about; an absolute address without one is about the
root. -/
def path (target : Target) : String :=
  if target.rawPath.isEmpty && target.scheme.isSome then "/" else target.rawPath

/-- A query with the mark in front of it. -/
def queryText : Option String → String
  | none => ""
  | some query => "?" ++ query

/-- Path and query as they are passed on; the root when there is neither. -/
def forwarded (target : Target) : String :=
  let text := target.rawPath ++ queryText target.query
  if text.isEmpty then "/" else text

/-- The written form. -/
def text (target : Target) : String :=
  (match target.scheme with
    | some scheme => scheme ++ "://"
    | none => "") ++
  target.authority ++ target.path ++ queryText target.query

end Target

end Gatehouse.Http
