import Gatehouse.Text.Percent

/-!
# Coding of address parts

Each part of an address has a set of characters that it cannot hold as they are; these and
everything beyond ASCII are spelled out byte by byte.

## Main definitions

* `Url.needsCodingInPath`, `Url.needsCodingInQuery`, …: The sets.
* `Url.spell`: A text with the characters of a set spelled out.
-/

namespace Gatehouse.Url

/-- Control characters and everything beyond printable ASCII. -/
def isUnprintable (c : Char) : Bool := c.toNat < 0x20 || 0x7E < c.toNat

/-- What a fragment cannot hold. -/
def needsCodingInFragment (c : Char) : Bool :=
  isUnprintable c || c == ' ' || c == '"' || c == '<' || c == '>' || c == '\x60'

/-- What a query cannot hold. A quote is spelled out in addresses of the known schemes. -/
def needsCodingInQuery (known : Bool) (c : Char) : Bool :=
  isUnprintable c || c == ' ' || c == '"' || c == '#' || c == '<' || c == '>' ||
    (known && c == '\'')

/-- What a segment of a path cannot hold. -/
def needsCodingInPath (c : Char) : Bool :=
  needsCodingInQuery false c || c == '?' || c == '^' || c == '\x60' || c == '\x7b' ||
    c == '\x7d'

/-- What the names before a host cannot hold. -/
def needsCodingInUser (c : Char) : Bool :=
  needsCodingInPath c || c == '/' || c == ':' || c == ';' || c == '=' || c == '@' ||
    c == '[' || c == '\\' || c == ']' || c == '|'

/-- What is written for one character: its bytes spelled out, or itself. -/
def spellChar (needsCoding : Char → Bool) (c : Char) : List Char :=
  if needsCoding c then
    (Text.utf8 (String.singleton c)).flatMap fun b => (Text.percentByte b).map Text.asciiChar
  else [c]

/-- A text with the characters of a set spelled out. -/
def spell (needsCoding : Char → Bool) (text : List Char) : List Char :=
  text.flatMap (spellChar needsCoding)

end Gatehouse.Url
