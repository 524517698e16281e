import Gatehouse.Text.Base64
import Gatehouse.Text.Form

/-!
# Secrets

What is kept to verify the password of an account. Only whether a password verifies can
be told from outside, so a secret is the password itself, or a stored form for which no
password is known: one that has no digest of a password, or one that is not readable at
all.

## Main definitions

* `Secret`: What is kept.
* `Secret.verify?`: Whether a password verifies, if the secret is readable.
* `Secret.ofStored`: The secret of a stored form.
-/

namespace Gatehouse

/-- What is kept to verify a password. -/
inductive Secret where
  | password (text : String)
  | noPassword
  | unreadable
  deriving DecidableEq, Repr

namespace Secret

/-- Whether a password verifies, or nothing when the secret is not readable. -/
def verify? (given : String) : Secret → Option Bool
  | password text => some (given = text)
  | noPassword => some false
  | unreadable => none

/-- A name in a stored form: lower-case letters, digits and dashes. -/
def isIdent (s : List Char) : Bool :=
  !s.isEmpty && s.length ≤ 32 && s.all fun c => c.isLower || c.isDigit || c == '-'

/-- A value in a stored form. -/
def isValue (s : List Char) : Bool :=
  s.length ≤ 64 && s.all fun c => c.isAlphanum || "-+/.".toList.contains c

/-- A version: a number of 32 bits without leading zeros. -/
def isVersion (s : List Char) : Bool :=
  !s.isEmpty && s.all Char.isDigit && (s.length == 1 || s.head? != some '0') &&
    s.foldl (fun n c => n * 10 + (c.toNat - 48)) 0 < UInt32.size

/-- A list of parameters, each a name and a value. -/
def isParameters (s : List Char) : Bool :=
  s.length ≤ 127 && (Text.splitOn ',' s).all fun parameter =>
    match Text.splitOn '=' parameter with
    | [name, value] => isIdent name && isValue value
    | _ => false

/-- A salt. -/
def isSalt (s : List Char) : Bool :=
  4 ≤ s.length && s.length ≤ 64 && s.all fun c => c.isAlphanum || c == '/' || c == '+'

/-- A digest: 10 to 64 bytes in base64 without padding. -/
def isDigest (s : List Char) : Bool :=
  let padding := List.replicate ((4 - s.length % 4) % 4) '='
  !s.contains '=' &&
    match Text.base64Decode? (s ++ padding) with
    | some bytes => 10 ≤ bytes.length && bytes.length ≤ 64
    | none => false

/-- The fields of a stored form from the salt on: at most a salt and a digest. -/
def isTail : List (List Char) → Bool
  | [] => true
  | [salt] => isSalt salt
  | [salt, digest] => isSalt salt && isDigest digest
  | _ => false

/-- The fields of a stored form from the parameters on. -/
def isSettings : List (List Char) → Bool
  | field :: rest =>
    if field.contains '=' then isParameters field && isTail rest else isTail (field :: rest)
  | [] => true

/-- The fields of a stored form after the name of the algorithm. -/
def isBody : List (List Char) → Bool
  | ('v' :: '=' :: version) :: rest =>
    if version.contains ',' then isSettings (('v' :: '=' :: version) :: rest)
    else isVersion version && isSettings rest
  | fields => isSettings fields

/-- Whether a text is a stored form: fields after dollar signs, first the name of an
algorithm, then a version, parameters, a salt and a digest, each of which may be left
out. -/
def isStored (text : String) : Bool :=
  match Text.splitOn '$' text.toList with
  | [] :: algorithm :: fields => isIdent algorithm && isBody fields
  | _ => false

/-- The secret of a stored form for which no password is known. -/
def ofStored (text : String) : Secret :=
  if isStored text then noPassword else unreadable

end Secret

end Gatehouse
