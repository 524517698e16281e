import Gatehouse.Ledger.Schema

/-!
# Addresses of databases

Where the ledger is kept. A database in memory starts empty, and so does a file that may be
created; all else needs a file or a server that is not there. Opening a database brings its
schema up to date.

## Main definitions

* `Database.opens`: Whether an address leads to an empty database.
* `Database.connect`: The ledger at an address.
-/

namespace Gatehouse

namespace Database

/-- Whether the parameters of an address are known ones. -/
def isKnownOption : String × String → Bool
  | ("mode", value) => ["ro", "rw", "rwc", "memory"].contains value
  | ("cache", value) => ["private", "shared"].contains value
  | ("immutable", value) => ["true", "1", "false", "0"].contains value
  | ("vfs", _) => true
  | _ => false

/-- Whether an address leads to an empty database. -/
def opens (address : String) : Bool :=
  let scheme := "sqlite:".toList
  if scheme.isPrefixOf address.toList then
    let rest := address.toList.drop scheme.length
    -- Two slashes belong to the scheme.
    let rest := if "//".toList.isPrefixOf rest then rest.drop 2 else rest
    let (name, options) := Text.splitFirst '?' rest
    let options := Text.formDecode (Text.utf8 (String.ofList (options.getD [])))
    options.all isKnownOption &&
      (name = ":memory:".toList || options.contains ("mode", "memory") ||
        options.contains ("mode", "rwc"))
  else false

/-- The ledger at an address, its schema up to date. -/
def connect (address : String) : Except Error Ledger :=
  if opens address then .ok (up none empty).ledger
  else .error (.database "unable to open the database")

end Database

end Gatehouse
