import Gatehouse.Level

/-!
# Readability

Which resources a user may read: by key where he holds a grant, and by default elsewhere.

## Main definitions

* `Readability`: The keys with a grant and the default.
* `Readability.canRead`: Whether a key may be read.
-/

namespace Gatehouse

/-- Whether the keys with a grant may be read, and whether the others may. -/
structure Readability where
  byKey : List (String × Bool)
  default : Bool

namespace Readability

/-- The readability that grants give, with a default level for the other keys. Of two grants
on one key the later one counts. -/
def ofGrants (grants : List (String × Level)) (default : Level) : Readability :=
  ⟨grants.reverse.map fun grant => (grant.1, grant.2.allows .read), default.allows .read⟩

/-- Whether a key may be read; a row without a key has the default. -/
def canRead (readability : Readability) : Option String → Bool
  | some key => (readability.byKey.lookup key).getD readability.default
  | none => readability.default

end Readability

end Gatehouse
