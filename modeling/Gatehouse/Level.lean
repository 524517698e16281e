import Gatehouse.Error

/-!
# Permission levels

A level says which of four capabilities its holder has on one resource. The levels need
not nest: each capability of each level is given on its own.

## Main definitions

* `Capability`: What a request may need.
* `Level`: The levels.
* `Level.allows`: Whether a level has a capability.
* `Level.ofName`, `Level.ofJson`: The level of a name, and of a document.

## Theorems

* `Level.ofName_name`: A level is read back from its name.
-/

namespace Gatehouse

/-- A capability that a request may need on a resource. -/
inductive Capability where
  | read
  | update
  | delete
  | manage
  deriving DecidableEq, Repr

/-- A permission level. -/
inductive Level where
  | read
  | edit
  | update
  | manage
  | noPermissions
  deriving DecidableEq, Repr

/-- The name of a capability. -/
def Capability.name : Capability → String
  | read => "read"
  | update => "update"
  | delete => "delete"
  | manage => "manage"

namespace Level

/-- All levels. -/
def all : List Level := [read, edit, update, manage, noPermissions]

/-- The name of a level. -/
def name : Level → String
  | read => "READ"
  | edit => "EDIT"
  | update => "UPDATE"
  | manage => "MANAGE"
  | noPermissions => "NO_PERMISSIONS"

/-- Whether a level has a capability. -/
def allows : Level → Capability → Bool
  | read, .read => true
  | edit, .read | edit, .update => true
  | update, .read | update, .update => true
  | manage, _ => true
  | _, _ => false

/-- The level of a name. -/
def ofName (name : String) : Except Error Level :=
  match all.find? (·.name = name) with
  | some level => .ok level
  | none => .error (.badLevel name)

/-- The level that a document names. -/
def ofJson : Json → Except Error Level
  | .string name =>
    match ofName name with
    | .ok level => .ok level
    | .error _ => .error .document
  | _ => .error .document

theorem ofName_name (level : Level) : ofName level.name = .ok level := by
  cases level <;> rfl

end Level

end Gatehouse
