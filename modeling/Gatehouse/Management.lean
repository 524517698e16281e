import Gatehouse.Http.Message
import Gatehouse.Ledger.Basic
import Gatehouse.Operation

/-!
# The management interface

The calls that the gateway answers itself: on users, and on grants of either kind. Each
call has one path and one method, and asking for something may also be done without
wanting the body.

## Main definitions

* `Management`: The calls.
* `Management.path`, `Management.method`, `Management.operation`: Where a call is found
  and what it does.
* `Management.all`: All calls.
-/

namespace Gatehouse

/-- A call that the gateway answers itself. -/
inductive Management where
  | createUser
  | getUser
  | updatePassword
  | updateAdmin
  | deleteUser
  | createGrant (kind : Kind)
  | getGrant (kind : Kind)
  | updateGrant (kind : Kind)
  | deleteGrant (kind : Kind)
  deriving DecidableEq, Repr

namespace Management

/-- All calls. -/
def all : List Management :=
  [createUser, getUser, updatePassword, updateAdmin, deleteUser] ++
    [Kind.experiment, Kind.model].flatMap fun kind =>
      [createGrant kind, getGrant kind, updateGrant kind, deleteGrant kind]

/-- What the paths of all calls start with. -/
def root : String := "/api/2.0/mlflow"

/-- What the paths of the calls on grants of a kind start with. -/
def grantRoot : Kind → String
  | .experiment => root ++ "/experiments/permissions"
  | .model => root ++ "/registered-models/permissions"

/-- The path of a call. -/
def path : Management → String
  | createUser => root ++ "/users/create"
  | getUser => root ++ "/users/get"
  | updatePassword => root ++ "/users/update-password"
  | updateAdmin => root ++ "/users/update-admin"
  | deleteUser => root ++ "/users/delete"
  | createGrant kind => grantRoot kind ++ "/create"
  | getGrant kind => grantRoot kind ++ "/get"
  | updateGrant kind => grantRoot kind ++ "/update"
  | deleteGrant kind => grantRoot kind ++ "/delete"

/-- The method of a call. -/
def method : Management → Http.Method
  | createUser | createGrant _ => .post
  | getUser | getGrant _ => .get
  | updatePassword | updateAdmin | updateGrant _ => .patch
  | deleteUser | deleteGrant _ => .delete

/-- The operation that a call is. -/
def operation : Management → Operation
  | createUser => .createUser
  | getUser => .getUser
  | updatePassword => .updateUserPassword
  | updateAdmin => .updateUserAdmin
  | deleteUser => .deleteUser
  | createGrant .experiment => .createExperimentPermission
  | createGrant .model => .createRegisteredModelPermission
  | getGrant .experiment => .getExperimentPermission
  | getGrant .model => .getRegisteredModelPermission
  | updateGrant .experiment => .updateExperimentPermission
  | updateGrant .model => .updateRegisteredModelPermission
  | deleteGrant .experiment => .deleteExperimentPermission
  | deleteGrant .model => .deleteRegisteredModelPermission

end Management

end Gatehouse
