import Gatehouse.Level

/-!
# Operations

What a request can ask for, what has to be checked before it is carried out, and what
has to follow when it succeeds.

## Main definitions

* `Operation`: The operations.
* `Subject`: The resource on which a check is decided, and where its name stands.
* `Check`: What has to hold of the caller.
* `Followup`: What has to follow a success.
* `Operation.check?`, `Operation.followup?`: Both for each operation.
-/

namespace Gatehouse

/-- An operation of the tracking server or of the gateway itself. -/
inductive Operation where
  | createExperiment
  | getExperiment
  | getExperimentByName
  | deleteExperiment
  | restoreExperiment
  | updateExperiment
  | setExperimentTag
  | deleteExperimentTag
  | searchExperiments
  | createRun
  | getRun
  | deleteRun
  | restoreRun
  | updateRun
  | logMetric
  | logBatch
  | logModel
  | setTag
  | deleteTag
  | logParam
  | getMetricHistory
  | listArtifacts
  | createRegisteredModel
  | getRegisteredModel
  | deleteRegisteredModel
  | updateRegisteredModel
  | renameRegisteredModel
  | searchRegisteredModels
  | getLatestVersions
  | createModelVersion
  | getModelVersion
  | deleteModelVersion
  | updateModelVersion
  | transitionModelVersionStage
  | getModelVersionDownloadUri
  | setRegisteredModelTag
  | deleteRegisteredModelTag
  | setModelVersionTag
  | deleteModelVersionTag
  | setRegisteredModelAlias
  | deleteRegisteredModelAlias
  | getModelVersionByAlias
  | createLoggedModel
  | getLoggedModel
  | deleteLoggedModel
  | finalizeLoggedModel
  | setLoggedModelTags
  | deleteLoggedModelTag
  | logLoggedModelParams
  | searchLoggedModels
  | createUser
  | getUser
  | updateUserPassword
  | updateUserAdmin
  | deleteUser
  | createExperimentPermission
  | getExperimentPermission
  | updateExperimentPermission
  | deleteExperimentPermission
  | createRegisteredModelPermission
  | getRegisteredModelPermission
  | updateRegisteredModelPermission
  | deleteRegisteredModelPermission
  deriving DecidableEq, Repr

/-- The resource on which a check is decided. Runs and logged models belong to an
experiment; the experiment of an artifact stands in its path, and a listing of artifacts
has none. -/
inductive Subject where
  | experimentId
  | experimentName
  | runId
  | loggedModelId
  | modelName
  | artifact (experiment : Option String)
  deriving DecidableEq, Repr

/-- What has to hold of the caller: a capability on a subject, that the request is about
the caller, or that the caller is an administrator. -/
inductive Check where
  | capability (subject : Subject) (capability : Capability)
  | sender
  | admin
  deriving DecidableEq, Repr

/-- What has to follow a success. -/
inductive Followup where
  | grantExperiment
  | grantModel
  | dropModelGrants
  | renameModelGrants
  | narrowExperiments
  | narrowLoggedModels
  | narrowModels
  deriving DecidableEq, Repr

namespace Operation

/-- What has to be checked before an operation. Creations of top-level resources and
searches are open to every user. -/
def check? : Operation → Option Check
  | getExperiment => some (.capability .experimentId .read)
  | getExperimentByName => some (.capability .experimentName .read)
  | deleteExperiment | restoreExperiment => some (.capability .experimentId .delete)
  | updateExperiment | setExperimentTag | deleteExperimentTag =>
    some (.capability .experimentId .update)
  | createRun => some (.capability .experimentId .update)
  | getRun | getMetricHistory | listArtifacts => some (.capability .runId .read)
  | deleteRun | restoreRun => some (.capability .runId .delete)
  | updateRun | logMetric | logBatch | logModel | setTag | deleteTag | logParam =>
    some (.capability .runId .update)
  | getRegisteredModel | getLatestVersions | getModelVersion | getModelVersionDownloadUri
  | getModelVersionByAlias => some (.capability .modelName .read)
  | updateRegisteredModel | renameRegisteredModel | createModelVersion | updateModelVersion
  | transitionModelVersionStage | setRegisteredModelTag | deleteRegisteredModelTag
  | setModelVersionTag | setRegisteredModelAlias => some (.capability .modelName .update)
  | deleteRegisteredModel | deleteModelVersion | deleteModelVersionTag
  | deleteRegisteredModelAlias => some (.capability .modelName .delete)
  | createLoggedModel => some (.capability .experimentId .update)
  | getLoggedModel => some (.capability .loggedModelId .read)
  | deleteLoggedModel | deleteLoggedModelTag => some (.capability .loggedModelId .delete)
  | finalizeLoggedModel | setLoggedModelTags | logLoggedModelParams =>
    some (.capability .loggedModelId .update)
  | createUser | updateUserAdmin | deleteUser => some .admin
  | getUser | updateUserPassword => some .sender
  | createExperimentPermission | getExperimentPermission | updateExperimentPermission
  | deleteExperimentPermission => some (.capability .experimentId .manage)
  | createRegisteredModelPermission | getRegisteredModelPermission
  | updateRegisteredModelPermission | deleteRegisteredModelPermission =>
    some (.capability .modelName .manage)
  | createExperiment | searchExperiments | createRegisteredModel | searchRegisteredModels
  | searchLoggedModels => none

/-- What has to follow the success of an operation. -/
def followup? : Operation → Option Followup
  | createExperiment => some .grantExperiment
  | createRegisteredModel => some .grantModel
  | deleteRegisteredModel => some .dropModelGrants
  | renameRegisteredModel => some .renameModelGrants
  | searchExperiments => some .narrowExperiments
  | searchLoggedModels => some .narrowLoggedModels
  | searchRegisteredModels => some .narrowModels
  | _ => none

end Operation

end Gatehouse
