import Gatehouse.Management
import Gatehouse.Path
import Gatehouse.Text.Digit

/-!
# Routes

Which operation a decoded path and a method name. An endpoint is an operation with the
template of its path and the methods that it accepts. Paths that are written out are looked
up as they are. The paths of logged models carry identifiers, so they are looked up by
patterns, in the order in which these were registered, and by patterns only. Artifacts are a
family of their own: everything below one path, with the experiment as the first segment.

## Main definitions

* `Step`, `Template`: What a segment has to be, and what a path has to be.
* `Pattern`, `Template.pattern`: What a text has to be, character by character.
* `Pattern.match?`: What a pattern captures of a text.
* `Route.trackingEndpoints`, `Route.managementEndpoints`: What is registered.
* `Route.Table`, `Route.Table.ofEndpoints`: Endpoints as they are looked up.
* `Route.find?`: The operation that a path and a method name.
* `Route.artifactCheck?`: The check of an artifact path.
-/

namespace Gatehouse

/-- What one segment of a path has to be: a given text, or any text that is not empty,
which is captured under a name. -/
inductive Step where
  | literal (text : String)
  | capture (name : String)
  deriving DecidableEq, Repr

/-- What a path has to be. -/
abbrev Template := List Step

namespace Template

/-- The template of a text; a segment in angle brackets is a capture. -/
def ofText (text : String) : Template :=
  (Path.segments text).map fun segment =>
    match segment.toList with
    | '<' :: rest =>
      if rest.getLast? = some '>' then .capture (String.ofList rest.dropLast)
      else .literal segment
    | _ => .literal segment

end Template

/-- What a pattern asks for next: a character, or a run of characters other than the slash,
one at least, which is captured under a name. -/
inductive Pattern.Item where
  | char (c : Char)
  | run (name : String)
  deriving DecidableEq, Repr

/-- What a text has to be as a whole. -/
abbrev Pattern := List Pattern.Item

/-- What a step asks for. -/
def Step.items : Step → Pattern
  | literal text => text.toList.map .char
  | capture name => [.run name]

/-- The pattern of a template: its steps with slashes between them. -/
def Template.pattern (template : Template) : Pattern :=
  Text.joinWith (.char '/') (template.map Step.items)

namespace Pattern

/-- The longest run at the front of a text behind which something is found, with what is
found there. -/
def longestRun? {α : Type} (behind : List Char → Option α) :
    List Char → Option (List Char × α)
  | [] => none
  | c :: rest =>
    if c = '/' then none
    else
      match longestRun? behind rest with
      | some (run, found) => some (c :: run, found)
      | none => (behind rest).map ([c], ·)

/-- What a pattern captures of a text, or nothing when it does not match all of it. -/
def match? : Pattern → List Char → Option (List (String × String))
  | [], [] => some []
  | [], _ :: _ => none
  | .char _ :: _, [] => none
  | .char c :: items, d :: rest => if d = c then match? items rest else none
  | .run name :: items, text =>
    (longestRun? (match? items) text).map fun (run, captures) =>
      (name, String.ofList run) :: captures

end Pattern

namespace Route

/-- What the tracking endpoints are found under. -/
def apiRoots : List String := ["/api/2.0", "/ajax-api/2.0"]

/-- The endpoints of the tracking server, their paths below each root. -/
def trackingEndpoints : List (Operation × String × List Http.Method) :=
  [(.createExperiment, "/mlflow/experiments/create", [.post]),
   (.getExperiment, "/mlflow/experiments/get", [.get]),
   (.getExperimentByName, "/mlflow/experiments/get-by-name", [.get]),
   (.deleteExperiment, "/mlflow/experiments/delete", [.post]),
   (.restoreExperiment, "/mlflow/experiments/restore", [.post]),
   (.updateExperiment, "/mlflow/experiments/update", [.post]),
   (.setExperimentTag, "/mlflow/experiments/set-experiment-tag", [.post]),
   (.deleteExperimentTag, "/mlflow/experiments/delete-experiment-tag", [.post]),
   (.searchExperiments, "/mlflow/experiments/search", [.get, .post]),
   (.createRun, "/mlflow/runs/create", [.post]),
   (.getRun, "/mlflow/runs/get", [.get]),
   (.deleteRun, "/mlflow/runs/delete", [.post]),
   (.restoreRun, "/mlflow/runs/restore", [.post]),
   (.updateRun, "/mlflow/runs/update", [.post]),
   (.logMetric, "/mlflow/runs/log-metric", [.post]),
   (.logBatch, "/mlflow/runs/log-batch", [.post]),
   (.logModel, "/mlflow/runs/log-model", [.post]),
   (.setTag, "/mlflow/runs/set-tag", [.post]),
   (.deleteTag, "/mlflow/runs/delete-tag", [.post]),
   (.logParam, "/mlflow/runs/log-parameter", [.post]),
   (.getMetricHistory, "/mlflow/metrics/get-history", [.get]),
   (.listArtifacts, "/mlflow/artifacts/list", [.get]),
   (.createRegisteredModel, "/mlflow/registered-models/create", [.post]),
   (.renameRegisteredModel, "/mlflow/registered-models/rename", [.post]),
   (.updateRegisteredModel, "/mlflow/registered-models/update", [.patch]),
   (.deleteRegisteredModel, "/mlflow/registered-models/delete", [.delete]),
   (.getRegisteredModel, "/mlflow/registered-models/get", [.get]),
   (.searchRegisteredModels, "/mlflow/registered-models/search", [.get]),
   (.getLatestVersions, "/mlflow/registered-models/get-latest-versions", [.post, .get]),
   (.createModelVersion, "/mlflow/model-versions/create", [.post]),
   (.updateModelVersion, "/mlflow/model-versions/update", [.patch]),
   (.transitionModelVersionStage, "/mlflow/model-versions/transition-stage", [.post]),
   (.deleteModelVersion, "/mlflow/model-versions/delete", [.delete]),
   (.getModelVersion, "/mlflow/model-versions/get", [.get]),
   (.getModelVersionDownloadUri, "/mlflow/model-versions/get-download-uri", [.get]),
   (.setRegisteredModelTag, "/mlflow/registered-models/set-tag", [.post]),
   (.setModelVersionTag, "/mlflow/model-versions/set-tag", [.post]),
   (.deleteRegisteredModelTag, "/mlflow/registered-models/delete-tag", [.delete]),
   (.deleteModelVersionTag, "/mlflow/model-versions/delete-tag", [.delete]),
   (.setRegisteredModelAlias, "/mlflow/registered-models/alias", [.post]),
   (.deleteRegisteredModelAlias, "/mlflow/registered-models/alias", [.delete]),
   (.getModelVersionByAlias, "/mlflow/registered-models/alias", [.get]),
   (.createLoggedModel, "/mlflow/logged-models", [.post]),
   (.searchLoggedModels, "/mlflow/logged-models/search", [.post]),
   (.getLoggedModel, "/mlflow/logged-models/<model_id>", [.get]),
   (.deleteLoggedModel, "/mlflow/logged-models/<model_id>", [.delete]),
   (.finalizeLoggedModel, "/mlflow/logged-models/<model_id>", [.patch]),
   (.setLoggedModelTags, "/mlflow/logged-models/<model_id>/tags", [.patch]),
   (.deleteLoggedModelTag, "/mlflow/logged-models/<model_id>/tags/<tag_key>", [.delete]),
   (.logLoggedModelParams, "/mlflow/logged-models/<model_id>/params", [.post])]

/-- The endpoints of the gateway itself, under one root. -/
def managementEndpoints : List (Operation × String × Http.Method) :=
  Management.all.map fun call => (call.operation, call.path, call.method)

/-- What the paths of logged models start with below each root. -/
def modelsPath : String := "/mlflow/logged-models"

/-- An operation with what its path captures. -/
structure Found where
  operation : Operation
  captures : List (String × String)
  deriving DecidableEq, Repr

/-- Endpoints as they are looked up: by their paths, and by patterns. -/
structure Table where
  exact : List ((String × Http.Method) × Operation)
  patterns : List (Pattern × Http.Method × Operation)

namespace Table

/-- Every whole path of tracking endpoints with every method. -/
def spread (tracking : List (Operation × String × List Http.Method)) :
    List (String × Http.Method × Operation) :=
  tracking.flatMap fun (operation, path, methods) =>
    apiRoots.flatMap fun root => methods.map fun method => (root ++ path, method, operation)

/-- The table of tracking endpoints and endpoints of the gateway itself. -/
def ofEndpoints (tracking : List (Operation × String × List Http.Method))
    (own : List (Operation × String × Http.Method)) : Table where
  exact :=
    ((spread (tracking.filter fun endpoint => !Path.startsWith modelsPath endpoint.2.1)).map
      fun (path, method, operation) => ((path, method), operation)) ++
    own.map fun (operation, path, method) => ((path, method), operation)
  patterns :=
    (spread (tracking.filter fun endpoint => Path.startsWith modelsPath endpoint.2.1)).map
      fun (path, method, operation) => ((Template.ofText path).pattern, method, operation)

/-- What an entry with a pattern captures of a request, if it accepts it. -/
def accept? (path : List Char) (method : Http.Method) :
    Pattern × Http.Method × Operation → Option Found
  | (pattern, accepted, operation) =>
    if accepted = method then (pattern.match? path).map (⟨operation, ·⟩) else none

/-- The operation that a decoded path and a method name. Where the path of a logged model may
stand the first pattern that matches counts; of other paths the last entry does. -/
def find? (table : Table) (path : String) (method : Http.Method) : Option Found :=
  if Path.contains modelsPath path then
    table.patterns.findSome? (accept? path.toList method)
  else (table.exact.reverse.lookup (path, method)).map (⟨·, []⟩)

end Table

/-- The table of all endpoints. -/
def table : Table := .ofEndpoints trackingEndpoints managementEndpoints

/-- The operation that a decoded path and a method name. -/
def find? (path : String) (method : Http.Method) : Option Found :=
  table.find? path method

/-- What the artifact paths start with. -/
def artifactRoot : String := "/api/2.0/mlflow-artifacts/artifacts"

/-- What follows the artifact root in a path, slashes at its front dropped, when the path
is an artifact path. -/
def artifactPath? (path : String) : Option (List Char) :=
  if Path.startsWith artifactRoot path then
    match path.toList.drop artifactRoot.length with
    | [] => some []
    | '/' :: rest => some (rest.dropWhile (· == '/'))
    | _ => none
  else none

/-- The experiment of an artifact: the digits before the first slash. -/
def artifactExperiment? (artifact : List Char) : Option String :=
  let digits := artifact.takeWhile Text.isDecimalDigit
  if digits.isEmpty then none
  else
    match artifact.drop digits.length with
    | '/' :: _ => some (String.ofList digits)
    | _ => none

/-- The capability that a method needs on an artifact. -/
def artifactCapability? : Http.Method → Option Capability
  | .get => some .read
  | .put => some .update
  | .delete => some .manage
  | _ => none

/-- The check of an artifact path, or nothing when the path is none or the method needs no
check. Listings are read with every method. -/
def artifactCheck? (path : String) (method : Http.Method) : Option Check :=
  (artifactPath? path).bind fun artifact =>
    if artifact.isEmpty then some (.capability (.artifact none) .read)
    else
      (artifactCapability? method).map
        (.capability (.artifact (artifactExperiment? artifact)))

end Route

end Gatehouse
