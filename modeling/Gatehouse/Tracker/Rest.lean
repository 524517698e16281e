import Gatehouse.Tracker.Site

/-!
# Trackers over the network

The calls on a tracking server that answers documents: each is one request, and its answer
is read from the reply.

## Main definitions

* `Rest.get`, `Rest.post`: The document that a request is answered with.
* `Rest.idAt?`, `Rest.pageOf`: An id and a page in such a document.
* `Rest.tracker`: The calls.
-/

namespace Gatehouse

namespace Rest

variable {σ : Type}

/-- What the paths of all calls start with. -/
def root : String := "/api/2.0/mlflow"

/-- The document under a path with pairs in its query. -/
def get (site : Site) (transport : Transport σ) (path : String)
    (query : List (String × String)) : Action σ Json := do
  let url ← Action.of (site.address path)
  transport.ask ⟨.get, url.addQuery query, [], []⟩

/-- The document that another one is answered with under a path. -/
def post (site : Site) (transport : Transport σ) (path : String) (body : Json) :
    Action σ Json := do
  let url ← Action.of (site.address path)
  transport.ask ⟨.post, url, [("content-type", "application/json")], body.bytes⟩

/-- The id at a path in a document: a text or a number. -/
def idAt? (path : List String) (body : Json) : Option String :=
  (body.at? path).bind fun value =>
    match value with
    | .string s => some s
    | .number n => some n.text
    | _ => none

/-- The page that a document holds, its rows under a name. -/
def pageOf (field : String) (body : Json) : Page :=
  ⟨((body.get? field).bind Json.array?).getD [],
    ((body.get? "next_page_token").bind Json.string?).filter (!·.isEmpty)⟩

/-- The experiment of a run. -/
def runExperiment (site : Site) (transport : Transport σ) (run : String) :
    Action σ String := do
  let body ← get site transport (root ++ "/runs/get") [("run_id", run)]
  match idAt? ["run", "info", "experiment_id"] body with
  | some id => pure id
  | none => throw (.fault (.runOwner run))

/-- The experiment of a logged model. -/
def loggedModelExperiment (site : Site) (transport : Transport σ) (model : String) :
    Action σ String := do
  let body ← get site transport (root ++ "/logged-models/" ++ model) []
  match idAt? ["model", "info", "experiment_id"] body with
  | some id => pure id
  | none => throw (.fault (.modelOwner model))

/-- The experiment of a name, unless the server knows none. -/
def experimentNamed (site : Site) (transport : Transport σ) (name : String) :
    Action σ (Option String) := do
  try
    let body ← get site transport (root ++ "/experiments/get-by-name")
      [("experiment_name", name)]
    pure (idAt? ["experiment", "experiment_id"] body)
  catch e => if e.isNotFound then pure none else throw e

/-- The document that asks for a page of experiments. -/
def experimentsBody (query : ExperimentQuery) (token : Option String) : Json :=
  .ofMembers [("max_results", .number (.ofUInt64 query.limit)),
    ("filter", Json.ofString? query.filter), ("order_by", .array (query.order.map .string)),
    ("view_type", Json.ofString? query.view), ("page_token", Json.ofString? token)]

/-- The pairs that ask for a page of registered models. -/
def modelsPairs (query : ModelQuery) (token : Option String) : List (String × String) :=
  [("max_results", toString query.limit.toNat)] ++
    (query.filter.map fun filter => ("filter", filter)).toList ++
    (query.order.map fun key => ("order_by", key)) ++
    (token.map fun token => ("page_token", token)).toList

/-- The document that asks for a page of logged models. -/
def loggedModelsBody (query : LoggedModelQuery) (token : Option String) : Json :=
  .ofMembers [("experiment_ids", .array (query.experimentIds.map .string)),
    ("filter", Json.ofString? query.filter),
    ("order_by", match query.order with
      | none => .null
      | some keys => .array (keys.map fun key => .ofMembers key.members)),
    ("max_results", .number (.ofUInt64 query.limit)), ("page_token", Json.ofString? token)]

/-- The calls on a tracking server at a site. -/
def tracker (site : Site) (transport : Transport σ) : Tracker σ where
  runExperiment := runExperiment site transport
  loggedModelExperiment := loggedModelExperiment site transport
  experimentNamed := experimentNamed site transport
  searchExperiments query token := pageOf "experiments" <$>
    post site transport (root ++ "/experiments/search") (experimentsBody query token)
  searchModels query token := pageOf "registered_models" <$>
    get site transport (root ++ "/registered-models/search") (modelsPairs query token)
  searchLoggedModels query token := pageOf "models" <$>
    post site transport (root ++ "/logged-models/search") (loggedModelsBody query token)

end Rest

end Gatehouse
