import Gatehouse.Tracker

/-!
# Trackers in memory

A tracking server whose resources are lists. Filters and orders are not evaluated: rows
come back in the order in which they were entered.

## Main definitions

* `Inventory`: The resources.
* `Inventory.window`: The rows of one page.
* `Memory`: The resources with the number of searches served.
* `Memory.tracker`: The calls on it.
-/

namespace Gatehouse

/-- The resources of a tracking server. -/
structure Inventory where
  /-- Ids and names of experiments. -/
  experiments : List (String × String)
  /-- Runs with their experiments. -/
  runs : List (String × String)
  /-- Logged models with their experiments. -/
  loggedModels : List (String × String)
  /-- Names of registered models. -/
  models : List String

namespace Inventory

/-- No resources. -/
def empty : Inventory := ⟨[], [], [], []⟩

/-- The row of an experiment. -/
def experimentRow (experiment : String × String) : Json :=
  .ofMembers [("experiment_id", .string experiment.1), ("name", .string experiment.2)]

/-- The row of a registered model. -/
def modelRow (name : String) : Json := .ofMembers [("name", .string name)]

/-- The row of a logged model. -/
def loggedModelRow (model : String × String) : Json :=
  .ofMembers [("info", .ofMembers [("model_id", .string model.1),
    ("experiment_id", .string model.2), ("name", .string model.1)])]

/-- The experiment of a run; a run entered twice belongs to the later one. -/
def runExperiment (inventory : Inventory) (run : String) : Except Error String :=
  match inventory.runs.reverse.lookup run with
  | some experiment => .ok experiment
  | none => .error (.absent (.run run))

/-- The experiment of a logged model; of one entered twice the first counts. -/
def loggedModelExperiment (inventory : Inventory) (model : String) : Except Error String :=
  match inventory.loggedModels.lookup model with
  | some experiment => .ok experiment
  | none => .error (.absent (.loggedModel model))

/-- The first experiment of a name. -/
def experimentNamed (inventory : Inventory) (name : String) : Option String :=
  (inventory.experiments.find? (·.2 = name)).map (·.1)

/-- The rows of the page that starts at an offset, and whether more follow. -/
def window (rows : List Json) (offset limit : UInt64) : List Json × Bool :=
  let first := min offset.toNat rows.length
  let last := min (first + limit.toNat) rows.length
  ((rows.drop first).take (last - first), last < rows.length)

/-- The page of rows at an offset, the next cursor written by the given function. -/
def page (rows : List Json) (offset limit : UInt64) (cursor : UInt64 → String) : Page :=
  let (items, more) := window rows offset limit
  ⟨items, if more then some (cursor (offset + UInt64.ofNat items.length)) else none⟩

/-- A page of rows under an offset cursor. -/
def offsetPage (rows : List Json) (limit : UInt64) (token : Option String) :
    Except Error Page :=
  (OffsetCursor.start token).map fun offset =>
    page rows offset limit fun next => OffsetCursor.encode ⟨next⟩

/-- The logged models that a query is about: those of its experiments, or all when it names
none. -/
def inScope (inventory : Inventory) (query : LoggedModelQuery) : List (String × String) :=
  inventory.loggedModels.filter fun model =>
    query.experimentIds.isEmpty || query.experimentIds.contains model.2

/-- The cursor of a query at an offset. -/
def modelsCursor (query : LoggedModelQuery) (offset : UInt64) : ModelsCursor :=
  ⟨offset, query.experimentIds, query.filter, query.order⟩

/-- The row at which an optional cursor for logged models starts. -/
def modelsStart : Option String → Except Error UInt64
  | none => .ok 0
  | some token => if token.isEmpty then .ok 0 else (ModelsCursor.decode token).map (·.offset)

/-- A page of experiments. -/
def searchExperiments (inventory : Inventory) (query : ExperimentQuery)
    (token : Option String) : Except Error Page :=
  offsetPage (inventory.experiments.map experimentRow) query.limit token

/-- A page of registered models. -/
def searchModels (inventory : Inventory) (query : ModelQuery) (token : Option String) :
    Except Error Page :=
  offsetPage (inventory.models.map modelRow) query.limit token

/-- A page of logged models. -/
def searchLoggedModels (inventory : Inventory) (query : LoggedModelQuery)
    (token : Option String) : Except Error Page :=
  (modelsStart token).map fun offset =>
    page ((inventory.inScope query).map loggedModelRow) offset query.limit fun next =>
      (modelsCursor query next).encode

end Inventory

/-- Resources with the number of searches served so far. -/
structure Memory where
  inventory : Inventory
  searches : Nat

namespace Memory

/-- A look at the resources. -/
def look {α : Type} (f : Inventory → Except Error α) : Action Memory α := do
  Action.of (f (← get).inventory)

/-- A look at the resources that counts as a search. -/
def search {α : Type} (f : Inventory → Except Error α) : Action Memory α := do
  modify fun memory => { memory with searches := memory.searches + 1 }
  look f

/-- The calls on a tracker in memory. -/
def tracker : Tracker Memory where
  runExperiment run := look (·.runExperiment run)
  loggedModelExperiment model := look (·.loggedModelExperiment model)
  experimentNamed name := look fun inventory => .ok (inventory.experimentNamed name)
  searchExperiments query token := search (·.searchExperiments query token)
  searchModels query token := search (·.searchModels query token)
  searchLoggedModels query token := search (·.searchLoggedModels query token)

end Memory

end Gatehouse
