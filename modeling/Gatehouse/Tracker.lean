import Gatehouse.Search

/-!
# Trackers

What the gateway needs to know of the tracking server that it protects: to which
experiment a run or a logged model belongs, what an experiment is called, and the pages of
searches. A tracker is a record of these calls over a state of its own.

## Main definitions

* `Action`: A step that may fail and changes a state even then.
* `Action.of`: A step with a given outcome.
* `Tracker`: The calls.
-/

namespace Gatehouse

/-- A step over a state; what it has done so far stands even when it fails. -/
abbrev Action (σ : Type) (α : Type) := ExceptT Error (StateM σ) α

/-- A step that changes nothing and has the given outcome. -/
def Action.of {σ α : Type} (outcome : Except Error α) : Action σ α := ExceptT.mk (pure outcome)

/-- The calls on a tracking server. Asking for a run or a logged model that does not exist
fails as absent; an experiment name may be unknown. -/
structure Tracker (σ : Type) where
  runExperiment : String → Action σ String
  loggedModelExperiment : String → Action σ String
  experimentNamed : String → Action σ (Option String)
  searchExperiments : ExperimentQuery → Option String → Action σ Page
  searchModels : ModelQuery → Option String → Action σ Page
  searchLoggedModels : LoggedModelQuery → Option String → Action σ Page

end Gatehouse
