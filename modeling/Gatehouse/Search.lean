import Gatehouse.Cursor
import Gatehouse.Params

/-!
# Searches

What the three kinds of searches ask for, read from the parameters of a request. An empty
filter or view counts as none.

## Main definitions

* `ExperimentQuery`, `ModelQuery`, `LoggedModelQuery`: What is searched for.
* `ExperimentQuery.ofParams`, `ModelQuery.ofParams`, `LoggedModelQuery.ofParams`: The
  query of a request.
* `Page`: One page of results.
-/

namespace Gatehouse

/-- A page of results: its rows, and where the next one starts unless this is the last. -/
structure Page where
  items : List Json
  next : Option String

/-- What a search for experiments asks for. -/
structure ExperimentQuery where
  limit : UInt64
  filter : Option String
  order : List String
  view : Option String
  deriving DecidableEq, Repr

/-- What a search for registered models asks for. -/
structure ModelQuery where
  limit : UInt64
  filter : Option String
  order : List String
  deriving DecidableEq, Repr

/-- What a search for logged models asks for. -/
structure LoggedModelQuery where
  limit : UInt64
  experimentIds : List String
  filter : Option String
  order : Option (List SortKey)
  deriving DecidableEq, Repr

namespace Params

/-- The text of a parameter unless it is empty. -/
def filled? (name : String) (params : Params) : Option String :=
  (params.get? name).filter (!·.isEmpty)

/-- How many rows are asked for. -/
def limit (default : UInt64) (params : Params) : Except Error UInt64 :=
  (params.nat? "max_results").map (·.getD default)

/-- The order that a list of sort keys gives, if there is one. -/
def order (params : Params) : Except Error (Option (List SortKey)) :=
  match params.raw? "order_by" with
  | some (.array (first :: rest)) =>
    match (first :: rest).mapM fun value => SortKey.ofTree? value.tree with
    | some keys => .ok (some keys)
    | none => .error (.badParameter .ordering)
  | _ => .ok none

end Params

/-- The query of a search for experiments. -/
def ExperimentQuery.ofParams (params : Params) : Except Error ExperimentQuery :=
  (params.limit 1000).map fun limit =>
    ⟨limit, params.filled? "filter", params.list "order_by", params.filled? "view_type"⟩

/-- The query of a search for registered models. -/
def ModelQuery.ofParams (params : Params) : Except Error ModelQuery :=
  (params.limit 100).map fun limit =>
    ⟨limit, params.filled? "filter", params.list "order_by"⟩

/-- The query of a search for logged models. -/
def LoggedModelQuery.ofParams (params : Params) : Except Error LoggedModelQuery := do
  let order ← params.order
  let limit ← params.limit 100
  .ok ⟨limit, params.list "experiment_ids", params.filled? "filter", order⟩

end Gatehouse
