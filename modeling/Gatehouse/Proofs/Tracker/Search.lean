import Gatehouse.Proofs.Cursor
import Gatehouse.Proofs.Params
import Gatehouse.Proofs.Tracker.Lookup

/-!
# Searches as requests

A search is sent to a tracking server as one request: as a document, or as pairs in a query string.
Whoever reads the parameters of that request as the gateway reads those of its clients has the
query and the cursor of the search again. That holds for the queries that the gateway has read
itself. These have no empty texts, which would be taken for missing ones, and an order with keys if
any.

## Main definitions

* `SearchKind`, `SearchKind.experiments`, `SearchKind.models`, `SearchKind.loggedModels`: The kinds
  of searches.
* `Outgoing.params`: The parameters of a request to a server.
* `SearchKind.Carries`: A request says all about a search.
* `SearchKind.IsSent`: A search is made by one such request.

## Theorems

* `SortKey.ofTree?_members`: A key of an order is read back.
* `ExperimentQuery.ofParams_body`, `ModelQuery.ofParams_pairs`, `LoggedModelQuery.ofParams_body`:
  A query is read back.
* `SearchKind.isSent_experiments`, `SearchKind.isSent_models`, `SearchKind.isSent_loggedModels`:
  A search for what has been read is one request.
-/

namespace Gatehouse

open Text

/-- The parameters of a request to a server, as the gateway reads those of its clients. -/
def Outgoing.params (outgoing : Outgoing) : Except Error Params :=
  Params.ofRequest outgoing.method outgoing.headers (outgoing.url.query.map String.ofList)
    outgoing.body []

/-- A kind of search: what it asks for, the call on a tracker, where it is served and under which
name its rows are answered. -/
structure SearchKind (Query : Type) where
  ofParams : Params → Except Error Query
  call : {σ : Type} → Tracker σ → Query → Option String → Action σ Page
  method : Http.Method
  shelf : String
  field : String

namespace SearchKind

/-- Searches for experiments. -/
def experiments : SearchKind ExperimentQuery where
  ofParams := ExperimentQuery.ofParams
  call tracker := tracker.searchExperiments
  method := .post
  shelf := "experiments"
  field := "experiments"

/-- Searches for registered models. -/
def models : SearchKind ModelQuery where
  ofParams := ModelQuery.ofParams
  call tracker := tracker.searchModels
  method := .get
  shelf := "registered-models"
  field := "registered_models"

/-- Searches for logged models. -/
def loggedModels : SearchKind LoggedModelQuery where
  ofParams := LoggedModelQuery.ofParams
  call tracker := tracker.searchLoggedModels
  method := .post
  shelf := "logged-models"
  field := "models"

variable {Query : Type}

/-- What stands in front of the last segment of the path of a search. -/
def front (kind : SearchKind Query) : List (List Char) :=
  ["api", "2.0", "mlflow", kind.shelf].map String.toList

/-- The segments of the path of a search. -/
def segments (kind : SearchKind Query) : List (List Char) := kind.front ++ ["search".toList]

/-- A request says all about a search: it goes to where such searches are served, and the query and
the cursor are read from it. -/
structure Carries (kind : SearchKind Query) (site : Site) (query : Query) (token : Option String)
    (outgoing : Outgoing) : Prop where
  method : outgoing.method = kind.method
  place : site.below? outgoing.url = some kind.segments
  read : ∃ sent, outgoing.params = .ok sent ∧ kind.ofParams sent = .ok query ∧
    sent.get? "page_token" = token

end SearchKind

namespace Params

/-- An empty text counts as none. -/
theorem filled?_ne_empty (name : String) (params : Params) : params.filled? name ≠ some "" := by
  intro h
  rcases Option.filter_eq_some_iff.1 h with ⟨-, hfilled⟩
  exact absurd hfilled (by decide)

theorem filter_filled {value : Option String} (h : value ≠ some "") :
    value.filter (!·.isEmpty) = value := by
  cases value with
  | none => rfl
  | some text =>
      have hfilled : text.isEmpty = false := by
        rw [Bool.eq_false_iff, ne_eq, String.isEmpty_iff]
        rintro rfl
        exact h rfl
      rw [Option.filter_some, hfilled]
      rfl

theorem filled?_of_get? {name : String} {params : Params} {value : Option String}
    (h : params.get? name = value) (hne : value ≠ some "") : params.filled? name = value := by
  rw [filled?, h, filter_filled hne]

theorem limit_of_get? (default : UInt64) {n : UInt64} {params : Params}
    (h : params.get? "max_results" = some (toString n.toNat)) : params.limit default = .ok n := by
  rw [limit, nat?, h]
  dsimp only
  rw [natOfText?_toString]
  rfl

/-- An order has keys. -/
theorem order_ne_nil {params : Params} {order : Option (List SortKey)}
    (h : params.order = .ok order) : order ≠ some [] := by
  rintro rfl
  unfold Params.order at h
  -- Without items there is no order, so one that was read had a first item.
  split at h
  · next first rest _ =>
    split at h
    · next keys hkeys =>
      -- As many keys are read as there are items.
      have hnil : keys = [] := Option.some.inj (Except.ok.inj h)
      rw [hnil, List.mapM_cons] at hkeys
      rcases Option.bind_eq_some_iff.1 hkeys with ⟨key, -, hmore⟩
      rcases Option.bind_eq_some_iff.1 hmore with ⟨more, -, hcons⟩
      exact nomatch Option.some.inj hcons
    · exact nomatch h
  · exact nomatch Except.ok.inj h

end Params

namespace SortKey

/-- The document of a key has its members in the order of their names. -/
theorem ofMembers_members (key : SortKey) : Json.ofMembers key.members =
    .object [("ascending", .bool key.ascending),
      ("dataset_digest", Json.ofString? key.datasetDigest),
      ("dataset_name", Json.ofString? key.datasetName), ("field_name", .string key.field)] := by
  simp only [SortKey.members, Json.ofMembers, Json.insertMember, List.foldl_cons, List.foldl_nil,
    String.reduceEq, String.reduceLT, if_true, if_false]

/-- A key of an order is read back from its document, in whatever order its members stand. -/
theorem ofTree?_members (key : SortKey) : ofTree? (Json.ofMembers key.members).tree = some key := by
  obtain ⟨field, ascending, name, digest⟩ := key
  -- Only whether the two optional members are there is open.
  rw [ofMembers_members]
  cases name <;> cases digest <;> rfl

theorem mapM_members (keys : List SortKey) :
    (keys.map fun key => Json.ofMembers key.members).mapM (fun value => ofTree? value.tree) =
      some keys := by
  induction keys with
  | nil => rfl
  | cons key rest ih =>
      rw [List.map_cons, List.mapM_cons, ofTree?_members, ih]
      rfl

end SortKey

namespace Json.Rereads

variable {depth : Nat}

theorem keys (keys : List SortKey) :
    Rereads (depth + 2) (.array (keys.map fun key => Json.ofMembers key.members)) := by
  refine array ?_
  intro v hv
  rcases List.mem_map.1 hv with ⟨key, -, rfl⟩
  -- The list and its objects take the two levels, and the members of a key need none.
  refine ofMembers depth ?_
  simp only [SortKey.members, List.forall_mem_cons, List.not_mem_nil, false_implies, implies_true,
    and_true]
  exact ⟨string _, bool _, ofString? _, ofString? _⟩

end Json.Rereads

namespace Rest

/-- The members of the document that asks for a page of experiments. -/
def experimentsMembers (query : ExperimentQuery) (token : Option String) : List (String × Json) :=
  [("max_results", .number (.ofUInt64 query.limit)), ("filter", Json.ofString? query.filter),
    ("order_by", .array (query.order.map .string)), ("view_type", Json.ofString? query.view),
    ("page_token", Json.ofString? token)]

/-- The document of an optional order. -/
def orderBody : Option (List SortKey) → Json
  | none => .null
  | some keys => .array (keys.map fun key => .ofMembers key.members)

/-- The members of the document that asks for a page of logged models. -/
def loggedModelsMembers (query : LoggedModelQuery) (token : Option String) :
    List (String × Json) :=
  [("experiment_ids", .array (query.experimentIds.map .string)),
    ("filter", Json.ofString? query.filter), ("order_by", orderBody query.order),
    ("max_results", .number (.ofUInt64 query.limit)), ("page_token", Json.ofString? token)]

theorem loggedModelsBody_eq (query : LoggedModelQuery) (token : Option String) :
    loggedModelsBody query token = .ofMembers (loggedModelsMembers query token) := by
  rw [loggedModelsBody, loggedModelsMembers]
  cases query.order <;> rfl

theorem modelsPairs_eq (query : ModelQuery) (token : Option String) :
    modelsPairs query token =
      [toString query.limit.toNat].map (fun value => ("max_results", value)) ++
      query.filter.toList.map (fun value => ("filter", value)) ++
      query.order.map (fun value => ("order_by", value)) ++
      token.toList.map (fun value => ("page_token", value)) := by
  rw [modelsPairs]
  cases query.filter <;> cases token <;> rfl

end Rest

section ReadBack

open Rest

variable {params : Params} {token : Option String}

namespace ExperimentQuery

/-- Filter and view of a query that has been read are not empty. -/
theorem ofParams_filled {query : ExperimentQuery} (h : ofParams params = .ok query) :
    query.filter ≠ some "" ∧ query.view ≠ some "" := by
  rcases Error.map_eq_ok_iff.1 h with ⟨limit, -, rfl⟩
  exact ⟨Params.filled?_ne_empty _ _, Params.filled?_ne_empty _ _⟩

/-- A query for experiments is read back from its document. -/
theorem ofParams_body {query : ExperimentQuery} (hfilter : query.filter ≠ some "")
    (hview : query.view ≠ some "") (token : Option String) :
    ofParams (.ofMembers (experimentsMembers query token)) = .ok query ∧
      (Params.ofMembers (experimentsMembers query token)).get? "page_token" = token := by
  have hdistinct : (experimentsMembers query token).Pairwise fun a b => a.1 ≠ b.1 := by
    simp [experimentsMembers]
  -- Each name stands once, so a parameter is the member of its name. Filter and view are read only
  -- if they are not empty.
  have hget := Params.get?_ofMembers hdistinct
  have hlimit := Params.limit_of_get? 1000 (hget "max_results")
  have hfilters := Params.filled?_of_get?
    ((hget "filter").trans (Params.scalar?_ofString? query.filter)) hfilter
  have hviews := Params.filled?_of_get?
    ((hget "view_type").trans (Params.scalar?_ofString? query.view)) hview
  have horder := Params.list_ofMembers hdistinct "order_by" query.order rfl
  refine ⟨?_, (hget "page_token").trans (Params.scalar?_ofString? token)⟩
  rw [ofParams, hlimit, hfilters, hviews, horder]
  rfl

end ExperimentQuery

namespace ModelQuery

/-- The filter of a query that has been read is not empty. -/
theorem ofParams_filled {query : ModelQuery} (h : ofParams params = .ok query) :
    query.filter ≠ some "" := by
  rcases Error.map_eq_ok_iff.1 h with ⟨limit, -, rfl⟩
  exact Params.filled?_ne_empty _ _

/-- A query for registered models is read back from its pairs. -/
theorem ofParams_pairs {query : ModelQuery} (hfilter : query.filter ≠ some "")
    (token : Option String) :
    ofParams (.ofPairs (modelsPairs query token)) = .ok query ∧
      (Params.ofPairs (modelsPairs query token)).get? "page_token" = token := by
  -- The pairs come in four groups, and each name has the values of its own group.
  have hvalues (name : String) : Params.valuesOf name (modelsPairs query token) =
      (if "max_results" = name then [toString query.limit.toNat] else []) ++
        (if "filter" = name then query.filter.toList else []) ++
        (if "order_by" = name then query.order else []) ++
        (if "page_token" = name then token.toList else []) := by
    simp only [modelsPairs_eq, Params.valuesOf_append, Params.valuesOf_map]
  have hlimit : (Params.ofPairs (modelsPairs query token)).limit 100 = .ok query.limit := by
    refine Params.limit_of_get? 100 ?_
    rw [Params.get?_ofPairs, hvalues]
    rfl
  have hfilters : (Params.ofPairs (modelsPairs query token)).filled? "filter" = query.filter := by
    refine Params.filled?_of_get? ?_ hfilter
    rw [Params.get?_ofPairs, hvalues]
    cases query.filter <;> rfl
  -- All the keys of an order are read, and there are no pairs of that name in the other groups.
  have horder : (Params.ofPairs (modelsPairs query token)).list "order_by" = query.order := by
    rw [Params.list_ofPairs, hvalues]
    exact List.append_nil query.order
  refine ⟨?_, ?_⟩
  · rw [ofParams, hlimit, hfilters, horder]
    rfl
  · rw [Params.get?_ofPairs, hvalues]
    cases token <;> rfl

end ModelQuery

namespace LoggedModelQuery

/-- The filter of a query that has been read is not empty, and its order has keys. -/
theorem ofParams_filled {query : LoggedModelQuery} (h : ofParams params = .ok query) :
    query.filter ≠ some "" ∧ query.order ≠ some [] := by
  rcases Error.bind_eq_ok_iff.1 h with ⟨order, horder, hrest⟩
  rcases Error.bind_eq_ok_iff.1 hrest with ⟨limit, -, hquery⟩
  obtain rfl := Except.ok.inj hquery
  exact ⟨Params.filled?_ne_empty _ _, Params.order_ne_nil horder⟩

/-- A query for logged models is read back from its document. -/
theorem ofParams_body {query : LoggedModelQuery} (hfilter : query.filter ≠ some "")
    (hkeys : query.order ≠ some []) (token : Option String) :
    ofParams (.ofMembers (loggedModelsMembers query token)) = .ok query ∧
      (Params.ofMembers (loggedModelsMembers query token)).get? "page_token" = token := by
  have hdistinct : (loggedModelsMembers query token).Pairwise fun a b => a.1 ≠ b.1 := by
    simp [loggedModelsMembers]
  have hget := Params.get?_ofMembers hdistinct
  have hlimit := Params.limit_of_get? 100 (hget "max_results")
  have hfilters := Params.filled?_of_get?
    ((hget "filter").trans (Params.scalar?_ofString? query.filter)) hfilter
  have hids := Params.list_ofMembers hdistinct "experiment_ids" query.experimentIds rfl
  -- A document has an order, none, or an empty list, and the last of these was excluded.
  have horder : (Params.ofMembers (loggedModelsMembers query token)).order = .ok query.order := by
    have hraw : (Params.ofMembers (loggedModelsMembers query token)).raw? "order_by" =
        some (orderBody query.order) := Params.raw?_ofMembers hdistinct "order_by"
    rw [Params.order, hraw]
    match horder : query.order with
    | none => rfl
    | some [] => exact absurd horder hkeys
    | some (first :: rest) =>
        have hread := SortKey.mapM_members (first :: rest)
        rw [List.map_cons] at hread
        simp only [orderBody, List.map_cons, hread]
  refine ⟨?_, (hget "page_token").trans (Params.scalar?_ofString? token)⟩
  rw [ofParams, horder, hlimit, hfilters, hids]
  rfl

end LoggedModelQuery

end ReadBack

namespace Site

variable {text : String} {site : Site} {Query : Type} {query : Query} {token : Option String}

/-- What is asked with a document. -/
theorem exists_post (kind : SearchKind Query) (path : String) (hsite : ofText text = .ok site)
    (hweb : Url.IsWeb site.base.scheme) (hquery : site.base.query = none)
    (hfragment : site.base.fragment = none)
    (hsettled : ∀ s ∈ kind.segments, Url.Path.IsSettled s)
    (hpath : path.toList = Url.Path.text kind.segments) (hmethod : kind.method = .post)
    {members : List (String × Json)} (hdocument : (Json.ofMembers members).Rereads Json.maxDepth)
    (hread : kind.ofParams (.ofMembers members) = .ok query ∧
      (Params.ofMembers members).get? "page_token" = token) :
    ∃ outgoing, kind.Carries site query token outgoing ∧ ∀ {σ : Type} (transport : Transport σ),
      Rest.post site transport path (.ofMembers members) = transport.ask outgoing := by
  rcases exists_below hsite hweb hquery hfragment hsettled hpath with ⟨url, haddress, hbelow, -⟩
  refine ⟨⟨.post, url, [("content-type", "application/json")], (Json.ofMembers members).bytes⟩,
    ⟨hmethod.symm, hbelow, _, Params.ofRequest_document _ _ hdocument, hread⟩, ?_⟩
  intro σ transport
  rw [Rest.post, haddress]
  rfl

/-- What is asked with pairs. -/
theorem exists_get (kind : SearchKind Query) (path : String) (hsite : ofText text = .ok site)
    (hweb : Url.IsWeb site.base.scheme) (hquery : site.base.query = none)
    (hfragment : site.base.fragment = none)
    (hsettled : ∀ s ∈ kind.segments, Url.Path.IsSettled s)
    (hpath : path.toList = Url.Path.text kind.segments) (hmethod : kind.method = .get)
    {pairs : List (String × String)} (hpairs : pairs ≠ [])
    (hread : kind.ofParams (.ofPairs pairs) = .ok query ∧
      (Params.ofPairs pairs).get? "page_token" = token) :
    ∃ outgoing, kind.Carries site query token outgoing ∧ ∀ {σ : Type} (transport : Transport σ),
      Rest.get site transport path pairs = transport.ask outgoing := by
  rcases exists_below hsite hweb hquery hfragment hsettled hpath with
    ⟨url, haddress, hbelow, hnone⟩
  -- The address has no query yet, so the pairs are all of it.
  have hadded : url.addQuery pairs =
      { url with query := some ((formEncode pairs).map asciiChar) } := by
    rw [Url.addQuery, if_neg (by simpa using hpairs), hnone]
  refine ⟨⟨.get, url.addQuery pairs, [], []⟩, ⟨hmethod.symm, ?_, .ofPairs pairs, ?_, hread⟩, ?_⟩
  · rw [hadded]
    exact hbelow
  · rw [Outgoing.params, hadded]
    exact Params.ofRequest_form _ _ _
  · intro σ transport
    rw [Rest.get, haddress]
    rfl

end Site

namespace SearchKind

open Rest

variable {text : String} {site : Site} {params : Params} {token : Option String}

/-- A search is made by one request that says all about it, and its page is read from the document
that the request is answered with. -/
def IsSent {Query : Type} (kind : SearchKind Query) (site : Site) (query : Query)
    (token : Option String) : Prop :=
  ∃ outgoing, kind.Carries site query token outgoing ∧ ∀ {σ : Type} (transport : Transport σ),
    kind.call (Rest.tracker site transport) query token =
      pageOf kind.field <$> transport.ask outgoing

theorem isSent_experiments (hsite : Site.ofText text = .ok site) (hweb : Url.IsWeb site.base.scheme)
    (hquery : site.base.query = none) (hfragment : site.base.fragment = none)
    {query : ExperimentQuery} (h : experiments.ofParams params = .ok query) :
    experiments.IsSent site query token := by
  rcases ExperimentQuery.ofParams_filled h with ⟨hfilter, hview⟩
  -- No member is deeper than a list of texts.
  have hdocument : (Json.ofMembers (experimentsMembers query token)).Rereads Json.maxDepth := by
    refine Json.Rereads.ofMembers 126 ?_
    simp only [experimentsMembers, List.forall_mem_cons, List.not_mem_nil, false_implies,
      implies_true, and_true]
    exact ⟨.word _, .ofString? _, .strings _, .ofString? _, .ofString? _⟩
  rcases Site.exists_post experiments (root ++ "/experiments/search") hsite hweb hquery hfragment
    (Url.Path.isSettled_of_checked (by decide)) (by rfl) rfl hdocument
    (ExperimentQuery.ofParams_body hfilter hview token) with ⟨outgoing, hcarries, hasks⟩
  refine ⟨outgoing, hcarries, ?_⟩
  intro σ transport
  rw [← hasks]
  rfl

theorem isSent_models (hsite : Site.ofText text = .ok site) (hweb : Url.IsWeb site.base.scheme)
    (hquery : site.base.query = none) (hfragment : site.base.fragment = none)
    {query : ModelQuery} (h : models.ofParams params = .ok query) :
    models.IsSent site query token := by
  have hfilter := ModelQuery.ofParams_filled h
  -- The limit is always among the pairs, so there is a query to read them from.
  have hpairs : modelsPairs query token ≠ [] := by
    rw [modelsPairs]
    simp
  rcases Site.exists_get models (root ++ "/registered-models/search") hsite hweb hquery hfragment
    (Url.Path.isSettled_of_checked (by decide)) (by rfl) rfl hpairs
    (ModelQuery.ofParams_pairs hfilter token) with ⟨outgoing, hcarries, hasks⟩
  refine ⟨outgoing, hcarries, ?_⟩
  intro σ transport
  rw [← hasks]
  rfl

theorem isSent_loggedModels (hsite : Site.ofText text = .ok site)
    (hweb : Url.IsWeb site.base.scheme) (hquery : site.base.query = none)
    (hfragment : site.base.fragment = none) {query : LoggedModelQuery}
    (h : loggedModels.ofParams params = .ok query) : loggedModels.IsSent site query token := by
  rcases LoggedModelQuery.ofParams_filled h with ⟨hfilter, hkeys⟩
  -- The order is the deepest member, a list of objects.
  have horder : (orderBody query.order).Rereads 126 := by
    cases query.order with
    | none => exact .null
    | some keys => exact .keys keys
  have hdocument : (Json.ofMembers (loggedModelsMembers query token)).Rereads Json.maxDepth := by
    refine Json.Rereads.ofMembers 126 ?_
    simp only [loggedModelsMembers, List.forall_mem_cons, List.not_mem_nil, false_implies,
      implies_true, and_true]
    exact ⟨.strings _, .ofString? _, horder, .word _, .ofString? _⟩
  rcases Site.exists_post loggedModels (root ++ "/logged-models/search") hsite hweb hquery hfragment
    (Url.Path.isSettled_of_checked (by decide)) (by rfl) rfl hdocument
    (LoggedModelQuery.ofParams_body hfilter hkeys token) with ⟨outgoing, hcarries, hasks⟩
  refine ⟨outgoing, hcarries, ?_⟩
  intro σ transport
  rw [← hasks, ← loggedModelsBody_eq]
  rfl

end SearchKind

end Gatehouse
