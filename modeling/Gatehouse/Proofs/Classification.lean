import Gatehouse.Proofs.Route

/-!
# Classification of requests

The table looks paths up in two ways, in an order, and tries patterns character by character. What
it finds can be said without all that: a request is for an endpoint when the template of the
endpoint matches the path segment by segment. No request is for two endpoints, so nothing depends on
the order in which they were registered, and no endpoint lies where artifacts do or where no
credentials are asked for.

## Main definitions

* `Template.Matches`: Which segments a template stands for, and what it captures of them.
* `Endpoint`, `Route.endpoints`: What is registered, with whole paths.
* `Endpoint.Accepts`: Which requests are for an endpoint.

## Theorems

* `Template.matches_iff`: The pieces of a path match as its segments do.
* `Route.found_below`: Everything that is found lies below one of two paths.
* `Route.classified`: What the table finds.
-/

namespace Gatehouse

open Text

/-- A template stands for as many segments as it has steps: for a literal the segment is equal, and
for a capture it is not empty and it is what is captured. -/
inductive Template.Matches : Template → List String → List (String × String) → Prop
  | nil : Matches [] [] []
  | literal (text : String) {template : Template} {segments : List String}
      {captures : List (String × String)} (rest : Matches template segments captures) :
      Matches (.literal text :: template) (text :: segments) captures
  | capture (name : String) {value : String} (hvalue : value ≠ "") {template : Template}
      {segments : List String} {captures : List (String × String)}
      (rest : Matches template segments captures) :
      Matches (.capture name :: template) (value :: segments) ((name, value) :: captures)

/-- An endpoint with the template of its whole path. -/
structure Endpoint where
  operation : Operation
  template : Template
  methods : List Http.Method

/-- A request is for an endpoint that takes its method and whose template matches its path. -/
def Endpoint.Accepts (endpoint : Endpoint) (path : String) (method : Http.Method)
    (captures : List (String × String)) : Prop :=
  method ∈ endpoint.methods ∧ endpoint.template.Matches (Path.segments path) captures

namespace Route

/-- All endpoints: those of the tracking server below each of its roots, and the gateway's own. -/
def endpoints : List Endpoint :=
  (trackingEndpoints.flatMap fun (operation, path, methods) =>
    apiRoots.map fun root => ⟨operation, .ofText (root ++ path), methods⟩) ++
  managementEndpoints.map fun (operation, path, method) => ⟨operation, .ofText path, [method]⟩

end Route

namespace Template

theorem matches_nil {segments : List String} {captures : List (String × String)} :
    Matches [] segments captures ↔ segments = [] ∧ captures = [] := by
  constructor
  · intro h
    cases h
    exact ⟨rfl, rfl⟩
  · rintro ⟨rfl, rfl⟩
    exact .nil

theorem matches_literal {text : String} {template : Template} {segments : List String}
    {captures : List (String × String)} : Matches (.literal text :: template) segments captures ↔
      ∃ rest, segments = text :: rest ∧ Matches template rest captures := by
  constructor
  · intro h
    cases h with
    | literal _ hrest => exact ⟨_, rfl, hrest⟩
  · rintro ⟨rest, rfl, hrest⟩
    exact .literal text hrest

theorem matches_capture {name : String} {template : Template} {segments : List String}
    {captures : List (String × String)} : Matches (.capture name :: template) segments captures ↔
      ∃ value rest more, value ≠ "" ∧ segments = value :: rest ∧
        captures = (name, value) :: more ∧ Matches template rest more := by
  constructor
  · intro h
    cases h with
    | capture _ hvalue hrest => exact ⟨_, _, _, hvalue, rfl, rfl, hrest⟩
  · rintro ⟨value, rest, more, hvalue, rfl, rfl, hrest⟩
    exact .capture name hvalue hrest

/-- The pieces of a path match as its segments do. -/
theorem matches_iff {pieces segments : List (List Char)} {captures : List (String × String)} :
    Matches (pieces.map Step.ofPiece) (segments.map String.ofList) captures ↔
      (matchPieces pieces segments).map (·.map textPair) = some captures := by
  -- Pieces and segments are taken off side by side.
  induction pieces generalizing segments captures with
  | nil =>
      rw [List.map_nil, matches_nil, List.map_eq_nil_iff]
      cases segments with
      | nil =>
          rw [matchPieces, Option.map_some, Option.some_inj, eq_comm (a := captures)]
          exact and_iff_right rfl
      | cons =>
          constructor
          · rintro ⟨h, -⟩
            cases h
          · intro h
            cases h
  | cons piece steps ih =>
      rw [List.map_cons, Step.ofPiece]
      rw [Option.map_eq_some_iff]
      cases hname : Step.name? piece with
      | none =>
          dsimp only
          rw [matches_literal]
          constructor
          · rintro ⟨rest, hsegments, hrest⟩
            rcases List.map_eq_cons_iff.1 hsegments with ⟨segment, later, rfl, hsame, rfl⟩
            rcases Option.map_eq_some_iff.1 (ih.1 hrest) with ⟨pairs, hpairs, rfl⟩
            exact ⟨pairs, (matchPieces_literal hname).2
              ⟨later, by rw [String.ofList_injective hsame], hpairs⟩, rfl⟩
          · rintro ⟨pairs, hmatch, rfl⟩
            rcases (matchPieces_literal hname).1 hmatch with ⟨rest, rfl, hrest⟩
            exact ⟨rest.map String.ofList, rfl, ih.2 (by rw [hrest, Option.map_some])⟩
      | some name =>
          dsimp only
          rw [matches_capture]
          constructor
          · rintro ⟨value, rest, more, hvalue, hsegments, rfl, hrest⟩
            rcases List.map_eq_cons_iff.1 hsegments with ⟨segment, later, rfl, rfl, rfl⟩
            rcases Option.map_eq_some_iff.1 (ih.1 hrest) with ⟨pairs, hpairs, rfl⟩
            exact ⟨(name, segment) :: pairs, (matchPieces_capture hname).2 ⟨segment, later, pairs,
              rfl, rfl, mt String.ofList_eq_empty_iff.2 hvalue, hpairs⟩, rfl⟩
          · rintro ⟨pairs, hmatch, rfl⟩
            rcases (matchPieces_capture hname).1 hmatch with
              ⟨segment, later, more, rfl, rfl, hvalue, hmore⟩
            exact ⟨String.ofList segment, later.map String.ofList, more.map textPair,
              mt String.ofList_eq_empty_iff.1 hvalue, rfl, rfl,
              ih.2 (by rw [hmore, Option.map_some])⟩

end Template

namespace Written

/-- An endpoint with the template that its path is written as. -/
def endpoint (written : Written) : Endpoint :=
  ⟨written.operation, (splitOn '/' written.path).map Step.ofPiece, written.methods⟩

theorem accepts_iff {written : Written} {path : String} {method : Http.Method}
    {found : Route.Found} : written.found? path method = some found ↔
      written.endpoint.operation = found.operation ∧
        written.endpoint.Accepts path method found.captures := by
  rw [Endpoint.Accepts, endpoint, Path.segments, Template.matches_iff, found?,
    Option.map_eq_some_iff, Option.map_eq_some_iff]
  constructor
  · rintro ⟨pair, haccept, rfl⟩
    rcases accept?_eq_some.1 haccept with ⟨hmethod, hoperation, hmatch⟩
    exact ⟨hoperation, hmethod, pair.2, hmatch, rfl⟩
  · rintro ⟨hoperation, hmethod, captures, hmatch, hsame⟩
    refine ⟨(found.operation, captures), accept?_eq_some.2 ⟨hmethod, hoperation, hmatch⟩, ?_⟩
    rw [hsame]

end Written

namespace Route

theorem endpoints_eq : endpoints = written.map Written.endpoint := by
  rw [endpoints, written, writtenCalls, managementEndpoints, List.map_append, List.map_flatMap,
    List.map_map, List.map_map]
  simp only [List.map_map, Function.comp_def, Template.ofText_eq, String.toList_append,
    Written.endpoint]

/-- No request is for two endpoints. -/
theorem endpoints_apart : endpoints.Pairwise fun a b => ∀ path method ca cb,
    ¬(a.Accepts path method ca ∧ b.Accepts path method cb) := by
  rw [endpoints_eq, List.pairwise_map]
  refine written_apart.imp ?_
  rintro a b hapart path method ca cb ⟨ha, hb⟩
  have hfa : a.found? path method = some ⟨a.operation, ca⟩ := Written.accepts_iff.2 ⟨rfl, ha⟩
  have hfb : b.found? path method = some ⟨b.operation, cb⟩ := Written.accepts_iff.2 ⟨rfl, hb⟩
  rcases Option.map_eq_some_iff.1 hfa with ⟨fa, hacceptA, -⟩
  rcases Option.map_eq_some_iff.1 hfb with ⟨fb, hacceptB, -⟩
  rw [Written.overlaps_of_accept? hacceptA hacceptB] at hapart
  exact nomatch hapart

/-- What the table finds a request to be for, in whatever order its entries stand. -/
theorem Table.find?_iff_accepts {other : Table} (hexact : other.exact.Perm table.exact)
    (hpatterns : other.patterns.Perm table.patterns) {path : String} {method : Http.Method}
    {found : Found} : other.find? path method = some found ↔ ∃ endpoint ∈ endpoints,
      endpoint.operation = found.operation ∧ endpoint.Accepts path method found.captures := by
  rw [Table.find?_eq_some hexact hpatterns, endpoints_eq]
  constructor
  · rintro ⟨endpoint, hendpoint, hfound⟩
    exact ⟨endpoint.endpoint, List.mem_map_of_mem hendpoint, Written.accepts_iff.1 hfound⟩
  · rintro ⟨endpoint, hendpoint, haccepts⟩
    rcases List.mem_map.1 hendpoint with ⟨written, hwritten, rfl⟩
    exact ⟨written, hwritten, Written.accepts_iff.2 haccepts⟩

/-- What the paths of all endpoints start with. -/
def trackingRoots : List String := apiRoots.map (· ++ "/mlflow")

/-- All endpoints lie below these. -/
theorem written_below : (written.all fun endpoint => trackingRoots.any fun root =>
    endpoint.startsWith (splitOn '/' root.toList) &&
      (splitOn '/' root.toList).length < (splitOn '/' endpoint.path).length) = true := by
  unfold written writtenCalls trackingEndpoints trackingRoots apiRoots Management.all
  simp only [List.map_cons, List.map_nil, List.flatMap_cons, List.flatMap_nil, List.cons_append,
    List.nil_append, Management.path, Management.grantRoot, Management.root,
    String.toList_append, Management.operation, Management.method]
  repeat rw [String.toList_ofList]
  decide +kernel

/-- What is found lies below one of them. -/
theorem found_below {path : String} {method : Http.Method} {found : Found}
    (h : find? path method = some found) :
    ∃ root ∈ trackingRoots, root.toList ++ ['/'] <+: path.toList := by
  rcases (Table.find?_eq_some .rfl .rfl).1 h with ⟨endpoint, hendpoint, hfound⟩
  rcases Option.map_eq_some_iff.1 hfound with ⟨pair, haccept, -⟩
  rcases Written.accept?_eq_some.1 haccept with ⟨-, -, hmatch⟩
  rcases List.any_eq_true.1 (List.all_eq_true.1 written_below endpoint hendpoint) with
    ⟨root, hroot, hbelow⟩
  rw [Bool.and_eq_true, decide_eq_true_eq] at hbelow
  rcases Written.startsWith_of_match hbelow.1 hmatch with ⟨rest, steps, hsteps, hsegments, hmore⟩
  -- An endpoint is not the root alone, so something of the path is left behind it.
  have hrest : rest ≠ [] := by
    rintro rfl
    cases steps with
    | nil => simp [hsteps] at hbelow
    | cons => exact nomatch hmore
  refine ⟨root, hroot, joinWith '/' rest, ?_⟩
  rw [← joinWith_splitOn '/' path.toList, hsegments,
    joinWith_append (splitOn_ne_nil '/' root.toList) hrest, joinWith_splitOn, List.append_assoc]
  rfl

/-- What artifacts are found under and what is open starts with nothing of that. -/
theorem families_apart : ((artifactRoot :: Path.openStarts).all fun start =>
    trackingRoots.all fun root => !start.toList.isPrefixOf (root.toList ++ ['/']) &&
      !(root.toList ++ ['/']).isPrefixOf start.toList) = true := by
  decide +kernel

/-- Of two texts at the front of a path one is at the front of the other. -/
theorem not_prefix_of_apart {start root path : List Char}
    (hapart : (!start.isPrefixOf root && !root.isPrefixOf start) = true) (hstart : start <+: path) :
    ¬ root <+: path := by
  simp only [Bool.and_eq_true, Bool.not_eq_true', ← Bool.not_eq_true, List.isPrefixOf_iff_prefix]
    at hapart
  intro hroot
  rcases List.prefix_or_prefix_of_prefix hstart hroot with hin | hin
  · exact hapart.1 hin
  · exact hapart.2 hin

/-- So nothing is found there. -/
theorem find?_eq_none {start path : String} (hstart : start ∈ artifactRoot :: Path.openStarts)
    (h : Path.startsWith start path = true) (method : Http.Method) : find? path method = none := by
  refine Option.eq_none_iff_forall_ne_some.2 ?_
  intro found hfound
  rcases found_below hfound with ⟨root, hroot, hbelow⟩
  have hapart := List.all_eq_true.1 (List.all_eq_true.1 families_apart start hstart) root hroot
  exact not_prefix_of_apart hapart (List.isPrefixOf_iff_prefix.1 h) hbelow

theorem startsWith_of_artifactCheck? {path : String} {method : Http.Method}
    (h : (artifactCheck? path method).isSome) : Path.startsWith artifactRoot path = true := by
  rw [artifactCheck?, artifactPath?] at h
  split at h
  · assumption
  · exact nomatch h

/-- A request is found to be for an operation, with captures, exactly if there is an endpoint of
the operation that accepts it with these captures. There is one at most, so the order in which the
endpoints are registered is of no consequence; and there is none for artifacts, nor where no
credentials are asked for. -/
theorem classified :
    (∀ path method found, find? path method = some found ↔ ∃ endpoint ∈ endpoints,
      endpoint.operation = found.operation ∧ endpoint.Accepts path method found.captures) ∧
    (endpoints.Pairwise fun a b => ∀ path method ca cb,
      ¬(a.Accepts path method ca ∧ b.Accepts path method cb)) ∧
    (∀ other : Table, other.exact.Perm table.exact → other.patterns.Perm table.patterns →
      ∀ path method, other.find? path method = find? path method) ∧
    ∀ path method, (artifactCheck? path method).isSome ∨ Path.isOpen path = true →
      find? path method = none := by
  refine ⟨fun path method found => Table.find?_iff_accepts .rfl .rfl, endpoints_apart, ?_, ?_⟩
  · intro other hexact hpatterns path method
    -- Both tables find what an endpoint accepts, and the endpoints are the same.
    refine Option.ext fun found => ?_
    rw [Table.find?_iff_accepts hexact hpatterns, find?, Table.find?_iff_accepts .rfl .rfl]
  · rintro path method (hartifact | hopen)
    · exact find?_eq_none List.mem_cons_self (startsWith_of_artifactCheck? hartifact) method
    · rcases List.any_eq_true.1 hopen with ⟨start, hstart, hfront⟩
      exact find?_eq_none (List.mem_cons_of_mem _ hstart) hfront method

/-- The deletion of a tag is told from all else below the model, also by a table whose entries
stand in the opposite order; and the listing of artifacts is for no endpoint. -/
theorem classified_tag :
    find? "/ajax-api/2.0/mlflow/logged-models/m-1/tags/stage" .delete =
      some ⟨.deleteLoggedModelTag, [("model_id", "m-1"), ("tag_key", "stage")]⟩ ∧
    Table.find? ⟨table.exact.reverse, table.patterns.reverse⟩
      "/ajax-api/2.0/mlflow/logged-models/m-1/tags/stage" .delete =
        some ⟨.deleteLoggedModelTag, [("model_id", "m-1"), ("tag_key", "stage")]⟩ ∧
    find? "/api/2.0/mlflow-artifacts/artifacts" .get = none := by
  have hfound : find? "/ajax-api/2.0/mlflow/logged-models/m-1/tags/stage" .delete =
      some ⟨.deleteLoggedModelTag, [("model_id", "m-1"), ("tag_key", "stage")]⟩ := by
    refine (classified.1 _ _ _).2 ⟨⟨.deleteLoggedModelTag, .ofText ("/ajax-api/2.0" ++
      "/mlflow/logged-models/<model_id>/tags/<tag_key>"), [.delete]⟩, ?_, rfl, ?_⟩
    · refine List.mem_append_left _ (List.mem_flatMap.2 ⟨(.deleteLoggedModelTag,
        "/mlflow/logged-models/<model_id>/tags/<tag_key>", [.delete]), ?_, ?_⟩)
      · simp [trackingEndpoints]
      · exact List.mem_map.2 ⟨"/ajax-api/2.0", by simp [apiRoots], rfl⟩
    · refine ⟨List.mem_singleton.2 rfl, ?_⟩
      -- Template and path are taken apart by evaluation, and match piece by piece.
      have htemplate : Template.ofText ("/ajax-api/2.0" ++
          "/mlflow/logged-models/<model_id>/tags/<tag_key>") =
          [.literal "", .literal "ajax-api", .literal "2.0", .literal "mlflow",
            .literal "logged-models", .capture "model_id", .literal "tags",
            .capture "tag_key"] := by
        decide +kernel
      have hsegments : Path.segments "/ajax-api/2.0/mlflow/logged-models/m-1/tags/stage" =
          ["", "ajax-api", "2.0", "mlflow", "logged-models", "m-1", "tags", "stage"] := by
        decide +kernel
      rw [htemplate, hsegments]
      exact .literal "" (.literal "ajax-api" (.literal "2.0" (.literal "mlflow"
        (.literal "logged-models" (.capture "model_id" (by decide) (.literal "tags"
          (.capture "tag_key" (by decide) .nil)))))))
  refine ⟨hfound, ?_, classified.2.2.2 _ _ (.inl (by decide +kernel))⟩
  rw [classified.2.2.1 _ (List.reverse_perm _) (List.reverse_perm _), hfound]

end Route

end Gatehouse
