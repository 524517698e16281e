import Gatehouse.Params
import Gatehouse.Proofs.Path
import Gatehouse.Proofs.Pattern
import Mathlib.Data.List.Pairwise

/-!
# Routes written out

What the table of endpoints says, read off characters. A path is taken apart into pieces of
characters on both sides, in the table and in a request, and pieces are compared: so the whole
table can be gone through once, and what it says of the gateway's own calls and of logged models
follows for every request.

## Main definitions

* `Written`: An endpoint with its path as characters.
* `Route.written`: The table of endpoints, written out.

## Theorems

* `Route.Table.find?_eq_some`: What is found, in whatever order the entries stand.
* `Route.find?_eq`: An endpoint is found in the table as it is written out.
* `Route.found_match`, `Route.found_plain`: Where a tracking endpoint is found.
* `Route.written_checked`: What the table says.
* `Management.found`: A call is found under its own path.
* `Route.models_found`: What a route about logged models captures.
* `Params.get_captured`: A captured value wins over all others.
-/

namespace Gatehouse

open Text

/-- An endpoint with its path as characters. -/
structure Written where
  operation : Operation
  path : List Char
  methods : List Http.Method
  deriving DecidableEq

namespace Written

/-- What an endpoint captures of the pieces of a path, if it accepts the request. -/
def accept? (segments : List (List Char)) (method : Http.Method) (endpoint : Written) :
    Option (Operation × List (List Char × List Char)) :=
  if method ∈ endpoint.methods then
    (Template.matchPieces (splitOn '/' endpoint.path) segments).map (endpoint.operation, ·)
  else none

theorem accept?_eq_some {segments : List (List Char)} {method : Http.Method} {endpoint : Written}
    {found : Operation × List (List Char × List Char)} :
    accept? segments method endpoint = some found ↔ method ∈ endpoint.methods ∧
      endpoint.operation = found.1 ∧
      Template.matchPieces (splitOn '/' endpoint.path) segments = some found.2 := by
  rw [accept?]
  constructor
  · intro h
    split at h
    · next hmethod =>
        rcases Option.map_eq_some_iff.1 h with ⟨captures, hmatch, rfl⟩
        exact ⟨hmethod, rfl, hmatch⟩
    · exact nomatch h
  · rintro ⟨hmethod, hoperation, hmatch⟩
    rw [if_pos hmethod, hmatch, hoperation]
    rfl

/-- A call is found under its own path, which has no escapes and no dot segments and is not
open. -/
def isRouted (table : List Written) (call : Written) : Bool :=
  call.methods.all (fun method =>
    table.findSome? (accept? (splitOn '/' call.path) method) = some (call.operation, [])) &&
  !call.path.contains '%' &&
  (splitOn '/' call.path).all (fun piece => piece ≠ ['.'] && piece ≠ ['.', '.']) &&
  !Path.openStarts.any fun start => start.toList.isPrefixOf call.path

/-- The pieces of the paths of logged models before the one that names the model. -/
def modelsFront (root : String) : List (List Char) :=
  splitOn '/' (root.toList ++ Route.modelsPath.toList)

/-- Whether two endpoints may accept the same request. -/
def overlaps (a b : Written) : Bool :=
  a.methods.any b.methods.contains && Template.overlaps (splitOn '/' a.path) (splitOn '/' b.path)

theorem overlaps_of_accept? {a b : Written} {segments : List (List Char)} {method : Http.Method}
    {fa fb : Operation × List (List Char × List Char)}
    (hfa : a.accept? segments method = some fa) (hfb : b.accept? segments method = some fb) :
    a.overlaps b = true := by
  rw [accept?_eq_some] at hfa hfb
  have hmethods : a.methods.any b.methods.contains = true :=
    List.any_eq_true.2 ⟨method, hfa.1, List.contains_iff_mem.2 hfb.1⟩
  rw [overlaps, hmethods, Template.overlaps_of_matchPieces hfa.2.2 hfb.2.2]
  rfl

/-- Whether the first pieces of the path of an endpoint are given ones, none of which captures. -/
def startsWith (front : List (List Char)) (endpoint : Written) : Bool :=
  front.all (Step.name? · = none) && front.isPrefixOf (splitOn '/' endpoint.path)

/-- Whether the path of an endpoint is that of logged models or one below it. -/
def isModels (endpoint : Written) : Bool :=
  Route.apiRoots.any fun root => endpoint.startsWith (modelsFront root)

/-- Whether the path of an endpoint captures nothing, and nothing of the paths of logged models
stands in it. -/
def isExact (endpoint : Written) : Bool :=
  (splitOn '/' endpoint.path).all (Step.name? · = none) &&
    !Path.occurs Route.modelsPath.toList endpoint.path

/-- A path that an endpoint accepts starts with what the path of the endpoint starts with. -/
theorem startsWith_of_match {front : List (List Char)} {endpoint : Written}
    (h : endpoint.startsWith front = true) {segments : List (List Char)}
    {captures : List (List Char × List Char)}
    (hmatch : Template.matchPieces (splitOn '/' endpoint.path) segments = some captures) :
    ∃ rest steps, splitOn '/' endpoint.path = front ++ steps ∧ segments = front ++ rest ∧
      Template.matchPieces steps rest = some captures := by
  rw [startsWith, Bool.and_eq_true, List.isPrefixOf_iff_prefix] at h
  rcases h with ⟨hfront, steps, hsteps⟩
  rw [← hsteps] at hmatch
  have hnames : ∀ piece ∈ front, Step.name? piece = none := by
    intro piece hpiece
    exact of_decide_eq_true (List.all_eq_true.1 hfront piece hpiece)
  rcases Template.matchPieces_append hnames hmatch with ⟨rest, hrest, hmore⟩
  exact ⟨rest, steps, hsteps.symm, hrest, hmore⟩

/-- In a path that an endpoint of logged models accepts the path of logged models stands. -/
theorem contains_of_isModels {endpoint : Written} (h : endpoint.isModels = true) {path : String}
    {captures : List (List Char × List Char)} (hmatch : Template.matchPieces
      (splitOn '/' endpoint.path) (splitOn '/' path.toList) = some captures) :
    Path.contains Route.modelsPath path = true := by
  rcases List.any_eq_true.1 h with ⟨root, -, hfront⟩
  rcases startsWith_of_match hfront hmatch with ⟨rest, -, -, hsegments, -⟩
  have hstart := joinWith_prefix '/' (modelsFront root) rest
  rw [← hsegments, joinWith_splitOn, modelsFront, joinWith_splitOn] at hstart
  exact Path.occurs_iff.2 ((List.suffix_append root.toList _).isInfix.trans hstart.isInfix)

/-- The path that an endpoint without captures accepts is its own, and nothing is captured. -/
theorem eq_of_isExact {endpoint : Written} (h : endpoint.isExact = true) {path : String}
    {captures : List (List Char × List Char)} (hmatch : Template.matchPieces
      (splitOn '/' endpoint.path) (splitOn '/' path.toList) = some captures) :
    String.ofList endpoint.path = path ∧ captures = [] ∧
      Path.contains Route.modelsPath path = false := by
  rw [isExact, Bool.and_eq_true, Bool.not_eq_true'] at h
  rcases h with ⟨hnames, hmodels⟩
  have hplain : ∀ piece ∈ splitOn '/' endpoint.path, Step.name? piece = none := by
    intro piece hpiece
    exact of_decide_eq_true (List.all_eq_true.1 hnames piece hpiece)
  rcases Template.eq_of_matchPieces hplain hmatch with ⟨hsegments, hcaptures⟩
  have hpath : path.toList = endpoint.path := by
    rw [← joinWith_splitOn '/' path.toList, hsegments, joinWith_splitOn]
  refine ⟨by rw [← hpath, String.ofList_toList], hcaptures, ?_⟩
  rw [Path.contains, hpath]
  exact hmodels

/-- What an endpoint finds in a path, as texts. -/
def found? (path : String) (method : Http.Method) (endpoint : Written) : Option Route.Found :=
  (endpoint.accept? (splitOn '/' path.toList) method).map fun found =>
    ⟨found.1, found.2.map textPair⟩

/-- Where an operation is decided on a logged model, the piece behind the front captures the id
of the model, and no later piece does. -/
def marksModel (endpoint : Written) : Bool :=
  match endpoint.operation.check? with
  | some (.capability .loggedModelId _) =>
    Route.apiRoots.any fun root =>
      let front := modelsFront root
      front.all (Step.name? · = none) && front.isPrefixOf (splitOn '/' endpoint.path) &&
        match (splitOn '/' endpoint.path).drop front.length with
        | piece :: rest => Step.name? piece = some "model_id".toList &&
            rest.all (Step.name? · ≠ some "model_id".toList)
        | [] => false
  | _ => true

end Written

namespace Route

/-- The gateway's own calls, written out. -/
def writtenCalls : List Written :=
  Management.all.map fun call => ⟨call.operation, call.path.toList, [call.method]⟩

/-- The table of endpoints, written out. -/
def written : List Written :=
  (trackingEndpoints.flatMap fun endpoint => apiRoots.map fun root =>
    ⟨endpoint.1, root.toList ++ endpoint.2.1.toList, endpoint.2.2⟩) ++ writtenCalls

theorem mem_spread {tracking : List (Operation × String × List Http.Method)}
    {entry : String × Http.Method × Operation} : entry ∈ Table.spread tracking ↔
      ∃ endpoint ∈ tracking, ∃ root ∈ apiRoots, entry.2.1 ∈ endpoint.2.2 ∧
        entry = (root ++ endpoint.2.1, entry.2.1, endpoint.1) := by
  constructor
  · intro h
    rcases List.mem_flatMap.1 h with ⟨endpoint, hendpoint, hroots⟩
    rcases List.mem_flatMap.1 hroots with ⟨root, hroot, hmethods⟩
    rcases List.mem_map.1 hmethods with ⟨method, hmethod, rfl⟩
    exact ⟨endpoint, hendpoint, root, hroot, hmethod, rfl⟩
  · rintro ⟨endpoint, hendpoint, root, hroot, hmethod, hentry⟩
    rw [hentry]
    exact List.mem_flatMap.2 ⟨endpoint, hendpoint, List.mem_flatMap.2 ⟨root, hroot,
      List.mem_map.2 ⟨entry.2.1, hmethod, rfl⟩⟩⟩

/-- What the table says of the gateway's own calls and of logged models. -/
theorem written_checked :
    writtenCalls.all (Written.isRouted written) = true ∧ written.all Written.marksModel = true := by
  unfold written writtenCalls trackingEndpoints apiRoots Management.all
  simp only [List.map_cons, List.map_nil, List.flatMap_cons, List.flatMap_nil, List.cons_append,
    List.nil_append, Management.path, Management.grantRoot, Management.root,
    String.toList_append, Management.operation, Management.method]
  -- The characters of a text that is written down are those that it is written with.
  repeat rw [String.toList_ofList]
  decide +kernel

/-- No two endpoints of the table accept the same request. -/
theorem written_apart : written.Pairwise fun a b => a.overlaps b = false := by
  unfold written writtenCalls trackingEndpoints apiRoots Management.all
  simp only [List.map_cons, List.map_nil, List.flatMap_cons, List.flatMap_nil, List.cons_append,
    List.nil_append, Management.path, Management.grantRoot, Management.root,
    String.toList_append, Management.operation, Management.method]
  repeat rw [String.toList_ofList]
  decide +kernel

/-- The tracking endpoints that are looked up by patterns are those of logged models, and all
others capture nothing; nor do the gateway's own. -/
theorem written_families :
    (trackingEndpoints.all fun endpoint => apiRoots.all fun root =>
      let whole : Written := ⟨endpoint.1, root.toList ++ endpoint.2.1.toList, endpoint.2.2⟩
      if Path.startsWith modelsPath endpoint.2.1 then whole.isModels else whole.isExact) = true ∧
    writtenCalls.all Written.isExact = true := by
  unfold writtenCalls trackingEndpoints apiRoots Management.all Path.startsWith
  simp only [List.map_cons, List.map_nil, List.flatMap_cons, List.flatMap_nil, List.cons_append,
    List.nil_append, Management.path, Management.grantRoot, Management.root, List.all_cons,
    List.all_nil, String.toList_append, Management.operation, Management.method]
  repeat rw [String.toList_ofList]
  decide +kernel

/-- An endpoint of the table is looked up by its path, which captures nothing, or it is one of
logged models and is looked up by its pattern. -/
theorem listed {endpoint : Written} (h : endpoint ∈ written) {method : Http.Method}
    (hmethod : method ∈ endpoint.methods) :
    (endpoint.isExact = true ∧
      ((String.ofList endpoint.path, method), endpoint.operation) ∈ table.exact) ∨
    (endpoint.isModels = true ∧
      ((Template.ofText (String.ofList endpoint.path)).pattern, method, endpoint.operation) ∈
        table.patterns) := by
  rcases List.mem_append.1 h with htracking | hown
  · rcases List.mem_flatMap.1 htracking with ⟨⟨operation, path, methods⟩, hin, hroots⟩
    rcases List.mem_map.1 hroots with ⟨root, hroot, rfl⟩
    -- The endpoint stands below one of the roots.
    have hwhole : String.ofList (root.toList ++ path.toList) = root ++ path := by
      rw [String.ofList_append, String.ofList_toList, String.ofList_toList]
    have hfamily := List.all_eq_true.1 (List.all_eq_true.1 written_families.1 _ hin) root hroot
    dsimp only at hfamily hmethod ⊢
    rw [hwhole]
    -- Endpoints of logged models are entered as patterns, all others by their paths.
    by_cases hmodels : Path.startsWith modelsPath path = true
    · rw [if_pos hmodels] at hfamily
      refine .inr ⟨hfamily, List.mem_map.2 ⟨(root ++ path, method, operation), ?_, rfl⟩⟩
      exact mem_spread.2 ⟨_, List.mem_filter.2 ⟨hin, hmodels⟩, root, hroot, hmethod, rfl⟩
    · rw [if_neg hmodels] at hfamily
      refine .inl ⟨hfamily, List.mem_append_left _
        (List.mem_map.2 ⟨(root ++ path, method, operation), ?_, rfl⟩)⟩
      refine mem_spread.2 ⟨_, List.mem_filter.2 ⟨hin, ?_⟩, root, hroot, hmethod, rfl⟩
      rw [Bool.not_eq_true', Bool.eq_false_iff]
      exact hmodels
  · rcases List.mem_map.1 hown with ⟨call, hcall, rfl⟩
    -- A call of the gateway is entered by its path, as it is written.
    refine .inl ⟨List.all_eq_true.1 written_families.2 _ hown, List.mem_append_right _ ?_⟩
    obtain rfl := List.mem_singleton.1 hmethod
    rw [String.ofList_toList]
    exact List.mem_map.2 ⟨_, List.mem_map.2 ⟨call, hcall, rfl⟩, rfl⟩

/-- What is looked up by its path is an endpoint of the table that captures nothing. -/
theorem of_mem_exact {path : String} {method : Http.Method} {operation : Operation}
    (h : ((path, method), operation) ∈ table.exact) :
    ∃ endpoint ∈ written, method ∈ endpoint.methods ∧ endpoint.operation = operation ∧
      endpoint.path = path.toList ∧ endpoint.isExact = true := by
  rcases List.mem_append.1 h with htracking | hown
  · rcases List.mem_map.1 htracking with ⟨entry, hentry, hsame⟩
    -- An endpoint of the tracker, below one of the roots and not of logged models.
    rcases mem_spread.1 hentry with ⟨⟨op, below, methods⟩, hin, root, hroot, hmethod, hwhole⟩
    rcases List.mem_filter.1 hin with ⟨hlisted, hother⟩
    have hfamily := List.all_eq_true.1 (List.all_eq_true.1 written_families.1 _ hlisted) root hroot
    dsimp only at hfamily
    rw [Bool.not_eq_true', Bool.eq_false_iff] at hother
    rw [if_neg hother] at hfamily
    obtain ⟨⟨rfl, rfl⟩, rfl⟩ := hsame
    rw [hwhole] at hmethod ⊢
    exact ⟨_, List.mem_append_left _ (List.mem_flatMap.2 ⟨_, hlisted,
      List.mem_map.2 ⟨root, hroot, rfl⟩⟩), hmethod, rfl, String.toList_append.symm, hfamily⟩
  · rcases List.mem_map.1 hown with ⟨entry, hentry, hsame⟩
    -- A call of the gateway has one path and one method, and its entry is found under them.
    rcases List.mem_map.1 hentry with ⟨call, hcall, rfl⟩
    obtain ⟨⟨rfl, rfl⟩, rfl⟩ := hsame
    have hin : (⟨call.operation, call.path.toList, [call.method]⟩ : Written) ∈ writtenCalls :=
      List.mem_map_of_mem hcall
    exact ⟨_, List.mem_append_right _ hin, List.mem_singleton.2 rfl, rfl, rfl,
      List.all_eq_true.1 written_families.2 _ hin⟩

/-- What is looked up by a pattern is an endpoint of the table. -/
theorem of_mem_patterns {pattern : Pattern} {method : Http.Method} {operation : Operation}
    (h : (pattern, method, operation) ∈ table.patterns) :
    ∃ endpoint ∈ written, method ∈ endpoint.methods ∧ endpoint.operation = operation ∧
      pattern = (Template.ofText (String.ofList endpoint.path)).pattern := by
  rcases List.mem_map.1 h with ⟨entry, hentry, hsame⟩
  rcases mem_spread.1 hentry with ⟨⟨op, below, methods⟩, hin, root, hroot, hmethod, hwhole⟩
  obtain ⟨rfl, rfl, rfl⟩ := hsame
  rw [hwhole] at hmethod ⊢
  refine ⟨⟨op, root.toList ++ below.toList, methods⟩, List.mem_append_left _
    (List.mem_flatMap.2 ⟨_, (List.mem_filter.1 hin).1, List.mem_map.2 ⟨root, hroot, rfl⟩⟩),
    hmethod, rfl, ?_⟩
  rw [String.ofList_append, String.ofList_toList, String.ofList_toList]

/-- Endpoints that accept the same request are the same. -/
theorem written_once {a b : Written} (ha : a ∈ written) (hb : b ∈ written)
    {segments : List (List Char)} {method : Http.Method}
    {fa fb : Operation × List (List Char × List Char)}
    (hfa : a.accept? segments method = some fa) (hfb : b.accept? segments method = some fb) :
    a = b := by
  let Apart (a b : Written) : Prop := ∀ fa fb, a.accept? segments method = some fa →
    b.accept? segments method = some fb → a = b
  have : Std.Symm Apart := ⟨fun _ _ h fb fa hfb hfa => (h fa fb hfa hfb).symm⟩
  have hapart : written.Pairwise Apart := by
    refine written_apart.imp ?_
    intro a b hno fa fb hfa hfb
    rw [Written.overlaps_of_accept? hfa hfb] at hno
    exact nomatch hno
  exact List.Pairwise.forall_of_forall (fun _ _ _ _ _ _ => rfl) hapart ha hb fa fb hfa hfb

/-- Nothing is found but what an endpoint accepts, in whatever order the entries stand. -/
theorem Table.of_find? {other : Table} (hexact : other.exact.Perm table.exact)
    (hpatterns : other.patterns.Perm table.patterns) {path : String} {method : Http.Method}
    {found : Found} (h : other.find? path method = some found) :
    ∃ endpoint ∈ written, endpoint.found? path method = some found := by
  rw [Table.find?] at h
  split at h
  · -- A path of logged models is held against every pattern in turn.
    rcases List.exists_of_findSome?_eq_some h with ⟨⟨pattern, accepted, operation⟩, hin, haccept⟩
    rcases of_mem_patterns (hpatterns.mem_iff.1 hin) with
      ⟨endpoint, hendpoint, hmethod, rfl, rfl⟩
    rw [Table.accept?] at haccept
    split at haccept
    · next hsame =>
        subst hsame
        rw [Template.match?_ofText, String.toList_ofList] at haccept
        refine ⟨endpoint, hendpoint, ?_⟩
        rw [Written.found?, Written.accept?, if_pos hmethod, Option.map_map, ← haccept,
          Option.map_map]
        rfl
    · exact nomatch haccept
  · -- All other paths are looked up as they are, so nothing is captured.
    rcases Option.map_eq_some_iff.1 h with ⟨operation, hlookup, rfl⟩
    rcases List.lookup_eq_some_iff.1 hlookup with ⟨before, behind, hentries, -⟩
    have hin : ((path, method), operation) ∈ other.exact := by
      rw [← List.mem_reverse, hentries]
      exact List.mem_append_right _ List.mem_cons_self
    rcases of_mem_exact (hexact.mem_iff.1 hin) with
      ⟨endpoint, hendpoint, hmethod, rfl, hpath, hplain⟩
    rw [Written.isExact, Bool.and_eq_true, List.all_eq_true] at hplain
    refine ⟨endpoint, hendpoint, ?_⟩
    rw [Written.found?, Written.accept?, if_pos hmethod, ← hpath, Template.matchPieces_self
      fun piece hpiece => of_decide_eq_true (hplain.1 piece hpiece)]
    rfl

/-- What is found is what an endpoint of the table accepts, in whatever order the entries stand. -/
theorem Table.find?_eq_some {other : Table} (hexact : other.exact.Perm table.exact)
    (hpatterns : other.patterns.Perm table.patterns) {path : String} {method : Http.Method}
    {found : Found} : other.find? path method = some found ↔
      ∃ endpoint ∈ written, endpoint.found? path method = some found := by
  refine ⟨Table.of_find? hexact hpatterns, ?_⟩
  rintro ⟨endpoint, hendpoint, h⟩
  rcases Option.map_eq_some_iff.1 h with ⟨pair, haccept, rfl⟩
  rcases Written.accept?_eq_some.1 haccept with ⟨hmethod, hoperation, hmatch⟩
  -- Something is found; that it is this follows from there being no other endpoint.
  have hsome : (other.find? path method).isSome := by
    rw [Table.find?]
    rcases listed hendpoint hmethod with ⟨hplain, hin⟩ | ⟨hmodels, hin⟩
    · rcases Written.eq_of_isExact hplain hmatch with ⟨hpath, -, hother⟩
      rw [if_neg (Bool.eq_false_iff.1 hother), Option.isSome_map, Option.isSome_iff_ne_none]
      intro hnone
      have hentry : ((String.ofList endpoint.path, method), endpoint.operation) ∈
          other.exact.reverse := List.mem_reverse.2 (hexact.mem_iff.2 hin)
      have hne := List.lookup_eq_none_iff.1 hnone _ hentry
      rw [hpath, bne_self_eq_false] at hne
      exact nomatch hne
    · rw [if_pos (Written.contains_of_isModels hmodels hmatch), List.findSome?_isSome_iff]
      refine ⟨_, hpatterns.mem_iff.2 hin, ?_⟩
      rw [Table.accept?, if_pos rfl, Template.match?_ofText, String.toList_ofList, hmatch]
      rfl
  rcases Option.isSome_iff_exists.1 hsome with ⟨result, hresult⟩
  rcases Table.of_find? hexact hpatterns hresult with ⟨same, hsame, hfound⟩
  rcases Option.map_eq_some_iff.1 hfound with ⟨again, hagain, -⟩
  obtain rfl := written_once hendpoint hsame haccept hagain
  rw [hresult, ← hfound, h]

/-- An endpoint is found in the table as it is written out. -/
theorem find?_eq (path : String) (method : Http.Method) : find? path method =
    (written.findSome? (Written.accept? (splitOn '/' path.toList) method)).map fun found =>
      ⟨found.1, found.2.map textPair⟩ := by
  rw [List.map_findSome?]
  cases hfound : written.findSome? (Written.found? path method) with
  | some found =>
      exact (Table.find?_eq_some .rfl .rfl).2 (List.exists_of_findSome?_eq_some hfound)
        |>.trans hfound.symm
  | none =>
      refine (Option.eq_none_iff_forall_ne_some.2 ?_).trans hfound.symm
      intro found hother
      rcases (Table.find?_eq_some .rfl .rfl).1 hother with ⟨endpoint, hendpoint, haccept⟩
      rw [List.findSome?_eq_none_iff.1 hfound endpoint hendpoint] at haccept
      exact nomatch haccept

/-- A tracking endpoint is found under every path that it matches below a root. -/
theorem found_match {operation : Operation} {path root text : String} {methods : List Http.Method}
    {method : Http.Method} {captures : List (List Char × List Char)}
    (h : (operation, path, methods) ∈ trackingEndpoints) (hroot : root ∈ apiRoots)
    (hmethod : method ∈ methods) (hmatch : Template.matchPieces (splitOn '/' (root ++ path).toList)
      (splitOn '/' text.toList) = some captures) :
    find? text method = some ⟨operation, captures.map textPair⟩ := by
  refine (Table.find?_eq_some .rfl .rfl).2 ⟨⟨operation, (root ++ path).toList, methods⟩, ?_, ?_⟩
  · rw [String.toList_append]
    exact List.mem_append_left _ (List.mem_flatMap.2 ⟨_, h, List.mem_map.2 ⟨root, hroot, rfl⟩⟩)
  · rw [Written.found?, Written.accept?, if_pos hmethod, hmatch]
    rfl

/-- One that captures nothing is found under its own path. -/
theorem found_plain {operation : Operation} {path root : String} {methods : List Http.Method}
    {method : Http.Method} (h : (operation, path, methods) ∈ trackingEndpoints)
    (hroot : root ∈ apiRoots) (hmethod : method ∈ methods)
    (hplain : ∀ piece ∈ splitOn '/' (root ++ path).toList, Step.name? piece = none) :
    find? (root ++ path) method = some ⟨operation, []⟩ :=
  found_match h hroot hmethod (Template.matchPieces_self hplain)

/-- A route on which a check is decided on a logged model captures the id of the model from the
segment behind the front, under a name that no later segment has. -/
theorem models_found {path : String} {method : Http.Method} {found : Found}
    {capability : Capability} (h : find? path method = some found)
    (hcheck : found.operation.check? = some (.capability .loggedModelId capability)) :
    ∃ root ∈ apiRoots, ∃ id rest more,
      Path.segments path = Path.segments (root ++ modelsPath) ++ id :: rest ∧
      found.captures = ("model_id", id) :: more ∧ ∀ c ∈ more, c.1 ≠ "model_id" := by
  -- The endpoint is one of the table, and what has been checked of all of them holds of it.
  rcases (Table.find?_eq_some .rfl .rfl).1 h with ⟨endpoint, hendpoint, hfound⟩
  rcases Option.map_eq_some_iff.1 hfound with ⟨pair, haccept, rfl⟩
  rcases Written.accept?_eq_some.1 haccept with ⟨-, hoperation, hmatch⟩
  have hmarked := List.all_eq_true.1 written_checked.2 endpoint hendpoint
  rw [Written.marksModel, hoperation, hcheck, List.any_eq_true] at hmarked
  rcases hmarked with ⟨root, hroot, hshape⟩
  rw [Bool.and_eq_true] at hshape
  rcases hshape with ⟨hfront, hnames⟩
  rcases Written.startsWith_of_match hfront hmatch with ⟨tail, steps, hsteps, htail, hmatchTail⟩
  rw [hsteps, List.drop_left] at hnames
  cases steps with
  | nil => cases hnames
  | cons piece later =>
      simp only [Bool.and_eq_true, decide_eq_true_eq, List.all_eq_true] at hnames
      rcases (Template.matchPieces_capture hnames.1).1 hmatchTail with
        ⟨id, others, more, rfl, hcaptures, -, hmore⟩
      refine ⟨root, hroot, String.ofList id, others.map String.ofList, more.map textPair,
        ?_, ?_, ?_⟩
      · rw [Path.segments, htail, List.map_append, List.map_cons, Path.segments,
          String.toList_append]
        rfl
      · rw [hcaptures, List.map_cons, textPair, String.ofList_toList]
      · -- A later capture of the name would be that of a later piece of the template.
        intro c hc hname
        rcases List.mem_map.1 hc with ⟨pair, hin, rfl⟩
        rcases Template.name_of_mem_captures hmore pair hin with ⟨later, hlater, hsame⟩
        refine hnames.2 later hlater (hsame.trans (congrArg some ?_))
        rw [← hname, textPair, String.toList_ofList]

end Route

theorem Management.mem_all (call : Management) : call ∈ all := by
  cases call with
  | createGrant kind => cases kind <;> decide
  | getGrant kind => cases kind <;> decide
  | updateGrant kind => cases kind <;> decide
  | deleteGrant kind => cases kind <;> decide
  | _ => decide

/-- A call is found under its own path, which decodes to itself and is not open. -/
theorem Management.found (call : Management) :
    Path.decode call.path = .ok call.path ∧ Path.isOpen call.path = false ∧
      Route.find? call.path call.method = some ⟨call.operation, []⟩ := by
  have hchecked := List.all_eq_true.1 Route.written_checked.1 _
    (List.mem_map_of_mem call.mem_all)
  simp only [Written.isRouted, Bool.and_eq_true, List.all_cons, List.all_nil, Bool.and_true,
    decide_eq_true_eq, Bool.not_eq_true', List.contains_eq_mem, decide_eq_false_iff_not,
    List.all_eq_true] at hchecked
  rcases hchecked with ⟨⟨⟨hfound, hescape⟩, hdots⟩, hopen⟩
  refine ⟨Path.decode_eq_self hescape ?_, hopen, ?_⟩
  · intro piece hpiece
    have hboth := hdots piece hpiece
    simpa using hboth
  · rw [Route.find?_eq, hfound]
    rfl

namespace Params

/-- A value that the path captures is the value of the parameter, whatever else the request
holds. -/
theorem get_captured {method : Http.Method} {headers : Http.Headers} {query : Option String}
    {body : Bytes} {name value : String} {more : List (String × String)} {params : Params}
    (hmore : ∀ c ∈ more, c.1 ≠ name)
    (h : ofRequest method headers query body ((name, value) :: more) = .ok params) :
    params.get name = .ok value := by
  unfold ofRequest at h
  cases hvalues : sourceValues method headers query body with
  | error e =>
      rw [hvalues] at h
      exact nomatch h
  | ok values =>
      rw [hvalues] at h
      -- Captures are put over what the source has, and no later one has the name.
      have hheld : params.raw? name = some (.string value) := by
        rw [← Except.ok.inj h, raw?]
        dsimp only
        rw [List.foldl_cons, lookup_captured hmore, Json.lookup_insertMember,
          if_pos rfl]
      rw [get, get?, hheld]
      rfl

end Params

end Gatehouse
