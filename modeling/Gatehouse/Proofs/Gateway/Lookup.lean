import Gatehouse.Proofs.Gateway.Mediation
import Gatehouse.Proofs.Tracker.Lookup

/-!
# Logged models looked up and asked for

A request about a logged model names it twice to the tracking server: when it goes on, in the
path as it came, and before that when the gateway asks for the experiment whose grants decide the
check, in a path that the gateway makes from the decoded id. The first address names the model
that the path was decoded to. The second one does exactly where the id is one segment as it
stands, since it is put into the path without being coded again.

## Main definitions

* `Site.Concerns`: The address of a logged model or of what belongs to it.
* `Gateway.OnModel`: A request whose check is decided on a logged model.

## Theorems

* `Gateway.OnModel.exists_forwarded`: A request goes on to the model of its check.
* `Gateway.lookup_names_iff`: A lookup names the same model exactly where the id is a segment.
-/

namespace Gatehouse

open Text

/-- An address is that of a logged model or of what belongs to it: behind one of the roots there
are the segments of all logged models and one that decodes to the id. -/
def Site.Concerns (site : Site) (url : Url) (id : String) : Prop :=
  ∃ root ∈ Route.apiRoots, ∃ segments decoded rest, site.below? url = some segments ∧
    segments.mapM Path.decodeSegment? = some decoded ∧
      "" :: decoded = Path.segments (root ++ Route.modelsPath) ++ id :: rest

theorem Forward.url_of_outgoing {site : Site} {request : Http.Request} {url : Url}
    (haddress : site.address request.target.forwarded = .ok url) :
    ∀ outgoing, Forward.outgoing site request = .ok outgoing → outgoing.url = url := by
  intro outgoing hout
  rcases Error.bind_eq_ok_iff.1 hout with ⟨sent, hsent, hrest⟩
  rw [haddress] at hsent
  obtain rfl := Except.ok.inj hsent
  split at hrest
  · exact nomatch hrest
  · exact Except.ok.inj hrest ▸ rfl

namespace Gateway

/-- A request whose check is decided on a logged model, with a path that has no backslash. -/
structure OnModel (uri : String) (request : Http.Request) (path : String) : Prop where
  target : Http.Target.ofText? uri = some request.target
  start : uri.toList.head? = some '/'
  plain : '\\' ∉ request.target.rawPath.toList
  decoded : Path.decode request.target.path = .ok path
  check : ∃ found capability, Route.find? path request.method = some found ∧
    found.operation.check? = some (.capability .loggedModelId capability)

variable {σ : Type} {text uri path : String} {site : Site} {request : Http.Request}

/-- A request goes on to the model whose experiment is asked for in its check. -/
theorem OnModel.exists_forwarded (h : OnModel uri request path)
    (hsite : Site.ofText text = .ok site) (hweb : Url.IsWeb site.base.scheme)
    (hquery : site.base.query = none) (hfragment : site.base.fragment = none)
    (gateway : Gateway σ) : ∃ id url, Path.isPlain id = true ∧
      (∀ account params, account.admin = false →
        (caseOf account path request.method).paramsOf request = .ok params →
          params.get "model_id" = .ok id ∧
          Subject.loggedModelId.owner gateway.tracker params = (do
            let experiment ← gateway.tracker.loggedModelExperiment id
            pure (some ⟨.experiment, experiment⟩))) ∧
      site.address request.target.forwarded = .ok url ∧ site.Concerns url id := by
  rcases h.check with ⟨found, capability, hfound, hcheck⟩
  rcases @owner_of_models σ gateway _ _ _ _ h.decoded hfound hcheck with
    ⟨root, hroot, id, rest, hsegments, howner⟩
  -- The address is made of the segments of the path, one of which is the id that is checked.
  rcases Path.mapM_decodeSegment_eq_ok hsegments with ⟨hpieces, hkept⟩
  rcases Site.exists_forwarded hsite hweb hquery hfragment h.target h.start h.plain hpieces hkept with
    ⟨url, segments, decoded, haddress, hbelow, hdecoded, hwhole⟩
  exact ⟨id, url, hkept id (List.mem_append_right _ List.mem_cons_self), howner, haddress,
    root, hroot, segments, decoded, rest, hbelow, hdecoded, hwhole⟩

/-- The model that is looked up is the one that is asked for exactly where its id is one segment as
it stands: the address of the lookup names an id if and only if it is, and a request whose check is
decided on a logged model goes on to the model whose experiment is asked for in its check. -/
theorem lookup_names_iff (hsite : Site.ofText text = .ok site) (hweb : Url.IsWeb site.base.scheme)
    (hquery : site.base.query = none) (hfragment : site.base.fragment = none) :
    (∀ id, Path.isPlain id = true → ∃ url,
      (∀ transport : Transport σ, Rest.loggedModelExperiment site transport id = (do
        let body ← transport.ask ⟨.get, url, [], []⟩
        Rest.ownerIn id body)) ∧ (site.Names url id ↔ Rest.IsSegment id)) ∧
    ∀ (gateway : Gateway σ) transport uri request path,
      gateway.tracker = Rest.tracker site transport → OnModel uri request path →
        ∃ id url, Path.isPlain id = true ∧
          (∀ account params, account.admin = false →
            (caseOf account path request.method).paramsOf request = .ok params →
              params.get "model_id" = .ok id ∧
              Subject.loggedModelId.owner gateway.tracker params = (do
                let experiment ← Rest.loggedModelExperiment site transport id
                pure (some ⟨.experiment, experiment⟩))) ∧
          site.Concerns url id ∧
          ∀ outgoing, Forward.outgoing site request = .ok outgoing → outgoing.url = url := by
  refine ⟨fun id hplain => Site.exists_lookup σ hsite hweb hquery hfragment hplain, ?_⟩
  intro gateway transport uri request path htracker hmodel
  -- The request goes on to the address of its own path, and its check takes the id from there.
  rcases hmodel.exists_forwarded hsite hweb hquery hfragment gateway with
    ⟨id, url, hplain, howner, haddress, hconcerns⟩
  refine ⟨id, url, hplain, ?_, hconcerns, Forward.url_of_outgoing haddress⟩
  intro account params hadmin hparams
  rcases howner account params hadmin hparams with ⟨hparam, howns⟩
  refine ⟨hparam, ?_⟩
  rw [howns, htracker]
  rfl

/-- Somebody asks about a logged model. -/
def asking (model : String) : Http.Request :=
  ⟨.get, ⟨none, "", "/api/2.0/mlflow/logged-models/" ++ model, none⟩, [], .whole []⟩

/-- A gateway before a tracking server that cannot be reached. -/
def stranded (site : Site) : Gateway Unit :=
  ⟨Rest.tracker site fun _ => pure none, .read, .remoteUser, 1024, fun _ => pure ⟨502, [], []⟩⟩

theorem find?_asking : Route.find? "/api/2.0/mlflow/logged-models/m-1" (asking "m-1").method =
    some ⟨.getLoggedModel, [("model_id", "m-1")]⟩ := by
  have hin : (Operation.getLoggedModel, "/mlflow/logged-models/<model_id>", [Http.Method.get]) ∈
      Route.trackingEndpoints := by
    simp [Route.trackingEndpoints]
  have hmatch : Template.matchPieces
      (splitOn '/' ("/api/2.0" ++ "/mlflow/logged-models/<model_id>").toList)
      (splitOn '/' "/api/2.0/mlflow/logged-models/m-1".toList) =
        some [("model_id".toList, "m-1".toList)] := by decide +kernel
  exact Route.found_match hin (List.mem_cons_self : "/api/2.0" ∈ Route.apiRoots)
    List.mem_cons_self hmatch

theorem onModel_asking : OnModel "/api/2.0/mlflow/logged-models/m-1" (asking "m-1")
    "/api/2.0/mlflow/logged-models/m-1" where
  target := by rfl
  start := by decide
  plain := by decide
  decoded := by rfl
  check := ⟨_, .read, find?_asking, rfl⟩

/-- A model with a usual id is looked up, and asked for. -/
theorem lookup_names_iff_usual : ∃ site url forwarded,
    Site.ofText "http://tracker" = .ok site ∧ site.Names url "m-1" ∧
      Subject.loggedModelId.owner (stranded site).tracker ⟨[("model_id", .string "m-1")]⟩ = (do
        let experiment ← Rest.loggedModelExperiment site (fun _ => pure none) "m-1"
        pure (some ⟨.experiment, experiment⟩)) ∧
      site.Concerns forwarded "m-1" := by
  have hsite : Site.ofText "http://tracker" = .ok ⟨Site.tracker [""] none⟩ := by rfl
  rcases @lookup_names_iff Unit _ _ hsite (.inl rfl) rfl rfl with ⟨hlookups, hforwards⟩
  rcases hlookups "m-1" (by decide) with ⟨url, -, hnames⟩
  have hsegment : Rest.IsSegment "m-1" := by
    have htext : "m-1".toList = ['m', '-', '1'] := by rfl
    refine ⟨by simp [htext], by simp [htext], ?_, by decide⟩
    intro c hc
    obtain rfl : '1' = c := Option.some.inj hc
    decide
  rcases hforwards (stranded ⟨Site.tracker [""] none⟩) _ _ _ _ rfl onModel_asking with
    ⟨id, forwarded, -, howner, hconcerns, -⟩
  -- The request has no parameters but the id in its path.
  have hparams : (caseOf ⟨1, "ada", .password "secret", false⟩ "/api/2.0/mlflow/logged-models/m-1"
      (asking "m-1").method).paramsOf (asking "m-1") =
        .ok ⟨[("model_id", .string "m-1")]⟩ := by
    simp only [caseOf, checkOf?, find?_asking]
    rfl
  rcases howner _ _ rfl hparams with ⟨hparam, howns⟩
  obtain rfl : "m-1" = id := Except.ok.inj hparam
  exact ⟨_, url, forwarded, hsite, hnames.2 hsegment, howns, hconcerns⟩

/-- A question mark in an id ends the path: another model is looked up. -/
theorem lookup_names_mark : ∃ site url,
    Site.ofText "http://tracker" = .ok site ∧ Path.isPlain "a?b" = true ∧
      (∀ transport : Transport Unit, Rest.loggedModelExperiment site transport "a?b" = (do
        let body ← transport.ask ⟨.get, url, [], []⟩
        Rest.ownerIn "a?b" body)) ∧
      site.Names { url with query := none } "a" ∧ ¬ site.Names url "a?b" := by
  -- The text behind the mark becomes a query, and the path ends in front of it.
  have haddress : Site.address ⟨Site.tracker [""] none⟩ (Rest.root ++ "/logged-models/" ++ "a?b") =
      .ok (Site.tracker ["api", "2.0", "mlflow", "logged-models", "a"] (some "b")) :=
    Site.address_eq_ok (by decide +kernel)
  refine ⟨⟨Site.tracker [""] none⟩, Site.tracker ["api", "2.0", "mlflow", "logged-models", "a"]
    (some "b"), by rfl, by decide, ?_, ⟨rfl, rfl, "a".toList, by decide, by decide⟩, ?_⟩
  · intro transport
    rw [Rest.loggedModelExperiment, Rest.get, haddress]
    rfl
  · intro hnames
    cases hnames.query

end Gateway

end Gatehouse
