import Gatehouse.Proofs.Action
import Gatehouse.Proofs.Tracker.Memory
import Gatehouse.Proofs.Tracker.Search

/-!
# Searches over a served tracker

A tracker can be put behind a server: the server reads the query and the cursor of a search from
the request, as the gateway would, asks the tracker, and answers the page as a document, or the
error. A tracker over the network in front of that server then gives the pages of the tracker
behind it. The failures are the same too, as far as a response tells them.

## Main definitions

* `Page.StandsIn`, `Page.document`: A document that holds a page, and the one that it is answered
  with.
* `Error.reported`: What is left of an error when it has been answered.
* `Tracker.served`: A tracker behind a server.
* `SearchKind.Faithful`: Searches over the network are those of the client and of the server.

## Theorems

* `Rest.pageOf_eq`: A page is read from any document that holds it.
* `Transport.exec_ask_ok`, `Transport.exec_ask_error`: What is read from a reply.
* `Transport.complaint_response`: An answered error is read as what is left of it.
* `SearchKind.exec_served`: A search over a served tracker.
* `SearchKind.faithful`: Searches of all kinds are faithful.
-/

namespace Gatehouse

open Gatehouse.Action Text

namespace Page

/-- A document holds a page: its rows under their name, and the next cursor if there is one; where
there is none, no text stands for it but the empty one. -/
structure StandsIn (page : Page) (field : String) (body : Json) : Prop where
  items : body.get? field = some (.array page.items)
  next : match page.next with
    | some token => body.get? "next_page_token" = some (.string token)
    | none => ∀ token, body.get? "next_page_token" = some (.string token) → token = ""

/-- The document that a page is answered with. -/
def document (page : Page) (field : String) : Json :=
  .ofPresent [(field, some (.array page.items)), ("next_page_token", page.next.map .string)]

/-- The rows of a page are read back from a document, and its next cursor is not empty. -/
structure IsPlain (page : Page) : Prop where
  items : ∀ row ∈ page.items, row.Rereads 125
  next : page.next ≠ some ""

theorem document_eq (page : Page) (field : String) : page.document field =
    .ofMembers ((field, .array page.items) ::
      page.next.toList.map fun token => ("next_page_token", .string token)) := by
  rw [document]
  cases page.next <;> rfl

theorem standsIn_document (page : Page) {field : String} (hfield : field ≠ "next_page_token") :
    page.StandsIn field (page.document field) := by
  have hdistinct : ((field, Json.array page.items) ::
      page.next.toList.map fun token => ("next_page_token", Json.string token)).Pairwise
        fun a b => a.1 ≠ b.1 := by
    cases page.next <;> simp [hfield]
  have hget (name : String) := Json.get?_ofMembers hdistinct name
  rw [← document_eq] at hget
  refine ⟨?_, ?_⟩
  · rw [hget, Json.lookup, if_pos rfl]
  · rw [hget, Json.lookup, if_neg hfield.symm]
    cases page.next with
    | none =>
        intro token h
        cases h
    | some token => rfl

theorem IsPlain.rereads {page : Page} (h : page.IsPlain) (field : String) :
    (page.document field).Rereads Json.maxDepth := by
  rw [document_eq]
  refine Json.Rereads.ofMembers 126 ?_
  intro m hm
  rcases List.mem_cons.1 hm with rfl | hin
  · exact .array h.items
  · rcases List.mem_map.1 hin with ⟨token, -, rfl⟩
    exact .string token

end Page

/-- A page is read from any document that holds it. -/
theorem Rest.pageOf_eq {page : Page} {field : String} {body : Json} (h : page.StandsIn field body)
    (hnext : page.next ≠ some "") : pageOf field body = page := by
  obtain ⟨items, next⟩ := page
  have hitems := h.items
  have htoken := h.next
  -- An empty token counts as none, which is why a page must not have it.
  have hread : ((body.get? "next_page_token").bind Json.string?).filter (!·.isEmpty) = next := by
    cases next with
    | none =>
        rw [Option.filter_eq_none_iff]
        intro token hbind
        rcases Option.bind_eq_some_iff.1 hbind with ⟨value, hvalue, hstring⟩
        cases value with
        | string text =>
            obtain rfl := Option.some.inj hstring
            rw [htoken text hvalue]
            decide
        | _ => exact nomatch hstring
    | some token =>
        rw [htoken, Option.bind_some, Json.string?, Params.filter_filled hnext]
  rw [pageOf, hitems, hread]
  rfl

namespace Error

/-- What is left of an error when it has been answered: whether something is absent, and the
wording unless the answer is a page for people. -/
def reported : Error → Error
  | unauthenticated => .fault (.trackerStatus 401)
  | forbidden => .fault (.trackerStatus 403)
  | absent cause => .absent (.reported cause.message)
  | e => .fault (.reported e.message)

/-- The document that most errors are answered with. -/
def told (e : Error) : Json :=
  .ofMembers [("error_code", .string e.wireCode), ("message", .string e.message)]

theorem rereads_told (e : Error) : e.told.Rereads Json.maxDepth := by
  refine Json.Rereads.ofMembers 126 ?_
  simp only [List.forall_mem_cons, List.not_mem_nil, false_implies, implies_true, and_true]
  exact ⟨.string _, .string _⟩

theorem message_told (e : Error) : e.told.get? "message" = some (.string e.message) :=
  Json.get?_ofMembers (by simp) "message"

theorem response_eq {e : Error} (hchallenge : e ≠ unauthenticated) (hrefusal : e ≠ forbidden) :
    e.response = .ofJson e.status e.told := by
  cases e with
  | unauthenticated => exact absurd rfl hchallenge
  | forbidden => exact absurd rfl hrefusal
  | _ => rfl

/-- An error is answered as a failure. -/
theorem not_success (e : Error) : ¬ (200 ≤ e.response.status ∧ e.response.status < 300) := by
  rw [response_status]
  cases e <;> simp [status]

end Error

namespace Transport

variable {σ : Type}

theorem exec_send {transport : Transport σ} {outgoing : Outgoing} {reply : Http.Response}
    {s s' : σ} (h : (transport outgoing).run s = (some reply, s')) :
    exec (transport.send outgoing) s = (.ok reply, s') := by
  have hlift : exec (liftM (transport outgoing) : Action σ (Option Http.Response)) s =
      (.ok (some reply), s') := by
    rw [exec_lift, h]
  rw [send, exec_bind_ok hlift]
  rfl

/-- The document in a reply is read where the reply is a success. -/
theorem exec_ask_ok {transport : Transport σ} {outgoing : Outgoing} {reply : Http.Response}
    {s s' : σ} {body : Json} (h : (transport outgoing).run s = (some reply, s'))
    (hstatus : 200 ≤ reply.status ∧ reply.status < 300)
    (hbody : Json.ofBytes? reply.body = some body) :
    exec (transport.ask outgoing) s = (.ok body, s') := by
  rw [ask, exec_bind_ok (exec_send h), if_pos (by simpa using hstatus), hbody]
  rfl

/-- Any other reply is read as a complaint. -/
theorem exec_ask_error {transport : Transport σ} {outgoing : Outgoing} {reply : Http.Response}
    {s s' : σ} (h : (transport outgoing).run s = (some reply, s'))
    (hstatus : ¬ (200 ≤ reply.status ∧ reply.status < 300)) :
    exec (transport.ask outgoing) s =
      (.error (complaint reply.status ((Json.ofBytes? reply.body).getD .null)), s') := by
  rw [ask, exec_bind_ok (exec_send h), if_neg (by simpa using hstatus)]
  rfl

/-- An answered error is read as what is left of it. -/
theorem complaint_response (e : Error) :
    complaint e.response.status ((Json.ofBytes? e.response.body).getD .null) = e.reported := by
  -- The two answers for people are no documents.
  have hpeople {body : Bytes} (h : (Json.ofBytes? body).isNone = true) :
      Json.ofBytes? body = none := Option.isNone_iff_eq_none.1 h
  by_cases hchallenge : e = .unauthenticated
  · rw [hchallenge, Error.response, hpeople (by decide +kernel)]
    rfl
  · by_cases hrefusal : e = .forbidden
    · rw [hrefusal, Error.response, hpeople (by decide +kernel)]
      rfl
    · rw [Error.response_eq hchallenge hrefusal, Http.Response.ofJson,
        e.rereads_told.ofBytes?_bytes, Option.getD_some, complaint, e.message_told]
      cases e with
      | unauthenticated => exact absurd rfl hchallenge
      | forbidden => exact absurd rfl hrefusal
      | _ => rfl

end Transport

namespace SearchKind

variable {σ Query : Type}

/-- Whether a request is for a search of a kind. -/
def isAsked (kind : SearchKind Query) (site : Site) (outgoing : Outgoing) : Bool :=
  outgoing.method = kind.method && site.below? outgoing.url = some kind.segments

/-- The answer to a search, or the error that stopped it. -/
def answer (kind : SearchKind Query) (tracker : Tracker σ) (outgoing : Outgoing) :
    Action σ Http.Response := do
  let params ← Action.of outgoing.params
  let query ← Action.of (kind.ofParams params)
  (fun page => .ofJson 200 (page.document kind.field)) <$>
    kind.call tracker query (params.get? "page_token")

end SearchKind

namespace Tracker

open SearchKind

variable {σ Query : Type}

/-- The answer to a request, or the error that stopped it. Nothing but searches is served. -/
def answer (tracker : Tracker σ) (site : Site) (outgoing : Outgoing) : Action σ Http.Response :=
  if experiments.isAsked site outgoing then experiments.answer tracker outgoing
  else if models.isAsked site outgoing then models.answer tracker outgoing
  else if loggedModels.isAsked site outgoing then loggedModels.answer tracker outgoing
  else pure ⟨404, [], []⟩

/-- A tracker behind a server at a site. -/
def served (tracker : Tracker σ) (site : Site) : Transport σ := fun outgoing => do
  match ← (tracker.answer site outgoing).run with
  | .ok response => pure (some response)
  | .error e => pure (some e.response)

theorem run_served_ok {tracker : Tracker σ} {site : Site} {outgoing : Outgoing}
    {response : Http.Response} {s s' : σ}
    (h : exec (tracker.answer site outgoing) s = (.ok response, s')) :
    (tracker.served site outgoing).run s = (some response, s') := by
  have hexec : ((tracker.answer site outgoing).run.run s : Id _) = (.ok response, s') := h
  rw [served, StateT.run_bind, hexec]
  rfl

theorem run_served_error {tracker : Tracker σ} {site : Site} {outgoing : Outgoing} {e : Error}
    {s s' : σ} (h : exec (tracker.answer site outgoing) s = (.error e, s')) :
    (tracker.served site outgoing).run s = (some e.response, s') := by
  have hexec : ((tracker.answer site outgoing).run.run s : Id _) = (.error e, s') := h
  rw [served, StateT.run_bind, hexec]
  rfl

end Tracker

namespace SearchKind

variable {σ Query : Type} {kind : SearchKind Query} {tracker : Tracker σ} {site : Site}
  {query : Query} {token : Option String} {outgoing : Outgoing}

theorem Carries.isAsked (h : kind.Carries site query token outgoing) :
    kind.isAsked site outgoing = true := by
  rw [SearchKind.isAsked, h.method, h.place, decide_eq_true rfl, decide_eq_true rfl]
  rfl

theorem Carries.not_isAsked {Other : Type} {other : SearchKind Other}
    (h : kind.Carries site query token outgoing) (hne : kind.segments ≠ other.segments) :
    ¬ other.isAsked site outgoing = true := by
  rw [SearchKind.isAsked, h.place, Bool.and_eq_true, decide_eq_true_eq, decide_eq_true_eq]
  exact fun hasked => hne (Option.some.inj hasked.2)

/-- A search over a served tracker gives what the tracker gives. -/
theorem exec_served (h : kind.Carries site query token outgoing)
    (hserved : tracker.answer site outgoing = kind.answer tracker outgoing)
    (hfield : kind.field ≠ "next_page_token") (s : σ)
    (hplain : ∀ page, (exec (kind.call tracker query token) s).1 = .ok page → page.IsPlain) :
    exec (Rest.pageOf kind.field <$> (tracker.served site).ask outgoing) s =
      ((exec (kind.call tracker query token) s).1.mapError Error.reported,
        (exec (kind.call tracker query token) s).2) := by
  -- The request is read back as the query and the token that it was made for.
  rcases h.read with ⟨sent, hsent, hquery, htoken⟩
  have hanswer : exec (tracker.answer site outgoing) s =
      ((exec (kind.call tracker query token) s).1.map fun page =>
          Http.Response.ofJson 200 (page.document kind.field),
        (exec (kind.call tracker query token) s).2) := by
    rw [hserved, answer, exec_bind_of_ok hsent, exec_bind_of_ok hquery, exec_map, htoken]
  rcases hcall : exec (kind.call tracker query token) s with ⟨e | page, s'⟩
  · rw [hcall] at hanswer
    rw [exec_map, Transport.exec_ask_error (Tracker.run_served_error hanswer) e.not_success,
      Transport.complaint_response]
    rfl
  · rw [hcall] at hanswer hplain
    have hpage := hplain page rfl
    -- The document of a page is read back from its bytes.
    have hbody : Json.ofBytes? (page.document kind.field).bytes = some (page.document kind.field) :=
      (hpage.rereads kind.field).ofBytes?_bytes
    have hsuccess : 200 ≤ 200 ∧ 200 < 300 := by decide
    rw [exec_map, Transport.exec_ask_ok (Tracker.run_served_ok hanswer) hsuccess hbody]
    dsimp only [Except.map]
    rw [Rest.pageOf_eq (page.standsIn_document hfield) hpage.next]
    rfl

end SearchKind

namespace Inventory

theorem rereads_experimentRow (experiment : String × String) :
    (experimentRow experiment).Rereads 125 := by
  refine Json.Rereads.ofMembers 124 ?_
  simp only [List.forall_mem_cons, List.not_mem_nil, false_implies, implies_true, and_true]
  exact ⟨.string _, .string _⟩

theorem rereads_modelRow (name : String) : (modelRow name).Rereads 125 := by
  refine Json.Rereads.ofMembers 124 ?_
  simp only [List.forall_mem_cons, List.not_mem_nil, false_implies, implies_true, and_true]
  exact .string _

theorem rereads_loggedModelRow (model : String × String) :
    (loggedModelRow model).Rereads 125 := by
  refine Json.Rereads.ofMembers 124 ?_
  simp only [List.forall_mem_cons, List.not_mem_nil, false_implies, implies_true, and_true]
  refine Json.Rereads.ofMembers 123 ?_
  simp only [List.forall_mem_cons, List.not_mem_nil, false_implies, implies_true, and_true]
  exact ⟨.string _, .string _, .string _⟩

/-- The rows of a page are among all rows, and its cursor is written. -/
theorem isPlain_page {rows : List Json} (hrows : ∀ row ∈ rows, row.Rereads 125)
    {cursor : UInt64 → String} (hcursor : ∀ n, (cursor n).isEmpty = false) (offset limit : UInt64) :
    (page rows offset limit cursor).IsPlain := by
  refine ⟨?_, ?_⟩
  · intro row hrow
    exact hrows row (List.mem_of_mem_drop (List.mem_of_mem_take hrow))
  · intro hnext
    rw [page] at hnext
    dsimp only at hnext
    split at hnext
    · -- A cursor that is written is never the empty text.
      have hempty := hcursor (offset + UInt64.ofNat (window rows offset limit).1.length)
      rw [Option.some.inj hnext] at hempty
      exact Bool.noConfusion hempty
    · cases hnext

theorem isPlain_offsetPage {rows : List Json} (hrows : ∀ row ∈ rows, row.Rereads 125)
    {limit : UInt64} {token : Option String} {found : Page}
    (h : offsetPage rows limit token = .ok found) : found.IsPlain := by
  rcases Error.map_eq_ok_iff.1 h with ⟨offset, -, rfl⟩
  exact isPlain_page hrows (fun n => OffsetCursor.isEmpty_encode ⟨n⟩) offset limit

end Inventory

namespace SearchKind

open Inventory

variable {Query : Type}

/-- Searches of a kind over the network at a site are those of the client and of the server. -/
structure Faithful (kind : SearchKind Query) (site : Site) : Prop where
  /-- A search for what a client has asked is one request, from which the gateway would read the
  same query and the same cursor. -/
  asks : ∀ params query token, kind.ofParams params = .ok query → kind.IsSent site query token
  /-- A page is read from every document that it stands in. -/
  reads : ∀ page body, page.next ≠ some "" → page.StandsIn kind.field body →
    Rest.pageOf kind.field body = page
  /-- Over a memory that is served, a search gives what it gives on the memory. -/
  serves : ∀ params query token memory, kind.ofParams params = .ok query →
    exec (kind.call (Rest.tracker site (Memory.tracker.served site)) query token) memory =
      ((exec (kind.call Memory.tracker query token) memory).1.mapError Error.reported,
        (exec (kind.call Memory.tracker query token) memory).2)

variable {kind : SearchKind Query} {site : Site}

theorem faithful_of_isSent
    (hsent : ∀ params query token, kind.ofParams params = .ok query → kind.IsSent site query token)
    (hserved : ∀ {query token outgoing}, kind.Carries site query token outgoing →
      Memory.tracker.answer site outgoing = kind.answer Memory.tracker outgoing)
    (hfield : kind.field ≠ "next_page_token")
    (hplain : ∀ query token memory page,
      (exec (kind.call Memory.tracker query token) memory).1 = .ok page → page.IsPlain) :
    kind.Faithful site := by
  refine ⟨hsent, fun page body hnext hstands => Rest.pageOf_eq hstands hnext, ?_⟩
  intro params query token memory hquery
  rcases hsent params query token hquery with ⟨outgoing, hcarries, hasks⟩
  rw [hasks]
  exact exec_served hcarries (hserved hcarries) hfield memory (hplain query token memory)

variable {text : String}

theorem faithful_experiments (hsite : Site.ofText text = .ok site)
    (hweb : Url.IsWeb site.base.scheme) (hquery : site.base.query = none)
    (hfragment : site.base.fragment = none) : experiments.Faithful site := by
  refine faithful_of_isSent ?_ ?_ (by decide) ?_
  · exact fun _ _ _ h => isSent_experiments hsite hweb hquery hfragment h
  · intro query token outgoing h
    rw [Tracker.answer, if_pos h.isAsked]
  · intro query token memory page hpage
    refine isPlain_offsetPage ?_ hpage
    intro row hrow
    rcases List.mem_map.1 hrow with ⟨experiment, -, rfl⟩
    exact rereads_experimentRow experiment

theorem faithful_models (hsite : Site.ofText text = .ok site) (hweb : Url.IsWeb site.base.scheme)
    (hquery : site.base.query = none) (hfragment : site.base.fragment = none) :
    models.Faithful site := by
  refine faithful_of_isSent ?_ ?_ (by decide) ?_
  · exact fun _ _ _ h => isSent_models hsite hweb hquery hfragment h
  · intro query token outgoing h
    rw [Tracker.answer, if_neg (h.not_isAsked (by decide)), if_pos h.isAsked]
  · intro query token memory page hpage
    refine isPlain_offsetPage ?_ hpage
    intro row hrow
    rcases List.mem_map.1 hrow with ⟨name, -, rfl⟩
    exact rereads_modelRow name

theorem faithful_loggedModels (hsite : Site.ofText text = .ok site)
    (hweb : Url.IsWeb site.base.scheme) (hquery : site.base.query = none)
    (hfragment : site.base.fragment = none) : loggedModels.Faithful site := by
  refine faithful_of_isSent ?_ ?_ (by decide) ?_
  · exact fun _ _ _ h => isSent_loggedModels hsite hweb hquery hfragment h
  · intro query token outgoing h
    rw [Tracker.answer, if_neg (h.not_isAsked (by decide)), if_neg (h.not_isAsked (by decide)),
      if_pos h.isAsked]
  · intro query token memory page hpage
    rcases Error.map_eq_ok_iff.1 hpage with ⟨offset, -, rfl⟩
    refine isPlain_page ?_ (fun n => ModelsCursor.isEmpty_encode _) offset query.limit
    intro row hrow
    rcases List.mem_map.1 hrow with ⟨model, -, rfl⟩
    exact rereads_loggedModelRow model

/-- Searches over the network ask for what the client has asked, and give what the server gives. A
base address with a query or a fragment of its own is no place for a server: whatever is put behind
it becomes part of these and not of the path. -/
theorem faithful (hsite : Site.ofText text = .ok site) (hweb : Url.IsWeb site.base.scheme)
    (hquery : site.base.query = none) (hfragment : site.base.fragment = none) :
    experiments.Faithful site ∧ models.Faithful site ∧ loggedModels.Faithful site :=
  ⟨faithful_experiments hsite hweb hquery hfragment, faithful_models hsite hweb hquery hfragment,
    faithful_loggedModels hsite hweb hquery hfragment⟩

/-- Searches at a host without a path are faithful. -/
theorem faithful_tracker : ∃ site, Site.ofText "http://tracker" = .ok site ∧
    Url.IsWeb site.base.scheme ∧ site.base.query = none ∧ site.base.fragment = none ∧
      experiments.Faithful site ∧ models.Faithful site ∧ loggedModels.Faithful site := by
  have hsite : Site.ofText "http://tracker" = .ok ⟨Site.tracker [""] none⟩ := by rfl
  exact ⟨_, hsite, .inl rfl, rfl, rfl, faithful hsite (.inl rfl) rfl rfl⟩

end SearchKind

end Gatehouse
