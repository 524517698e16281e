import Gatehouse.Proofs.Gateway.Management
import Gatehouse.Proofs.Ledger.Models

/-!
# Bookkeeping

Grants on a registered model are kept under its name, so they have to go when the model is deleted
and to move when it is renamed. By then the service behind the gateway has done its part, and what
is left to the gateway can fail: the body of the response may be no document, though the response
is a success, and a user may hold grants under both names of a model that was renamed. Then nothing
is done, and the grants stay under a name that whoever enters a model next may take.

## Main definitions

* `Operation.keepsBooks`: The operations whose success changes what is kept of a model.
* `Gateway.Flight`, `Gateway.Flight.land`: A request that has been answered behind the gateway, and
  what the gateway does about the answer.
* `Gateway.Accepted`: A request that is let through, with an answer that is no failure.

## Theorems

* `Route.forwarded_found`, `Route.books_found`: Such requests are not open, and not answered by the
  gateway itself.
* `Gateway.Flight.ledger_land_statement`: What a follow-up comes to that is one statement.
* `Gateway.Accepted.ledgerAfter_delete`, `Gateway.Accepted.ledgerAfter_rename`: The ledger after an
  accepted deletion, and after an accepted renaming.
* `Gateway.bookkeeping_iff`: Where the books are kept up.
-/

namespace Gatehouse

open Gatehouse.Action World Text

/-- Whether the success of an operation changes what is kept of a registered model. -/
def Operation.keepsBooks : Operation → Bool
  | createRegisteredModel | deleteRegisteredModel | renameRegisteredModel => true
  | _ => false

namespace Written

/-- An endpoint is found under its own path, which captures nothing and is none of the gateway's
own paths. -/
def isForwarded (table : List Written) (own : List (List Char)) (endpoint : Written) : Bool :=
  isRouted table endpoint && (splitOn '/' endpoint.path).all (Step.name? · = none) &&
    !own.contains endpoint.path

end Written

namespace Route

/-- The paths of what the gateway answers itself, as characters. -/
def ownPaths : List (List Char) := Local.healthPath.toList :: Management.all.map (·.path.toList)

theorem books_checked : (written.filter (·.operation.keepsBooks)).all
    (Written.isForwarded written ownPaths) = true := by
  unfold written writtenCalls trackingEndpoints apiRoots ownPaths Management.all Local.healthPath
  simp only [List.map_cons, List.map_nil, List.flatMap_cons, List.flatMap_nil, List.cons_append,
    List.nil_append, Management.path, Management.grantRoot, Management.root,
    String.toList_append, Management.operation, Management.method]
  repeat rw [String.toList_ofList]
  decide +kernel

/-- Such an endpoint is found under its own path, which decodes to itself. -/
theorem books_routed {endpoint : Written} (h : endpoint ∈ written)
    (hkept : endpoint.operation.keepsBooks = true) {method : Http.Method}
    (hmethod : method ∈ endpoint.methods) :
    find? (String.ofList endpoint.path) method = some ⟨endpoint.operation, []⟩ ∧
      Path.decode (String.ofList endpoint.path) = .ok (String.ofList endpoint.path) := by
  have hchecked := List.all_eq_true.1 books_checked endpoint (List.mem_filter.2 ⟨h, hkept⟩)
  simp only [Written.isForwarded, Written.isRouted, Bool.and_eq_true, Bool.not_eq_true',
    List.contains_eq_mem, decide_eq_false_iff_not, List.all_eq_true, decide_eq_true_eq]
    at hchecked
  -- That the endpoint is found, has no escapes and has no dots was checked by evaluation.
  rcases hchecked with ⟨⟨⟨⟨⟨hfound, hescape⟩, hdots⟩, -⟩, -⟩, -⟩
  constructor
  · rw [find?_eq, String.toList_ofList, hfound method hmethod]
    rfl
  · refine Path.decode_eq_self (by rwa [String.toList_ofList]) ?_
    rw [String.toList_ofList]
    intro piece hpiece
    have hboth := hdots piece hpiece
    simpa using hboth

/-- So is one that is written below one of the roots. -/
theorem books_routed_below {operation : Operation} {path root : String} {method : Http.Method}
    (h : (operation, path, [method]) ∈ trackingEndpoints) (hkept : operation.keepsBooks = true)
    (hroot : root ∈ apiRoots) : find? (root ++ path) method = some ⟨operation, []⟩ ∧
      Path.decode (root ++ path) = .ok (root ++ path) := by
  have hmem : (⟨operation, root.toList ++ path.toList, [method]⟩ : Written) ∈ written :=
    List.mem_append_left _ (List.mem_flatMap.2 ⟨_, h, List.mem_map.2 ⟨root, hroot, rfl⟩⟩)
  have hpath : String.ofList (root.toList ++ path.toList) = root ++ path := by
    rw [String.ofList_append, String.ofList_toList, String.ofList_toList]
  rw [← hpath]
  exact books_routed hmem hkept (List.mem_singleton.2 rfl)

/-- The pieces of a path are those of no other path. -/
theorem toList_eq_of_pieces {path : String} {text : List Char}
    (h : splitOn '/' path.toList = splitOn '/' text) : path.toList = text := by
  rw [← joinWith_splitOn '/' path.toList, h, joinWith_splitOn]

/-- Requests for operations all of whose endpoints are forwarded are not open, and the gateway does
not answer them itself. -/
theorem forwarded_found {p : Operation → Bool}
    (hchecked : (written.filter (p ·.operation)).all (Written.isForwarded written ownPaths) = true)
    {path : String} {method : Http.Method} {found : Found} (h : find? path method = some found)
    (hp : p found.operation = true) : Path.isOpen path = false ∧ path.toList ∉ ownPaths := by
  rw [find?_eq] at h
  rcases Option.map_eq_some_iff.1 h with ⟨pair, hpair, rfl⟩
  rcases List.exists_of_findSome?_eq_some hpair with ⟨endpoint, hendpoint, haccept⟩
  unfold Written.accept? at haccept
  split at haccept
  · rcases Option.map_eq_some_iff.1 haccept with ⟨captures, hmatch, rfl⟩
    have hforwarded := List.all_eq_true.1 hchecked endpoint
      (List.mem_filter.2 ⟨hendpoint, hp⟩)
    simp only [Written.isForwarded, Written.isRouted, Bool.and_eq_true, Bool.not_eq_true',
      List.contains_eq_mem, decide_eq_false_iff_not, List.all_eq_true, decide_eq_true_eq]
      at hforwarded
    rcases hforwarded with ⟨⟨⟨-, hopen⟩, hnames⟩, hown⟩
    -- Nothing is captured, so the path is that of the endpoint.
    rw [← List.append_nil (splitOn '/' endpoint.path)] at hmatch
    rcases Template.matchPieces_append hnames hmatch with ⟨rest, hsegments, hrest⟩
    have hpath : path.toList = endpoint.path := by
      refine toList_eq_of_pieces ?_
      cases rest with
      | nil => rw [hsegments, List.append_nil]
      | cons => cases hrest
    rw [← hpath] at hopen hown
    exact ⟨hopen, hown⟩
  · cases haccept

/-- Such are requests to enter, to delete or to rename a registered model. -/
theorem books_found {path : String} {method : Http.Method} {found : Found}
    (h : find? path method = some found) (hbooks : found.operation.keepsBooks = true) :
    Path.isOpen path = false ∧ path.toList ∉ ownPaths :=
  forwarded_found books_checked h hbooks

end Route

/-- What the gateway answers itself it answers under one of its own paths, which decodes to
itself. -/
theorem Local.ofPath?_eq_some {path : String} {own : Local} (h : ofPath? path = some own) :
    path.toList ∈ Route.ownPaths ∧ Path.decode path = .ok path := by
  unfold ofPath? at h
  split at h
  · next hhealth =>
    rw [hhealth]
    exact ⟨List.mem_cons_self, Path.decode_eq_self (by decide) (by decide)⟩
  · rcases Option.map_eq_some_iff.1 h with ⟨call, hcall, -⟩
    have hpath : call.path = path := by simpa using List.find?_some hcall
    rw [← hpath]
    exact ⟨List.mem_cons_of_mem _ (List.mem_map_of_mem call.mem_all), (Management.found call).1⟩

/-- A path that decodes to none of them is not its own. -/
theorem Local.ofPath?_eq_none {path decoded : String} (hdecoded : Path.decode path = .ok decoded)
    (hforeign : decoded.toList ∉ Route.ownPaths) : ofPath? path = none := by
  cases hown : ofPath? path with
  | none => rfl
  | some own =>
      rcases ofPath?_eq_some hown with ⟨hmem, hself⟩
      obtain rfl := Except.ok.inj (hself.symm.trans hdecoded)
      exact absurd hmem hforeign

namespace Followup

variable {σ : Type} {params : Params}

/-- Entering the creator of a model reads the name of the model in the response. -/
theorem ledger_grantModel {account : Account} {name : String} {body : Json}
    (hadmin : account.admin = false)
    (hname : newId? ["registered_model", "name"] body = some name) (tracker : Tracker σ)
    (default : Level) (params : Params) (world : World σ) :
    (exec (run tracker default .grantModel account params body) world).2.ledger =
      (Ledger.createGrant .model name account.username Level.manage.name).after world.ledger := by
  rw [run, grantCreator, if_neg (by rw [hadmin]; exact Bool.false_ne_true), hname]
  change (exec (do
    let _ ← onLedger _
    pure Outcome.unchanged : Action (World σ) Outcome) world).2.ledger = _
  rw [exec_bind_pure, ← ledger_onLedger]

/-- Dropping grants reads one name, and nothing else of the request or its response. -/
theorem ledger_dropModelGrants {name : String} (hname : params.get "name" = .ok name)
    (tracker : Tracker σ) (default : Level) (account : Account) (body : Json) (world : World σ) :
    (exec (run tracker default .dropModelGrants account params body) world).2.ledger =
      (Ledger.dropModelGrants name).after world.ledger := by
  rw [run, exec_bind_of_ok hname, exec_bind_pure, ← ledger_onLedger]

/-- Moving grants reads two names, and nothing else of the request or its response. -/
theorem ledger_renameModelGrants {old new : String} (hname : params.get "name" = .ok old)
    (hnew : params.get "new_name" = .ok new) (tracker : Tracker σ) (default : Level)
    (account : Account) (body : Json) (world : World σ) :
    (exec (run tracker default .renameModelGrants account params body) world).2.ledger =
      (Ledger.renameModelGrants old new).after world.ledger := by
  rw [run, exec_bind_of_ok hname, exec_bind_of_ok hnew, exec_bind_pure, ← ledger_onLedger]

end Followup

namespace Gateway

variable {σ : Type} {gateway : Gateway σ}

/-- A request in flight: the service behind the gateway has answered it, and what follows is still
to be done. -/
structure Flight where
  account : Account
  followup : Option Followup
  params : Params
  response : Http.Response

namespace Flight

/-- A request for an operation in flight. -/
def ofOperation (account : Account) (operation : Operation) (params : Params)
    (response : Http.Response) : Flight :=
  ⟨account, operation.followup?.filter (Followup.applies account), params, response⟩

/-- The world when what follows a request has been done. -/
def land (flight : Flight) (gateway : Gateway σ) (world : World σ) : World σ :=
  (exec (gateway.complete flight.followup flight.account flight.params flight.response) world).2

variable {flight : Flight} {followup : Followup}

/-- A failure has no follow-up, and neither has a success whose body is no document. -/
theorem ledger_land (hfollowup : flight.followup = some followup) (gateway : Gateway σ)
    (world : World σ) : (flight.land gateway world).ledger =
      if flight.response.isFailure then world.ledger
      else match Json.ofBytes? flight.response.body with
        | none => world.ledger
        | some body => (exec (followup.run gateway.tracker gateway.default flight.account
            flight.params body) world).2.ledger := by
  rw [land, hfollowup, complete]
  split
  · rfl
  · unfold follow
    cases hbody : Json.ofBytes? flight.response.body with
    | none => rfl
    | some body =>
        dsimp only
        -- Whatever the follow-up comes to, its ledger is the one that is left.
        rcases hrun : exec (followup.run gateway.tracker gateway.default flight.account
          flight.params body) world with ⟨e | outcome, left⟩
        · rw [exec_bind_error hrun]
        · rw [exec_bind_ok hrun]
          cases outcome <;> rfl

/-- A follow-up that is one statement on the ledger comes to that statement if the success has a
document, and to nothing otherwise. -/
theorem ledger_land_statement {α : Type} {statement : Statement α}
    (hfollowup : flight.followup = some followup) (hsuccess : flight.response.isFailure = false)
    {world : World σ} (hstatement : ∀ body, Json.ofBytes? flight.response.body = some body →
      (exec (followup.run gateway.tracker gateway.default flight.account flight.params body)
        world).2.ledger = statement.after world.ledger) :
    (flight.land gateway world).ledger = if (Json.ofBytes? flight.response.body).isSome then
      statement.after world.ledger else world.ledger := by
  rw [ledger_land hfollowup, hsuccess, if_neg Bool.false_ne_true]
  cases hbody : Json.ofBytes? flight.response.body with
  | none => rfl
  | some body => exact hstatement body hbody

end Flight

variable {request taken : Http.Request} {world : World σ} {path : String} {account : Account}
  {operation : Operation} {params : Params} {response : Http.Response} {left : σ}

/-- The ledger after a request. -/
def ledgerAfter (gateway : Gateway σ) (request : Http.Request) (world : World σ) : Ledger :=
  ((gateway.handle request).run world).2.ledger

/-- A request for an operation is let through with its parameters, and the service behind the
gateway gives a response to it that is not a failure. -/
structure Accepted (gateway : Gateway σ) (request taken : Http.Request) (world : World σ)
    (path : String) (account : Account) (operation : Operation) (params : Params)
    (response : Http.Response) (left : σ) : Prop where
  fits : gateway.bounded? request = some taken
  decoded : Path.decode taken.target.path = .ok path
  sender : gateway.sender taken.headers world.ledger = .ok (some account)
  found : (Route.find? path taken.method).map (·.operation) = some operation
  answered : ∃ middle,
    exec (gateway.screen account (caseOf account path taken.method) taken) world =
      (.ok params, middle) ∧ (gateway.service taken).run middle.remote = (response, left)
  succeeded : response.isFailure = false

namespace Accepted

/-- The gateway does not answer such a request itself. -/
theorem ownPath?
    (h : gateway.Accepted request taken world path account operation params response left)
    (hbooks : operation.keepsBooks = true) :
    Path.isOpen path = false ∧ Local.ofPath? taken.target.path = none := by
  rcases Option.map_eq_some_iff.1 h.found with ⟨found, hfound, rfl⟩
  rcases Route.books_found hfound hbooks with ⟨hguarded, hforeign⟩
  exact ⟨hguarded, Local.ofPath?_eq_none h.decoded hforeign⟩

/-- With nothing in between, the request is in flight when it has been let through, and lands. -/
theorem ledgerAfter_eq
    (h : gateway.Accepted request taken world path account operation params response left)
    (hbooks : operation.keepsBooks = true) : gateway.ledgerAfter request world =
      ((Flight.ofOperation account operation params response).land gateway
        ⟨world.ledger, left⟩).ledger := by
  rcases h.ownPath? hbooks with ⟨hguarded, hforeign⟩
  rcases h.answered with ⟨middle, hscreen, hservice⟩
  have hledger := gateway.untouched_screen account taken (caseOf account path taken.method) world
  rw [hscreen] at hledger
  change middle.ledger = world.ledger at hledger
  have hcase : (caseOf account path taken.method).followup =
      operation.followup?.filter (Followup.applies account) := by
    rcases Option.map_eq_some_iff.1 h.found with ⟨found, hfound, rfl⟩
    simp only [caseOf, hfound, Option.bind_some]
  have hanswer : (gateway.ledgerAfter request world) =
      (exec (gateway.authorize gateway.pass taken) world).2.ledger := by
    change ((gateway.receive gateway.pass request).run world).2.ledger = _
    rw [run_receive h.fits, settled_snd]
  rw [hanswer]
  -- Of the courses that a request can take it takes the one on which it is served.
  cases gateway.course taken world with
  | opened other hdecode hopen =>
      obtain rfl := Except.ok.inj (hdecode.symm.trans h.decoded)
      rw [hguarded] at hopen
      cases hopen
  | stopped e remote hnot =>
      exact absurd (grants_of_screen h.decoded h.sender hscreen) hnot
  | served other sender read remote hdecode hsender hread hrun =>
      obtain rfl := Except.ok.inj (hdecode.symm.trans h.decoded)
      obtain rfl := Option.some.inj (Except.ok.inj (hsender.symm.trans h.sender))
      obtain ⟨hparams, hmiddle⟩ := Prod.mk.inj (hread.symm.trans hscreen)
      obtain rfl := Except.ok.inj hparams
      obtain rfl := hmiddle
      have hpass : exec (liftM (gateway.pass taken) : Action (World σ) Http.Response)
          ⟨world.ledger, remote⟩ = (.ok response, ⟨world.ledger, left⟩) := by
        rw [exec_lift, pass, hforeign]
        change (Except.ok ((gateway.service taken).run remote).1,
          World.mk world.ledger ((gateway.service taken).run remote).2) = _
        rw [hservice]
      rw [hrun, exec_bind_ok hpass, hcase]
      rfl

/-- After an accepted deletion the grants are dropped if the response has a document, and nothing
is done otherwise. -/
theorem ledgerAfter_delete (h : gateway.Accepted request taken world path account
      .deleteRegisteredModel params response left)
    {name : String} (hname : params.get "name" = .ok name) :
    gateway.ledgerAfter request world = if (Json.ofBytes? response.body).isSome then
      (Ledger.dropModelGrants name).after world.ledger else world.ledger := by
  rw [h.ledgerAfter_eq rfl]
  exact Flight.ledger_land_statement rfl h.succeeded fun body _ =>
    Followup.ledger_dropModelGrants hname _ _ _ body _

/-- After an accepted renaming the grants are moved if the response has a document, and nothing is
done otherwise. -/
theorem ledgerAfter_rename (h : gateway.Accepted request taken world path account
      .renameRegisteredModel params response left)
    {old new : String} (hname : params.get "name" = .ok old)
    (hnew : params.get "new_name" = .ok new) :
    gateway.ledgerAfter request world = if (Json.ofBytes? response.body).isSome then
      (Ledger.renameModelGrants old new).after world.ledger else world.ledger := by
  rw [h.ledgerAfter_eq rfl]
  exact Flight.ledger_land_statement rfl h.succeeded fun body _ =>
    Followup.ledger_renameModelGrants hname hnew _ _ _ body _

end Accepted

/-- The books are kept up with an accepted deletion exactly where the response has a document, and
with an accepted renaming exactly where it has one and nobody holds grants under both names;
grants that are not there need no bookkeeping. Where the books are not kept up nothing is done to
them at all, so the grants stay under a name that is gone behind the gateway. -/
theorem bookkeeping_iff
    (h : gateway.Accepted request taken world path account operation params response left)
    (hunique : world.ledger.modelRows.Pairwise fun a b =>
      ¬ (a.key = b.key ∧ a.holder = b.holder)) :
    (operation = .deleteRegisteredModel → ∀ name, params.get "name" = .ok name →
      (Ledger.Dropped name world.ledger (gateway.ledgerAfter request world) ↔
        (Json.ofBytes? response.body).isSome = true ∨
          ∀ grant ∈ world.ledger.modelRows, grant.key ≠ name) ∧
      (Ledger.Dropped name world.ledger (gateway.ledgerAfter request world) ∨
        gateway.ledgerAfter request world = world.ledger)) ∧
    (operation = .renameRegisteredModel → ∀ old new, params.get "name" = .ok old →
      params.get "new_name" = .ok new → old ≠ new →
      (Ledger.Moved old new world.ledger (gateway.ledgerAfter request world) ↔
        ((Json.ofBytes? response.body).isSome = true ∧ ¬ world.ledger.Shared old new) ∨
          ∀ grant ∈ world.ledger.modelRows, grant.key ≠ old) ∧
      (Ledger.Moved old new world.ledger (gateway.ledgerAfter request world) ∨
        gateway.ledgerAfter request world = world.ledger)) := by
  constructor
  · rintro rfl name hname
    rw [h.ledgerAfter_delete hname]
    by_cases hbody : (Json.ofBytes? response.body).isSome = true
    · rw [if_pos hbody]
      have hdropped := Ledger.after_dropModelGrants name world.ledger
      exact ⟨⟨fun _ => .inl hbody, fun _ => hdropped⟩, .inl hdropped⟩
    · -- Nothing was done, so what holds now held before: there was nothing to drop.
      rw [if_neg hbody]
      refine ⟨⟨fun hdropped => .inr hdropped.gone, ?_⟩, .inr rfl⟩
      rintro (hsome | hnone)
      · exact absurd hsome hbody
      · exact .of_none hnone
  · rintro rfl old new hname hnew hne
    rw [h.ledgerAfter_rename hname hnew]
    rcases Ledger.after_renameModelGrants hne hunique with ⟨hshared, happart⟩
    by_cases hmoves : (Json.ofBytes? response.body).isSome = true ∧ ¬ world.ledger.Shared old new
    · rw [if_pos hmoves.1]
      have hmoved := happart hmoves.2
      exact ⟨⟨fun _ => .inl hmoves, fun _ => hmoved⟩, .inl hmoved⟩
    · -- Without a document nothing is done, and where names are shared the rename is refused.
      have hsame : (if (Json.ofBytes? response.body).isSome then
          (Ledger.renameModelGrants old new).after world.ledger else world.ledger) =
            world.ledger := by
        split
        · next hbody => exact hshared (not_not.1 fun hnone => hmoves ⟨hbody, hnone⟩)
        · rfl
      rw [hsame]
      refine ⟨⟨fun hmoved => .inr hmoved.gone, ?_⟩, .inr rfl⟩
      rintro (hboth | hnone)
      · exact absurd hboth hmoves
      · exact .of_none hnone

/-- The request of a user to delete a registered model. -/
def deletion (name : String) : Http.Request :=
  ⟨.delete, ⟨none, "", "/api/2.0/mlflow/registered-models/delete", some ("name=" ++ name)⟩,
    [("x-remote-user", "ada")], .whole []⟩

/-- A gateway before a service that accepts everything with one body. -/
def accepting (body : Bytes) : Gateway Memory :=
  { trusting with service := fun _ => pure ⟨200, [], body⟩ }

/-- A ledger with two users, one of whom manages a registered model. -/
def keeper : World Memory :=
  ⟨⟨some ⟨[⟨1, "ada", .password "secret", false⟩, ⟨2, "bob", .password "hidden", false⟩], 2⟩,
    some .empty, some ⟨[⟨1, "m", 1, "MANAGE"⟩], 1⟩⟩, .empty, 0⟩

theorem accepted_deletion (body : Bytes) : (accepting body).Accepted (deletion "m") (deletion "m")
    keeper "/api/2.0/mlflow/registered-models/delete" ⟨1, "ada", .password "secret", false⟩
    .deleteRegisteredModel ⟨[("name", .string "m")]⟩ ⟨200, [], body⟩ keeper.remote := by
  have hlisted : (.deleteRegisteredModel, "/mlflow/registered-models/delete", [.delete]) ∈
      Route.trackingEndpoints := by simp [Route.trackingEndpoints]
  have hrooted : "/api/2.0" ∈ Route.apiRoots := List.mem_cons_self
  rcases Route.books_routed_below hlisted rfl hrooted with ⟨hfound, hdecoded⟩
  rw [show "/api/2.0" ++ "/mlflow/registered-models/delete" =
    "/api/2.0/mlflow/registered-models/delete" from rfl] at hfound hdecoded
  refine ⟨rfl, hdecoded, rfl, ?_, ⟨keeper, ?_, rfl⟩, rfl⟩
  · rw [show (deletion "m").method = .delete from rfl, hfound]
    rfl
  · have hcase : caseOf ⟨1, "ada", .password "secret", false⟩
        "/api/2.0/mlflow/registered-models/delete" (deletion "m").method =
        ⟨some ⟨.deleteRegisteredModel, []⟩, some .dropModelGrants,
          some (.capability .modelName .delete)⟩ := by
      simp only [caseOf, checkOf?, show (deletion "m").method = .delete from rfl, hfound]
      rfl
    rw [hcase]
    rfl

/-- With an answer that is a document the grant on the model goes with it. -/
theorem bookkeeping_iff_deletion :
    (accepting (utf8 "\x7b\x7d")).Accepted (deletion "m") (deletion "m") keeper
        "/api/2.0/mlflow/registered-models/delete" ⟨1, "ada", .password "secret", false⟩
        .deleteRegisteredModel ⟨[("name", .string "m")]⟩ ⟨200, [], utf8 "\x7b\x7d"⟩ keeper.remote ∧
      (keeper.ledger.modelRows.Pairwise fun a b => ¬ (a.key = b.key ∧ a.holder = b.holder)) ∧
      Ledger.Dropped "m" keeper.ledger
        ((accepting (utf8 "\x7b\x7d")).ledgerAfter (deletion "m") keeper) := by
  have haccepted := accepted_deletion (utf8 "\x7b\x7d")
  have hunique : keeper.ledger.modelRows.Pairwise fun a b =>
      ¬ (a.key = b.key ∧ a.holder = b.holder) := List.pairwise_singleton _ _
  have hbody : (Json.ofBytes? (utf8 "\x7b\x7d")).isSome = true := by decide +kernel
  exact ⟨haccepted, hunique,
    ((bookkeeping_iff haccepted hunique).1 rfl "m" rfl).1.2 (.inl hbody)⟩

/-- With a success in plain text the model is gone, and the grant stays for whoever enters a model
of that name. -/
theorem bookkeeping_missed :
    (accepting (utf8 "OK")).Accepted (deletion "m") (deletion "m") keeper
        "/api/2.0/mlflow/registered-models/delete" ⟨1, "ada", .password "secret", false⟩
        .deleteRegisteredModel ⟨[("name", .string "m")]⟩ ⟨200, [], utf8 "OK"⟩ keeper.remote ∧
      (⟨[("name", .string "m")]⟩ : Params).get "name" = .ok "m" ∧
      ⟨1, "m", 1, "MANAGE"⟩ ∈
        ((accepting (utf8 "OK")).ledgerAfter (deletion "m") keeper).modelRows ∧
      ¬ Ledger.Dropped "m" keeper.ledger
        ((accepting (utf8 "OK")).ledgerAfter (deletion "m") keeper) := by
  have haccepted := accepted_deletion (utf8 "OK")
  have hbody : (Json.ofBytes? (utf8 "OK")).isSome = false := by decide +kernel
  have hafter : (accepting (utf8 "OK")).ledgerAfter (deletion "m") keeper = keeper.ledger := by
    rw [haccepted.ledgerAfter_delete rfl, hbody]
    rfl
  have hstays : ⟨1, "m", 1, "MANAGE"⟩ ∈ keeper.ledger.modelRows := List.mem_singleton.2 rfl
  rw [hafter]
  exact ⟨haccepted, rfl, hstays, fun hdropped => hdropped.gone _ hstays rfl⟩

end Gateway

end Gatehouse
