import Gatehouse.Proofs.Narrowing.Disclosure
import Gatehouse.Proofs.Narrowing.Visits
import Gatehouse.Tracker.Memory

/-!
# Walks along logged models

The refill of logged models goes on by as many rows as were asked for when a page did not
fill the room, whatever the page brought. A client that walks along narrowed pages therefore
gets every readable row if no page but the last is short, and in general all but those that
lie between the end of a short page and where the next search starts.

## Main definitions

* `Narrowing.modelsOffsetText`: The cursor of an offset for a query.
* `Narrowing.Place.ModelsAt`: A place that stands for an offset.
* `Narrowing.Full`, `Narrowing.Overflows`: A page that is as long as asked for, or the last
  one; and a short page behind which there is no offset to go on from.
* `Narrowing.Fares`, `Narrowing.Travels`: What comes of a refill and of its visits.
* `Narrowing.WalkFares`: The same for a walk.

## Theorems

* `Narrowing.refillModels_visits`: What a refill visits, keeps and skips.
* `Narrowing.loggedModels_visits`, `Narrowing.walk_visits`: The same for a page of a walk and
  for a whole walk.
* `Narrowing.walk_records`: Writing the searches down changes nothing.
-/

namespace Gatehouse

namespace Narrowing

open Gatehouse.Action

/-- The cursor of an offset for a query. -/
def modelsOffsetText (query : LoggedModelQuery) (offset : Nat) : String :=
  modelsText query (UInt64.ofNat offset)

theorem isEmpty_modelsOffsetText (query : LoggedModelQuery) (offset : Nat) :
    (modelsOffsetText query offset).isEmpty = false :=
  ModelsCursor.isEmpty_encode _

/-- A place that stands for an offset of a query. -/
structure Place.ModelsAt (place : Place) (query : LoggedModelQuery) (offset : Nat) : Prop where
  text_eq : place.modelsText query = modelsOffsetText query offset
  offset_eq : place.modelsOffset = .ok (UInt64.ofNat offset)

theorem Place.modelsAt_given (query : LoggedModelQuery) (offset : Nat) :
    (given (modelsOffsetText query offset)).ModelsAt query offset where
  text_eq := rfl
  offset_eq := by
    rw [Place.modelsOffset, modelsOffsetText, Narrowing.modelsText,
      ModelsCursor.decode_encode]
    rfl

theorem Place.modelsAt_known (query : LoggedModelQuery) (offset : Nat) :
    (known (UInt64.ofNat offset)).ModelsAt query offset := ⟨rfl, rfl⟩

theorem further_ok {start moved : Nat} (h : start + moved < UInt64.size) :
    further (UInt64.ofNat start) moved = .ok (.known (UInt64.ofNat (start + moved))) := by
  have hword : (UInt64.ofNat start).toNat = start :=
    UInt64.toNat_ofNat_of_lt' (Nat.lt_of_le_of_lt (Nat.le_add_right start moved) h)
  rw [further, hword, if_pos h]

theorem further_error {start moved : Nat} (hstart : start < UInt64.size)
    (h : ¬ start + moved < UInt64.size) :
    further (UInt64.ofNat start) moved = .error (.fault .offset) := by
  have hword : (UInt64.ofNat start).toNat = start := UInt64.toNat_ofNat_of_lt' hstart
  rw [further, hword, if_neg h]

/-- A visit that brought as many rows as were asked for, or the last ones. -/
def Full (limit : Nat) (all : List Json) (visit : Nat × Nat) : Prop :=
  visit.1 + visit.2 < all.length → visit.2 = limit

/-- A visit of a short page behind which there is no offset to go on from. -/
def Overflows (limit : Nat) (all : List Json) (visit : Nat × Nat) : Prop :=
  visit.2 < limit ∧ visit.1 + visit.2 < all.length ∧ UInt64.size ≤ visit.1 + limit

/-- What a refill comes to from an offset on, with the end of the visit before it and the
visits that it makes. -/
inductive Fares (query : LoggedModelQuery) (readable : Json → Bool) (all : List Json)
    (stop start : Nat) (rows : List Json) (visits : List (Nat × Nat)) :
    Except Error (List Json × Option String) → Prop
  /-- It is full, and its cursor is inside the last page or behind it. -/
  | more {kept : List Json} {goal : Nat}
      (haccounts : Accounts readable all (min stop start) kept
        (skipped readable all stop visits) goal)
      (hforward : start ≤ goal) (hmoved : visits ≠ [] → start < goal)
      (hinside : goal ≤ ends stop visits) (hfits : goal ≤ all.length) :
      Fares query readable all stop start rows visits
        (.ok (rows ++ kept, some (modelsOffsetText query goal)))
  /-- It has come to the end of the rows. -/
  | done {kept : List Json} {goal : Nat}
      (haccounts : Accounts readable all (min stop start) kept
        (skipped readable all stop visits) goal) (hend : all.length ≤ goal) :
      Fares query readable all stop start rows visits (.ok (rows ++ kept, none))
  /-- It would have to go on behind the last offset. -/
  | failed {visit : Nat × Nat} (hmem : visit ∈ visits)
      (hover : Overflows query.limit.toNat all visit) :
      Fares query readable all stop start rows visits (.error (.fault .offset))

/-- One more visit in front of a refill that goes on at its end or behind it. -/
theorem Fares.cons {query : LoggedModelQuery} {readable : Json → Bool} {all rows : List Json}
    {stop start count next : Nat} {visits : List (Nat × Nat)}
    {outcome : Except Error (List Json × Option String)} (hcount : 0 < count)
    (hnext : start + count ≤ next)
    (h : Fares query readable all (start + count) next
      (rows ++ ((all.drop start).take count).filter readable) visits outcome) :
    Fares query readable all stop start rows ((start, count) :: visits) outcome := by
  -- The visit keeps the readable rows that it brought, and those in front of it are lost.
  have hvisit := Accounts.visit readable all stop start count count
  have hskipped := skipped_cons readable all visits stop start count
  cases h with
  | more haccounts hforward _ hinside hfits =>
      rw [Nat.min_eq_left hnext] at haccounts
      rw [List.append_assoc]
      refine .more ?_ (by omega) (fun _ => by omega) hinside hfits
      rw [hskipped]
      exact hvisit.trans haccounts
  | done haccounts hend =>
      rw [Nat.min_eq_left hnext] at haccounts
      rw [List.append_assoc]
      refine .done ?_ hend
      rw [hskipped]
      exact hvisit.trans haccounts
  | failed hmem hover => exact .failed (List.mem_cons_of_mem _ hmem) hover

variable {σ : Type} {tracker : Tracker σ} {query : LoggedModelQuery} {all : List Json}
  {holds : σ → Prop}

theorem Honours.serves_recorded
    (h : Honours (tracker.searchLoggedModels query) (modelsOffsetText query)
      query.limit.toNat all holds) {s : σ} (hs : holds s) (log : List Searched)
    {token : Option String} {offset : Nat} (hoffset : offset < UInt64.size)
    (hat : CursorAt (modelsOffsetText query) token offset) : ∃ page s',
      exec (tracker.recorded.searchLoggedModels query token) (s, log) =
        (.ok page, (s', log ++ [(token, .ok page)])) ∧ holds s' ∧
      Serves (modelsOffsetText query) query.limit.toNat all offset page := by
  obtain ⟨page, s', hf, hs', hserves⟩ := h.serves s token offset hs hoffset hat
  exact ⟨page, s', exec_recorded hf log, hs', hserves⟩

/-- What a run of a refill comes to that starts at an offset, from the end of the visit before
it: its searches are visits, and where these are full they are joined. -/
def Travels {σ : Type} (query : LoggedModelQuery) (readable : Json → Bool) (all : List Json)
    (holds : σ → Prop) (stop start : Nat) (rows : List Json) (log : List Searched)
    (run : Except Error (List Json × Option String) × (σ × List Searched)) : Prop :=
  ∃ outcome s' searches visits, run = (outcome, (s', log ++ searches)) ∧ holds s' ∧
    Visited (modelsOffsetText query) searches visits ∧
    Fares query readable all stop start rows visits outcome ∧
    (start ≤ stop → (∀ visit ∈ visits, Full query.limit.toNat all visit) → Joined stop visits)

namespace Travels

variable {readable : Json → Bool} {stop start : Nat} {rows : List Json} {log : List Searched}
  {page : Page} {token : Option String} {s' : σ}

/-- A refill that ends with one visit. -/
theorem ended {outcome : Except Error (List Json × Option String)}
    (hat : CursorAt (modelsOffsetText query) token start) (hs : holds s')
    (h : Fares query readable all stop start rows [(start, page.items.length)] outcome) :
    Travels query readable all holds stop start rows log
      (outcome, (s', log ++ [(token, .ok page)])) :=
  ⟨_, _, _, _, rfl, hs, .cons hat .nil, h, fun hle _ => ⟨hle, trivial⟩⟩

/-- A refill that goes on after a visit. A full page ends where the next search starts. -/
theorem goes_on {count next : Nat}
    {run : Except Error (List Json × Option String) × (σ × List Searched)}
    (hat : CursorAt (modelsOffsetText query) token start) (hpos : 0 < count)
    (hcount : page.items.length = count) (hnext : start + count ≤ next)
    (hfull : Full query.limit.toNat all (start, count) → next ≤ start + count)
    (h : Travels query readable all holds (start + count) next
      (rows ++ ((all.drop start).take count).filter readable) (log ++ [(token, .ok page)]) run) :
    Travels query readable all holds stop start rows log run := by
  obtain ⟨outcome, s', searches, visits, hrun, hs', hvisited, hfares, hjoined⟩ := h
  subst hcount
  refine ⟨outcome, s', _, _, hrun.trans ?_, hs', .cons hat hvisited, hfares.cons hpos hnext,
    fun hle hall => ⟨hle, ?_⟩⟩
  · rw [List.append_assoc]
    rfl
  · exact hjoined (hfull (hall _ List.mem_cons_self)) fun visit hmem =>
      hall visit (List.mem_cons_of_mem _ hmem)

end Travels

theorem refillModels_visits (readable : Json → Bool)
    (h : Honours (tracker.searchLoggedModels query) (modelsOffsetText query)
      query.limit.toNat all holds) {place : Place} {start : Nat} (stop : Nat)
    (hat : place.ModelsAt query start) (hstart : start < UInt64.size) (rows : List Json)
    (hopen : rows.length < query.limit.toNat ∨ start ≤ stop ∧ start ≤ all.length) {s : σ}
    (hs : holds s) (log : List Searched) :
    Travels query readable all holds stop start rows log
      (exec (refillModels tracker.recorded query readable rows place) (s, log)) := by
  -- Every search starts further on, so the rows that are left get fewer.
  induction hn : all.length - start using Nat.strongRecOn
    generalizing place start stop rows s log with
  | _ n ih =>
    have hcursor : CursorAt (modelsOffsetText query) (some (place.modelsText query)) start :=
      .inr (congrArg some hat.text_eq)
    by_cases hroom : rows.length < query.limit.toNat
    · obtain ⟨page, s', hf, hs', hserves⟩ := h.serves_recorded hs log hstart hcursor
      cases hserves with
      | past hpast hitems hnext =>
          -- The search is behind the last row: nothing comes, and nothing comes after it.
          have hfill : fillRoom readable (query.limit.toNat - rows.length) page.items =
              ([], none) := by
            rw [hitems]
            rfl
          rw [exec_refillModels_open hroom hf hat.offset_eq hfill, hnext,
            if_pos Option.isNone_none]
          refine .ended hcursor hs' ?_
          exact .done (Accounts.visit readable all stop start _ 0) hpast
      | part count hpos hlimit hfit hitems hnext =>
          have hcount : page.items.length = count := by
            rw [hitems, List.length_take, List.length_drop]
            omega
          have hfits := h.fits
          rcases hfill : fillRoom readable (query.limit.toNat - rows.length) page.items with
            ⟨more, _ | seen⟩
          · -- The room is not filled: the next search starts as many rows further on as were
            -- asked for, whatever the page brought.
            obtain ⟨hmore, hlt⟩ := fillRoom_none (by omega) hfill
            rw [hitems] at hmore
            subst hmore
            rw [exec_refillModels_open hroom hf hat.offset_eq hfill, hnext]
            by_cases hlast : start + count < all.length
            · rw [if_pos hlast, Option.isNone_some, if_neg Bool.false_ne_true]
              by_cases hover : start + query.limit.toNat < UInt64.size
              · rw [further_ok hover]
                have hrest := ih _ (by omega) (start + count)
                  (Place.modelsAt_known query (start + query.limit.toNat)) hover
                  (rows ++ ((all.drop start).take count).filter readable)
                  (.inl (by rw [List.length_append]; omega)) hs'
                  (log ++ [(some (place.modelsText query), .ok page)]) rfl
                refine .goes_on hcursor hpos hcount (by omega) (fun hfull => ?_) hrest
                rw [← hfull hlast]
              · -- There is no offset so far on.
                rw [further_error hstart hover]
                refine .ended hcursor hs' ?_
                rw [hcount]
                exact .failed (List.mem_singleton_self _) ⟨by omega, hlast, by omega⟩
            · -- The page was the last one, so the readable rows of it are the rest.
              rw [if_neg hlast, if_pos Option.isNone_none]
              refine .ended hcursor hs' ?_
              rw [hcount]
              exact .done (Accounts.visit readable all stop start count count) (by omega)
          · -- The room is filled: the cursor stands behind the rows that were looked at.
            obtain ⟨hseen, hseen', hmore, -⟩ := fillRoom_some (by omega) hfill
            rw [hcount] at hseen'
            rw [hitems, List.take_take, Nat.min_eq_left hseen'] at hmore
            have hvisit : Accounts readable all (min stop start) more
                (skipped readable all stop [(start, count)]) (start + seen) :=
              hmore ▸ Accounts.visit readable all stop start count seen
            rw [exec_refillModels_filled hroom hf hat.offset_eq hfill]
            by_cases hlast : (page.next.isNone && seen == page.items.length) = true
            · -- It was filled by the very last row, and no cursor is handed out.
              rw [if_pos hlast]
              rw [Bool.and_eq_true, beq_iff_eq, hcount, hnext] at hlast
              obtain ⟨hnext', rfl⟩ := hlast
              have hend : ¬ start + seen < all.length := by
                intro hmore'
                rw [if_pos hmore'] at hnext'
                exact absurd hnext' Bool.false_ne_true
              refine .ended hcursor hs' ?_
              rw [hcount]
              exact .done hvisit (by omega)
            · rw [if_neg hlast, further_ok (by omega)]
              refine .ended hcursor hs' ?_
              rw [hcount]
              exact .more hvisit (by omega) (fun _ => by omega)
                (Nat.add_le_add_left hseen' _) (by omega)
    · -- There was no room, so no search is made and the cursor is that of the start.
      rw [exec_refillModels_full hroom]
      obtain ⟨hle, hfits⟩ := hopen.resolve_left hroom
      refine ⟨_, s, [], [], by rw [List.append_nil], hs, .nil, ?_, fun _ _ => trivial⟩
      have haccounts : Accounts readable all (min stop start) []
          (skipped readable all stop []) start := by
        rw [Nat.min_eq_right hle]
        exact .refl readable all start
      have hfares : Fares query readable all stop start rows [] _ :=
        .more haccounts (Nat.le_refl _) (fun hne => absurd rfl hne) hle hfits
      rw [List.append_nil] at hfares
      rw [hat.text_eq]
      exact hfares

theorem tokenOf_finish_offset (members : List (String × Json)) (field : String)
    (rows : List Json) (offset : Nat) :
    tokenOf (finish (.object members) field rows (some (modelsOffsetText query offset))) =
      some (modelsOffsetText query offset) := by
  rw [tokenOf_finish, Option.filter, isEmpty_modelsOffsetText]
  rfl

/-- One page of a walk: what the client's own search and the refill visit and keep. -/
theorem loggedModels_visits
    (h : Honours (tracker.searchLoggedModels query) (modelsOffsetText query)
      query.limit.toNat all holds) (readability : Readability)
    {answer : Page → Json} (hanswer : ∀ page, Carries "models" page (answer page))
    {token : Option String} {start stop : Nat} (hat : CursorAt (modelsOffsetText query) token start)
    (hfits : start ≤ all.length) (hle : start ≤ stop) {s : σ} (hs : holds s)
    (log : List Searched) : ∃ page outcome state s' searches visits,
      exec (tracker.recorded.searchLoggedModels query token) (s, log) = (.ok page, state) ∧
      exec (loggedModels tracker.recorded readability query (answer page)) state =
        (outcome.map fun result => finish (answer page) "models" result.1 result.2,
          (s', log ++ searches)) ∧ holds s' ∧
      Visited (modelsOffsetText query) searches visits ∧ visits ≠ [] ∧
      Fares query (readableAt ["info", "experiment_id"] readability) all stop start [] visits
        outcome ∧
      ((∀ visit ∈ visits, Full query.limit.toNat all visit) → Joined stop visits) := by
  have hstart : start < UInt64.size := Nat.lt_of_le_of_lt hfits h.fits
  obtain ⟨page, s', hpage, hs', hserves⟩ := h.serves_recorded hs log hstart hat
  obtain ⟨members, -, hrows, htoken⟩ := hanswer page
  have hvisited : Visited (modelsOffsetText query) [(token, .ok page)]
      [(start, page.items.length)] := .cons hat .nil
  -- The search of the client is the first visit; with a cursor, a refill starts where it ends.
  cases hserves with
  | past hpast hitems hnext =>
      rw [hnext] at htoken
      refine ⟨page, .ok ([], none), _, s', _, _, hpage, ?_, hs', hvisited,
        List.cons_ne_nil _ _, ?_, fun _ => ⟨hle, trivial⟩⟩
      · rw [exec_loggedModels_none htoken, hrows, hitems]
        rfl
      · exact .done (Accounts.visit _ all stop start _ 0) hpast
  | part count hpos hlimit hfit hitems hnext =>
      have hcount : page.items.length = count := by
        rw [hitems, List.length_take, List.length_drop]
        omega
      rw [hcount] at hvisited
      by_cases hlast : start + count < all.length
      · rw [hnext, if_pos hlast, Option.filter, isEmpty_modelsOffsetText] at htoken
        obtain ⟨outcome, s'', searches, visits, hrun, hs'', hrest, hfares, hall⟩ :=
          refillModels_visits (readableAt ["info", "experiment_id"] readability) h
            (start + count) (Place.modelsAt_given query (start + count))
            (Nat.lt_trans hlast h.fits) ((rowsOf "models" (answer page)).filter
              (readableAt ["info", "experiment_id"] readability))
            (.inr ⟨Nat.le_refl _, hfit⟩) hs' (log ++ [(token, .ok page)])
        refine ⟨page, outcome, _, s'', _, _, hpage, ?_, hs'', hvisited.append hrest,
          List.cons_ne_nil _ _, ?_, fun hfull => ?_⟩
        · rw [List.append_assoc] at hrun
          exact exec_loggedModels_some htoken hrun
        · rw [hrows, hitems] at hfares
          exact hfares.cons hpos (Nat.le_refl _)
        · exact ⟨hle, hall (Nat.le_refl _) fun visit hmem =>
            hfull visit (List.mem_cons_of_mem _ hmem)⟩
      · rw [hnext, if_neg hlast] at htoken
        refine ⟨page, .ok (page.items.filter (readableAt ["info", "experiment_id"] readability),
          none), _, s', _, _, hpage, ?_, hs', hvisited, List.cons_ne_nil _ _, ?_,
          fun _ => ⟨hle, trivial⟩⟩
        · rw [exec_loggedModels_none htoken, hrows]
          rfl
        · rw [hitems]
          exact .done (Accounts.visit _ all stop start count count) (by omega)

/-- What a walk comes to from an offset on, with the end of the visit before it and the visits
that it makes. -/
inductive WalkFares (query : LoggedModelQuery) (readable : Json → Bool) (all : List Json)
    (stop start : Nat) (visits : List (Nat × Nat)) :
    Except Error (Option (List (List Json))) → Prop
  | done {pages : List (List Json)} {goal : Nat}
      (haccounts : Accounts readable all start pages.flatten
        (skipped readable all stop visits) goal) (hend : all.length ≤ goal) :
      WalkFares query readable all stop start visits (.ok (some pages))
  | failed {visit : Nat × Nat} (hmem : visit ∈ visits)
      (hover : Overflows query.limit.toNat all visit) :
      WalkFares query readable all stop start visits (.error (.fault .offset))

theorem walk_visits
    (h : Honours (tracker.searchLoggedModels query) (modelsOffsetText query)
      query.limit.toNat all holds) (readability : Readability)
    {answer : Page → Json} (hanswer : ∀ page, Carries "models" page (answer page))
    {rounds start : Nat} (hrounds : all.length - start < rounds) {token : Option String}
    (hat : CursorAt (modelsOffsetText query) token start) (hfits : start ≤ all.length)
    {stop : Nat} (hle : start ≤ stop) {s : σ} (hs : holds s) (log : List Searched) :
    ∃ outcome s' searches visits,
      exec (walk (tracker.recorded.searchLoggedModels query) answer
          (loggedModels tracker.recorded readability query) "models" rounds token) (s, log) =
        (outcome, (s', log ++ searches)) ∧
      Visited (modelsOffsetText query) searches visits ∧
      WalkFares query (readableAt ["info", "experiment_id"] readability) all stop start visits
        outcome ∧
      ((∀ visit ∈ visits, Full query.limit.toNat all visit) → Joined stop visits) := by
  -- The induction is on the rounds; what is carried along is that fewer rows are left.
  induction rounds generalizing start token stop s log with
  | zero => exact absurd hrounds (Nat.not_lt_zero _)
  | succ rounds ih =>
      obtain ⟨page, outcome, state, s', searches, visits, hpage, hnarrow, hs', hvisited, hne,
        hfares, hfull⟩ := loggedModels_visits h readability hanswer hat hfits hle hs log
      obtain ⟨members, hobject, -⟩ := hanswer page
      have hfield : "models" ≠ tokenField := by decide
      cases hfares with
      | @more kept goal haccounts _ hmoved hinside hgoal =>
          rw [Nat.min_eq_right hle] at haccounts
          have hmoved := hmoved hne
          -- The cursor of the page is further on, so fewer rounds are enough for the rest.
          obtain ⟨outcome, s'', searches', visits', hrun, hvisited', hwalk, hfull'⟩ :=
            ih (by omega) (.inr rfl) hgoal hinside hs' (log ++ searches)
          have htoken : tokenOf (finish (answer page) "models" ([] ++ kept)
              (some (modelsOffsetText query goal))) = some (modelsOffsetText query goal) := by
            rw [hobject, tokenOf_finish_offset]
          have hrows : rowsOf "models" (finish (answer page) "models" ([] ++ kept)
              (some (modelsOffsetText query goal))) = kept := by
            rw [hobject, rowsOf_finish hfield, List.nil_append]
          refine ⟨outcome.map (·.map (kept :: ·)), s'', _, _, ?_, hvisited.append hvisited', ?_,
            fun hall => ?_⟩
          · rw [exec_walk_more rounds hpage hnarrow htoken, hrun, hrows, List.append_assoc]
          · cases hwalk with
            | done haccounts' hend =>
                refine .done ?_ hend
                rw [List.flatten_cons, skipped_append]
                exact haccounts.trans haccounts'
            | failed hmem hover => exact .failed (List.mem_append_right _ hmem) hover
          · have hfirst := hfull fun visit hmem => hall visit (List.mem_append_left _ hmem)
            have hrest := hfull' fun visit hmem => hall visit (List.mem_append_right _ hmem)
            exact hfirst.append hrest
      | @done kept goal haccounts hend =>
          -- Without a cursor this page is the last one.
          rw [Nat.min_eq_right hle] at haccounts
          have htoken : tokenOf (finish (answer page) "models" ([] ++ kept) none) = none := by
            rw [hobject, tokenOf_finish]
            rfl
          have hrows : rowsOf "models" (finish (answer page) "models" ([] ++ kept) none) =
              kept := by rw [hobject, rowsOf_finish hfield, List.nil_append]
          refine ⟨.ok (some [kept]), s', searches, visits, ?_, hvisited, ?_, hfull⟩
          · rw [exec_walk_last rounds hpage hnarrow htoken, hrows]
          · refine .done ?_ hend
            rw [List.flatten_singleton]
            exact haccounts
      | failed hmem hover =>
          exact ⟨_, s', searches, visits, exec_walk_error rounds hpage hnarrow, hvisited,
            .failed hmem hover, hfull⟩

theorem walk_records (tracker : Tracker σ) (query : LoggedModelQuery)
    (readability : Readability) {answer : Page → Json}
    (hanswer : ∀ page, Carries "models" page (answer page)) (rounds : Nat)
    (token : Option String) (s : σ) : ∃ searches,
    Records (walk (tracker.searchLoggedModels query) answer
        (loggedModels tracker readability query) "models" rounds token)
      (walk (tracker.recorded.searchLoggedModels query) answer
        (loggedModels tracker.recorded readability query) "models" rounds token) s searches := by
  induction rounds generalizing token s with
  | zero => exact ⟨[], .pure none s⟩
  | succ rounds ih =>
      -- The search, the narrowing and the rest of the walk write one after the other.
      refine Records.bind (.recorded token _ s) fun page s' _ => ?_
      obtain ⟨members, hobject, -⟩ := hanswer page
      obtain ⟨searches, hrecords, -⟩ :=
        loggedModels_discloses tracker query readability members s'
      rw [← hobject] at hrecords
      refine hrecords.bind fun response s'' _ => ?_
      cases tokenOf response with
      | none => exact ⟨[], .pure _ s''⟩
      | some next =>
          obtain ⟨searches', hrest⟩ := ih (some next) s''
          exact hrest.bind fun pages s''' _ => ⟨[], .pure _ s'''⟩

/-- The page of one row at an offset. -/
def single (query : LoggedModelQuery) (rows : List Json) (offset : Nat) : Page :=
  ⟨(rows.drop offset).take 1,
    if offset + 1 < rows.length then some (modelsOffsetText query (offset + 1)) else none⟩

/-- A tracker that gives its logged models one by one, however many are asked for. -/
def oneByOne (rows : List Json) : Tracker Unit where
  runExperiment run := Action.of (.error (.absent (.run run)))
  loggedModelExperiment model := Action.of (.error (.absent (.loggedModel model)))
  experimentNamed _ := Action.of (.ok none)
  searchExperiments _ _ := Action.of (.ok ⟨[], none⟩)
  searchModels _ _ := Action.of (.ok ⟨[], none⟩)
  searchLoggedModels query token := Action.of ((Inventory.modelsStart token).map fun offset =>
    single query rows offset.toNat)

theorem CursorAt.modelsStart_eq {query : LoggedModelQuery} {token : Option String} {offset : Nat}
    (h : CursorAt (modelsOffsetText query) token offset) :
    Inventory.modelsStart token = .ok (UInt64.ofNat offset) := by
  rcases h with ⟨rfl, rfl⟩ | rfl
  · rfl
  · rw [Inventory.modelsStart, isEmpty_modelsOffsetText, modelsOffsetText, modelsText,
      ModelsCursor.decode_encode]
    rfl

theorem exec_oneByOne {query : LoggedModelQuery} {rows : List Json} {token : Option String}
    {offset : Nat} (hoffset : offset < UInt64.size)
    (hat : CursorAt (modelsOffsetText query) token offset) :
    exec ((oneByOne rows).searchLoggedModels query token) () =
      (.ok (single query rows offset), ()) := by
  have hword : (UInt64.ofNat offset).toNat = offset := UInt64.toNat_ofNat_of_lt' hoffset
  have hexec : exec ((oneByOne rows).searchLoggedModels query token) () =
      ((Inventory.modelsStart token).map fun offset => single query rows offset.toNat, ()) := rfl
  rw [hexec, hat.modelsStart_eq, Except.map, hword]

theorem honours_oneByOne {query : LoggedModelQuery} {rows : List Json}
    (hlimit : 0 < query.limit.toNat) (hfits : rows.length < UInt64.size) :
    Honours ((oneByOne rows).searchLoggedModels query) (modelsOffsetText query)
      query.limit.toNat rows (fun _ => True) where
  fits := hfits
  serves s token offset _ hoffset hat := by
    refine ⟨single query rows offset, (), exec_oneByOne hoffset hat, trivial, ?_⟩
    by_cases hmore : offset < rows.length
    · exact .part 1 Nat.one_pos hlimit hmore rfl rfl
    · refine .past (Nat.le_of_not_lt hmore) ?_ ?_
      · rw [single, List.drop_eq_nil_of_le (Nat.le_of_not_lt hmore), List.take_nil]
      · rw [single, if_neg (by omega)]

/-- Three logged models, the second one of an experiment of its own. -/
def threeModels : List Json := [Inventory.loggedModelRow ("1", "a"),
  Inventory.loggedModelRow ("2", "b"), Inventory.loggedModelRow ("3", "a")]

/-- A query for two logged models to a page. -/
def twoEach : LoggedModelQuery := ⟨2, [], none, none⟩

/-- The experiment of the second logged model is hidden. -/
def secondHidden : Readability := ⟨[("b", false)], true⟩

/-- A client that walks from an offset on along the narrowed logged models of a tracker that
honours cursors comes to an end. It has some of the readable rows from there on, in order and
once; it has all of them if and only if no readable row lies between the end of a page and
where the next search started, and no page was so short that there was no offset to go on
from. Where all pages but the last are as long as asked for, no row lies there at all. -/
theorem models_walk_exact_iff {σ : Type} (tracker : Tracker σ) (query : LoggedModelQuery)
    (readability : Readability) (all : List Json) (holds : σ → Prop)
    (h : Honours (tracker.searchLoggedModels query) (modelsOffsetText query)
      query.limit.toNat all holds)
    (answer : Page → Json) (hanswer : ∀ page, Carries "models" page (answer page))
    (token : Option String) (start : Nat)
    (hat : CursorAt (modelsOffsetText query) token start) (hstart : start ≤ all.length)
    (s : σ) (hs : holds s) : ∃ outcome s' searches visits,
      exec (walk (tracker.searchLoggedModels query) answer
        (loggedModels tracker readability query) "models" (all.length - start + 1) token) s =
          (outcome, s') ∧
      exec (walk (tracker.recorded.searchLoggedModels query) answer
        (loggedModels tracker.recorded readability query) "models" (all.length - start + 1)
          token) (s, []) = (outcome, (s', searches)) ∧
      Visited (modelsOffsetText query) searches visits ∧
      ((∃ pages, outcome = .ok (some pages) ∧
          List.Sublist pages.flatten ((all.drop start).filter
            (readableAt ["info", "experiment_id"] readability)) ∧
          (pages.flatten = (all.drop start).filter
              (readableAt ["info", "experiment_id"] readability) ↔
            skipped (readableAt ["info", "experiment_id"] readability) all start visits = [])) ∨
        outcome = .error (.fault .offset) ∧
          ∃ visit ∈ visits, Overflows query.limit.toNat all visit) ∧
      ((∀ visit ∈ visits, Full query.limit.toNat all visit) → Joined start visits ∧
        ∃ pages, outcome = .ok (some pages) ∧ pages.flatten =
          (all.drop start).filter (readableAt ["info", "experiment_id"] readability)) := by
  obtain ⟨outcome, s', searches, visits, hrun, hvisited, hfares, hfull⟩ :=
    walk_visits h readability hanswer (Nat.lt_succ_self _) hat hstart (Nat.le_refl start) hs []
  obtain ⟨searches', hrecords⟩ := walk_records tracker query readability hanswer
    (all.length - start + 1) token s
  -- What is written down does not change what happens.
  have hplain : exec (walk (tracker.searchLoggedModels query) answer
      (loggedModels tracker readability query) "models" (all.length - start + 1) token) s =
        (outcome, s') := by
    have hboth := (hrecords []).symm.trans hrun
    obtain ⟨houtcome, hstate⟩ := Prod.mk.inj hboth
    exact Prod.ext houtcome (Prod.mk.inj hstate).1
  refine ⟨outcome, s', searches, visits, hplain, hrun, hvisited, ?_, fun hall => ?_⟩
  · cases hfares with
    | done haccounts hend => exact .inl ⟨_, rfl, haccounts.exact_iff hend⟩
    | failed hmem hover => exact .inr ⟨rfl, _, hmem, hover⟩
  · refine ⟨hfull hall, ?_⟩
    cases hfares with
    | done haccounts hend =>
        exact ⟨_, rfl, (haccounts.exact_iff hend).2.2 (hfull hall).skipped_eq_nil⟩
    | failed hmem hover =>
        -- A short page that is not the last one is no full one.
        obtain ⟨hshort, hmore, -⟩ := hover
        exact absurd (hall _ hmem hmore) (Nat.ne_of_lt hshort)

/-- A walk along three logged models that come one by one. -/
theorem models_walk_exact_iff_oneByOne : ∃ outcome s' searches visits,
    exec (walk ((oneByOne threeModels).searchLoggedModels twoEach)
      (fun page => finish (.object []) "models" page.items page.next)
      (loggedModels (oneByOne threeModels) secondHidden twoEach) "models" 4 none) () =
        (outcome, s') ∧
    Visited (modelsOffsetText twoEach) searches visits ∧
    ((∃ pages, outcome = .ok (some pages) ∧
        (pages.flatten = [Inventory.loggedModelRow ("1", "a"),
            Inventory.loggedModelRow ("3", "a")] ↔
          skipped (readableAt ["info", "experiment_id"] secondHidden) threeModels 0
            visits = [])) ∨ outcome = .error (.fault .offset)) := by
  obtain ⟨outcome, s', searches, visits, hrun, -, hvisited, hcases, -⟩ :=
    models_walk_exact_iff (oneByOne threeModels) twoEach secondHidden _ _
      (honours_oneByOne (by decide) (by decide)) _ (carries_finish (by decide) []) none 0
      (.inl ⟨rfl, rfl⟩) (Nat.zero_le _) () trivial
  refine ⟨outcome, s', searches, visits, hrun, hvisited, ?_⟩
  rcases hcases with ⟨pages, hok, -, hiff⟩ | ⟨herror, -⟩
  · exact .inl ⟨pages, hok, hiff⟩
  · exact .inr herror

/-- A walk that skips a readable row. The page with the hidden logged model does not fill the
room, so the refill goes on two rows behind its start, where there are no more. -/
theorem models_walk_skips :
    Honours ((oneByOne threeModels).searchLoggedModels twoEach) (modelsOffsetText twoEach) 2
      threeModels (fun _ => True) ∧
    exec (walk ((oneByOne threeModels).searchLoggedModels twoEach)
      (fun page => finish (.object []) "models" page.items page.next)
      (loggedModels (oneByOne threeModels) secondHidden twoEach) "models" 4 none) () =
        (.ok (some [[Inventory.loggedModelRow ("1", "a")]]), ()) ∧
    threeModels.filter (readableAt ["info", "experiment_id"] secondHidden) =
      [Inventory.loggedModelRow ("1", "a"), Inventory.loggedModelRow ("3", "a")] := by
  refine ⟨honours_oneByOne (by decide) (by decide), ?_, rfl⟩
  have hfield : "models" ≠ tokenField := by decide
  have hfirst : exec ((oneByOne threeModels).searchLoggedModels twoEach none) () = _ :=
    exec_oneByOne (by decide) (.inl ⟨rfl, rfl⟩)
  have hat := Place.modelsAt_given twoEach 1
  have hat' := Place.modelsAt_known twoEach 3
  have hsecond : exec ((oneByOne threeModels).searchLoggedModels twoEach
      (some (Place.modelsText twoEach (.given (modelsOffsetText twoEach 1))))) () = _ :=
    exec_oneByOne (by decide) (.inr (congrArg some hat.text_eq))
  have hpast : exec ((oneByOne threeModels).searchLoggedModels twoEach
      (some (Place.modelsText twoEach (.known (UInt64.ofNat 3))))) () = _ :=
    exec_oneByOne (by decide) (.inr (congrArg some hat'.text_eq))
  -- The refill starts at the second one and goes on behind the third one.
  have hend : exec (refillModels (oneByOne threeModels) twoEach
      (readableAt ["info", "experiment_id"] secondHidden)
      [Inventory.loggedModelRow ("1", "a")] (.known (UInt64.ofNat 3))) () =
        (.ok ([Inventory.loggedModelRow ("1", "a")], none), ()) := by
    rw [exec_refillModels_open (by decide) hpast hat'.offset_eq rfl]
    rfl
  have hrefill : exec (refillModels (oneByOne threeModels) twoEach
      (readableAt ["info", "experiment_id"] secondHidden)
      [Inventory.loggedModelRow ("1", "a")] (.given (modelsOffsetText twoEach 1))) () =
        (.ok ([Inventory.loggedModelRow ("1", "a")], none), ()) := by
    rw [exec_refillModels_open (by decide) hsecond hat.offset_eq rfl, if_neg (by decide),
      further_ok (by decide)]
    exact hend
  obtain ⟨members, hobject, hrows, htoken⟩ :=
    carries_finish hfield [] (single twoEach threeModels 0)
  have hkept : (rowsOf "models" (.object members)).filter
      (readableAt ["info", "experiment_id"] secondHidden) =
        [Inventory.loggedModelRow ("1", "a")] := by
    rw [← hobject, hrows]
    rfl
  have hcursor : tokenOf (.object members) = some (modelsOffsetText twoEach 1) := by
    rw [← hobject]
    exact tokenOf_finish_offset [] "models" _ 1
  -- The page that is handed out has no cursor, so the walk ends with the first row.
  rw [← hkept] at hrefill
  have hnarrowed := exec_loggedModels_some hcursor hrefill
  rw [hkept, ← hobject] at hnarrowed
  have hlast : tokenOf (finish (finish (.object []) "models"
      (single twoEach threeModels 0).items (single twoEach threeModels 0).next) "models"
        [Inventory.loggedModelRow ("1", "a")] none) = none := by
    rw [hobject, tokenOf_finish]
    rfl
  rw [exec_walk_last 3 hfirst hnarrowed hlast, hobject, rowsOf_finish hfield]

end Narrowing

end Gatehouse
