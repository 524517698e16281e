import Gatehouse.Proofs.Narrowing.Refill
import Gatehouse.Proofs.Narrowing.Response

/-!
# What a narrowed response discloses

Whatever the tracker answers, a narrowed response holds the readable rows that it held
before, followed by readable rows from the pages that were fetched, page after page and
from the front of each. It is all or nothing: a search that fails is the last one that is
made, and its failure is the outcome.

## Main definitions

* `Narrowing.Fronts`: Rows from the fronts of pages.
* `Narrowing.StopsAtFailure`: A failed search is the last one and the outcome.
* `Narrowing.Collects`: What a refill comes to, from the searches that it made.
* `Narrowing.Gathers`: A refill that makes some searches and collects from them.
* `Narrowing.Lists`: The rows in a response.
* `Narrowing.Discloses`: What a whole response comes to, from its rows and the searches.

## Theorems

* `Narrowing.refill_collects`, `Narrowing.refillModels_collects`: Both refills.
* `Narrowing.narrowWith_discloses`: A narrowing, whatever its refill collects.
* `Narrowing.narrow_discloses`, `Narrowing.loggedModels_discloses`: Both kinds of narrowing.
-/

namespace Gatehouse

namespace Narrowing

open Gatehouse.Action

/-- Rows taken page after page, from the front of the readable rows of each page. -/
inductive Fronts (readable : Json → Bool) : List Page → List Json → Prop
  | nil : Fronts readable [] []
  | cons {page : Page} {front : List Json} {pages : List Page} {more : List Json}
      (hfront : front <+: page.items.filter readable) (hmore : Fronts readable pages more) :
      Fronts readable (page :: pages) (front ++ more)

/-- A search that failed is the last one, and its failure is the outcome. -/
def StopsAtFailure {α : Type} (searches : List Searched) (outcome : Except Error α) : Prop :=
  ∀ token e, (token, .error e) ∈ searches →
    outcome = .error e ∧ ∃ (before : List Searched) (pages : List Page),
      searches = before ++ [(token, .error e)] ∧ before.map (·.2) = pages.map .ok

/-- What a refill comes to that starts from some rows and makes some searches: the same rows
with the fronts of what was fetched, up to the limit, or a failure. -/
structure Collects (readable : Json → Bool) (limit : Nat) (rows : List Json)
    (searches : List Searched) (outcome : Except Error (List Json × Option String)) :
    Prop where
  fronts : ∀ all token, outcome = .ok (all, token) → ∃ pages more,
    searches.map (·.2) = pages.map .ok ∧ Fronts readable pages more ∧ all = rows ++ more ∧
      all.length ≤ max limit rows.length
  failure : StopsAtFailure searches outcome

namespace Collects

variable {readable : Json → Bool} {limit : Nat} {rows : List Json}

theorem done (token : Option String) :
    Collects readable limit rows [] (.ok (rows, token)) where
  fronts all token' h := by
    obtain ⟨rfl, -⟩ := Prod.mk.inj (Except.ok.inj h)
    exact ⟨[], [], rfl, .nil, (List.append_nil _).symm, Nat.le_max_right _ _⟩
  failure _ _ h := absurd h List.not_mem_nil

theorem refused (e : Error) : Collects readable limit rows [] (.error e) where
  fronts _ _ h := nomatch h
  failure _ _ h := absurd h List.not_mem_nil

theorem failed (token : Option String) (e : Error) :
    Collects readable limit rows [(token, .error e)] (.error e) where
  fronts _ _ h := nomatch h
  failure token' e' h := by
    obtain ⟨rfl, he⟩ := Prod.mk.inj (List.mem_singleton.1 h)
    obtain rfl : e' = e := Except.error.inj he
    exact ⟨rfl, [], [], rfl, rfl⟩

/-- One more page in front: what is collected after it starts from the rows with its front. -/
theorem fetched {front : List Json} {page : Page} {token : Option String}
    {searches : List Searched} {outcome : Except Error (List Json × Option String)}
    (hfront : front <+: page.items.filter readable)
    (hroom : (rows ++ front).length ≤ max limit rows.length)
    (h : Collects readable limit (rows ++ front) searches outcome) :
    Collects readable limit rows ((token, .ok page) :: searches) outcome where
  fronts all token' ho := by
    obtain ⟨pages, more, hpages, hmore, rfl, hlength⟩ := h.fronts all token' ho
    refine ⟨page :: pages, front ++ more, ?_, .cons hfront hmore, ?_, ?_⟩
    · rw [List.map_cons, List.map_cons, hpages]
    · rw [List.append_assoc]
    · omega
  failure token' e hmem := by
    rcases List.mem_cons.1 hmem with heq | hrest
    · exact nomatch (Prod.mk.inj heq).2
    · -- A search that failed is among the later ones, and it is the last of them.
      obtain ⟨ho, before, pages, rfl, hbefore⟩ := h.failure token' e hrest
      refine ⟨ho, (token, .ok page) :: before, page :: pages, rfl, ?_⟩
      rw [List.map_cons, List.map_cons, hbefore]

/-- One page that the refill ends with. -/
theorem last {front : List Json} {page : Page} {token : Option String}
    (hfront : front <+: page.items.filter readable)
    (hroom : (rows ++ front).length ≤ max limit rows.length) (next : Option String) :
    Collects readable limit rows [(token, .ok page)] (.ok (rows ++ front, next)) :=
  fetched hfront hroom (done next)

/-- One page that brings nothing. -/
theorem exhausted (page : Page) (token next : Option String) :
    Collects readable limit rows [(token, .ok page)] (.ok (rows, next)) := by
  have hroom : (rows ++ []).length ≤ max limit rows.length := by
    rw [List.append_nil]
    exact Nat.le_max_right _ _
  refine fetched List.nil_prefix hroom ?_
  rw [List.append_nil]
  exact done next

/-- One page after which the refill fails without another search. -/
theorem stopped (page : Page) (token : Option String) (e : Error) :
    Collects readable limit rows [(token, .ok page)] (.error e) := by
  have hroom : (rows ++ []).length ≤ max limit rows.length := by
    rw [List.append_nil]
    exact Nat.le_max_right _ _
  exact fetched List.nil_prefix hroom (refused e)

end Collects

/-- A refill and the same refill with its searches written down: there are some searches that
the second one writes, and what the first one comes to is collected from them. -/
def Gathers {σ : Type} (readable : Json → Bool) (limit : Nat) (rows : List Json)
    (action : Action σ (List Json × Option String))
    (written : Action (σ × List Searched) (List Json × Option String)) (s : σ) : Prop :=
  ∃ searches, Records action written s searches ∧
    Collects readable limit rows searches (exec action s).1

namespace Gathers

variable {σ : Type} {readable : Json → Bool} {limit : Nat} {rows : List Json}
  {action : Action σ (List Json × Option String)}
  {written : Action (σ × List Searched) (List Json × Option String)} {s s' : σ}
  {outcome : Except Error (List Json × Option String)}

/-- A refill that makes no search. -/
theorem unasked (hplain : exec action s = (outcome, s))
    (hwritten : ∀ before, exec written (s, before) = (outcome, (s, before)))
    (h : Collects readable limit rows [] outcome) :
    Gathers readable limit rows action written s := by
  refine ⟨[], fun before => ?_, ?_⟩
  · rw [hwritten, hplain, List.append_nil]
  · rw [hplain]
    exact h

/-- A refill that comes to its end with one search. -/
theorem ended {searched : Searched} (hplain : exec action s = (outcome, s'))
    (hwritten : ∀ before, exec written (s, before) = (outcome, (s', before ++ [searched])))
    (h : Collects readable limit rows [searched] outcome) :
    Gathers readable limit rows action written s := by
  refine ⟨[searched], fun before => ?_, ?_⟩
  · rw [hwritten, hplain]
  · rw [hplain]
    exact h

/-- A refill that takes the front of a page and goes on. -/
theorem goes_on {action' : Action σ (List Json × Option String)}
    {written' : Action (σ × List Searched) (List Json × Option String)} {page : Page}
    {token : Option String} {front : List Json} (hplain : exec action s = exec action' s')
    (hwritten : ∀ before, exec written (s, before) =
      exec written' (s', before ++ [(token, .ok page)]))
    (hfront : front <+: page.items.filter readable)
    (hroom : (rows ++ front).length ≤ max limit rows.length)
    (h : Gathers readable limit (rows ++ front) action' written' s') :
    Gathers readable limit rows action written s := by
  obtain ⟨searches, hrecords, hcollects⟩ := h
  refine ⟨(token, .ok page) :: searches, fun before => ?_, ?_⟩
  · rw [hwritten, hplain, hrecords, List.append_assoc]
    rfl
  · rw [hplain]
    exact .fetched hfront hroom hcollects

end Gathers

/-- A search with offset cursors whose calls are written down. -/
def OffsetSearch.recorded {σ : Type} (search : OffsetSearch σ) :
    OffsetSearch (σ × List Searched) where
  field := search.field
  key := search.key
  limit := search.limit
  fetch token := Action.recorded (some token) (search.fetch token)

variable {σ : Type}

theorem refill_collects (search : OffsetSearch σ) (readable : Json → Bool) (rows : List Json)
    (place : Place) (s : σ) :
    Gathers readable search.limit.toNat rows (refill search readable rows place)
      (refill search.recorded readable rows place) s := by
  -- The induction is on how far the place is from the end of all offsets, as for the refill.
  induction hn : place.ahead using Nat.strongRecOn generalizing rows place s with
  | _ n ih =>
    by_cases hroom : rows.length < search.limit.toNat
    · rcases hf : exec (search.fetch place.text) s with ⟨e | page, s'⟩
      -- A search that fails and a page without rows end the refill at once.
      · exact .ended (exec_refill_error hroom hf)
          (fun before => exec_refill_error hroom (exec_recorded hf before)) (.failed _ e)
      · by_cases hempty : page.items = []
        · exact .ended (exec_refill_empty hroom hf hempty)
            (fun before => exec_refill_empty hroom (exec_recorded hf before) hempty)
            (.exhausted page _ none)
        · -- The round brings rows, so the refill ends here only when it cannot tell where
          -- the next one starts.
          obtain ⟨batch, hbatch⟩ :
            ∃ batch, batch = page.items.take (search.limit.toNat - rows.length) := ⟨_, rfl⟩
          have hplain : exec (refill search readable rows place) s = _ :=
            exec_refill_more hroom hf hempty hbatch
          have hwritten (before : List Searched) :
              exec (refill search.recorded readable rows place) (s, before) = _ :=
            exec_refill_more hroom (exec_recorded hf before) hempty hbatch
          cases hs : place.offset with
          | error e =>
              rw [hs] at hplain hwritten
              exact .ended hplain hwritten (.stopped page _ e)
          | ok start =>
              rw [hs] at hplain hwritten
              simp only [] at hplain hwritten
              have hlength : batch.length ≤ search.limit.toNat - rows.length := by
                rw [hbatch]
                exact List.length_take_le _ _
              by_cases hl : start.toNat + batch.length < UInt64.size
              · rw [if_pos hl] at hplain
                simp only [if_pos hl] at hwritten
                -- At least one row was taken, so the place moves on.
                have hpos : 0 < batch.length := by
                  rw [hbatch, List.length_take]
                  have := List.length_pos_iff.2 hempty
                  omega
                have hfront : batch.filter readable <+: page.items.filter readable := by
                  rw [hbatch]
                  exact (List.take_prefix _ _).filter readable
                have hkept := List.length_filter_le readable batch
                refine .goes_on hplain hwritten hfront ?_
                  (ih _ (hn ▸ Place.ahead_lt hs hpos hl) _ _ s' rfl)
                rw [List.length_append]
                omega
              · rw [if_neg hl] at hplain
                simp only [if_neg hl] at hwritten
                exact .ended hplain hwritten (.stopped page _ _)
    · exact .unasked (exec_refill_full hroom) (fun _ => exec_refill_full hroom) (.done _)

theorem refillModels_collects (tracker : Tracker σ) (query : LoggedModelQuery)
    (readable : Json → Bool) (rows : List Json) (place : Place) (s : σ) :
    Gathers readable query.limit.toNat rows (refillModels tracker query readable rows place)
      (refillModels tracker.recorded query readable rows place) s := by
  -- The same induction; here the place moves on by as many rows as are asked for.
  induction hn : place.ahead using Nat.strongRecOn generalizing rows place s with
  | _ n ih =>
    by_cases hroom : rows.length < query.limit.toNat
    · rcases hf : exec (tracker.searchLoggedModels query (some (place.modelsText query))) s
        with ⟨e | page, s'⟩
      · exact .ended (exec_refillModels_error hroom hf)
          (fun before => exec_refillModels_error hroom (exec_recorded hf before)) (.failed _ e)
      · cases hs : place.modelsOffset with
        | error e =>
            refine .ended (exec_refillModels_lost hroom hf hs)
              (fun before => exec_refillModels_lost hroom (exec_recorded hf before) hs) ?_
            exact .stopped page _ e
        | ok start =>
            rcases hfill : fillRoom readable (query.limit.toNat - rows.length) page.items with
              ⟨more, _ | seen⟩
            · -- The room is not filled: the refill goes on behind the page if it can.
              have hplain := exec_refillModels_open hroom hf hs hfill
              have hwritten (before : List Searched) :
                  exec (refillModels tracker.recorded query readable rows place) (s, before) = _ :=
                exec_refillModels_open hroom (exec_recorded hf before) hs hfill
              obtain ⟨hmore, hlt⟩ := fillRoom_none (by omega) hfill
              have hfront : more <+: page.items.filter readable := hmore ▸ List.prefix_rfl
              have hlength : (rows ++ more).length ≤ max query.limit.toNat rows.length := by
                rw [List.length_append]
                omega
              -- The last page ends it, and so does an offset that is out of range.
              by_cases hlast : page.next.isNone = true
              · rw [if_pos hlast] at hplain
                simp only [if_pos hlast] at hwritten
                exact .ended hplain hwritten (.last hfront hlength _)
              · rw [if_neg hlast] at hplain
                simp only [if_neg hlast] at hwritten
                cases hfurther : further start query.limit.toNat with
                | error e =>
                    rw [hfurther] at hplain hwritten
                    exact .ended hplain hwritten (.stopped page _ e)
                | ok next =>
                    rw [hfurther] at hplain hwritten
                    exact .goes_on hplain hwritten hfront hlength
                      (ih _ (hn ▸ ahead_further hs (by omega) hfurther) _ _ s' rfl)
            · -- The room is filled: the refill ends, and only its cursor can fail.
              have hplain := exec_refillModels_filled hroom hf hs hfill
              have hwritten (before : List Searched) :
                  exec (refillModels tracker.recorded query readable rows place) (s, before) = _ :=
                exec_refillModels_filled hroom (exec_recorded hf before) hs hfill
              obtain ⟨-, -, hmore, hfull⟩ := fillRoom_some (by omega) hfill
              have hfront : more <+: page.items.filter readable := by
                rw [hmore]
                exact (List.take_prefix _ _).filter readable
              have hlength : (rows ++ more).length ≤ max query.limit.toNat rows.length := by
                rw [List.length_append]
                omega
              by_cases hlast : (page.next.isNone && seen == page.items.length) = true
              · rw [if_pos hlast] at hplain
                simp only [if_pos hlast] at hwritten
                exact .ended hplain hwritten (.last hfront hlength _)
              · rw [if_neg hlast] at hplain
                simp only [if_neg hlast] at hwritten
                cases hfurther : further start seen with
                | error e =>
                    rw [hfurther] at hplain hwritten
                    exact .ended hplain hwritten (.stopped page _ e)
                | ok next =>
                    rw [hfurther] at hplain hwritten
                    exact .ended hplain hwritten (.last hfront hlength _)
    · exact .unasked (exec_refillModels_full hroom) (fun _ => exec_refillModels_full hroom)
        (.done _)

/-- The rows that a response has in a member: those of the list there, and none where there is no
list. -/
inductive Lists (field : String) (response : Json) : List Json → Prop
  | listed {rows : List Json} (h : response.get? field = some (.array rows)) :
      Lists field response rows
  | missing (h : ∀ rows, response.get? field ≠ some (.array rows)) : Lists field response []

section Lists

variable {field : String} {response : Json} {rows : List Json}

theorem lists_rowsOf (field : String) (response : Json) :
    Lists field response (rowsOf field response) := by
  rw [rowsOf]
  cases hget : response.get? field with
  | none =>
      refine .missing fun rows h => ?_
      cases hget.symm.trans h
  | some value =>
      cases value with
      | array rows => exact .listed hget
      | _ =>
          refine .missing fun rows h => ?_
          cases hget.symm.trans h

theorem Lists.rowsOf_eq (h : Lists field response rows) : rowsOf field response = rows := by
  rw [rowsOf]
  cases h with
  | listed h =>
      rw [h]
      rfl
  | missing h =>
      -- What stands there, if anything, is no list.
      cases hget : response.get? field with
      | none => rfl
      | some value =>
          cases value with
          | array rows => exact absurd hget (h rows)
          | _ => rfl

end Lists

/-- What a response comes to that was narrowed with some searches. -/
structure Discloses (readable : Json → Bool) (field : String) (limit : Nat) (response : Json)
    (searches : List Searched) (outcome : Except Error Json) : Prop where
  /-- The rows are readable ones of the response and then of the pages that were fetched. -/
  rows : ∀ answer, outcome = .ok answer → ∃ held pages more,
    Lists field response held ∧ searches.map (·.2) = pages.map .ok ∧
      Fronts readable pages more ∧
      answer.get? field = some (.array (held.filter readable ++ more)) ∧
      (held.filter readable ++ more).length ≤ max limit (held.filter readable).length
  /-- The other members stay as they are. -/
  others : ∀ answer, outcome = .ok answer → ∀ name, name ≠ field → name ≠ tokenField →
    answer.get? name = response.get? name
  /-- A failed search is the last one and fails the whole response. -/
  failure : StopsAtFailure searches outcome

namespace Collects

variable {readable : Json → Bool} {limit : Nat} {field : String}
  {members : List (String × Json)} {searches : List Searched}

/-- What a refill collects is disclosed when the response is finished with it. -/
theorem discloses {outcome : Except Error (List Json × Option String)}
    (hf : field ≠ tokenField) (h : Collects readable limit
      ((rowsOf field (.object members)).filter readable) searches outcome) :
    Discloses readable field limit (.object members) searches
      (outcome.map fun result => finish (.object members) field result.1 result.2) := by
  cases outcome with
  | error e =>
      refine ⟨fun _ ho => (nomatch ho), fun _ ho => (nomatch ho), fun token e' hmem => ?_⟩
      obtain ⟨ho, hlast⟩ := h.failure token e' hmem
      obtain rfl : e = e' := Except.error.inj ho
      exact ⟨rfl, hlast⟩
  | ok result =>
      obtain ⟨all, token⟩ := result
      -- Setting rows and cursor leaves every other member alone.
      obtain ⟨pages, more, hpages, hmore, rfl, hlength⟩ := h.fronts _ _ rfl
      refine ⟨fun answer ho => ?_, fun answer ho name hname htoken => ?_,
        fun token' e hmem => nomatch (h.failure token' e hmem).1⟩
      · obtain rfl := Except.ok.inj ho
        exact ⟨_, pages, more, lists_rowsOf field _, hpages, hmore, get?_finish_field hf, hlength⟩
      · obtain rfl := Except.ok.inj ho
        exact get?_finish_other hname htoken

end Collects

/-- A narrowing with any refill that collects from the searches it makes. -/
theorem narrowWith_discloses {readable : Json → Bool} {limit : Nat} {field : String}
    {refilling : List Json → String → Action σ (List Json × Option String)}
    {recorded : List Json → String → Action (σ × List Searched) (List Json × Option String)}
    (hf : field ≠ tokenField) (hgathers : ∀ rows token s,
      Gathers readable limit rows (refilling rows token) (recorded rows token) s)
    (members : List (String × Json)) (s : σ) : ∃ searches,
      Records (narrowWith readable field refilling (.object members))
        (narrowWith readable field recorded (.object members)) s searches ∧
      Discloses readable field limit (.object members) searches
        (exec (narrowWith readable field refilling (.object members)) s).1 := by
  cases ht : tokenOf (.object members) with
  | none =>
      -- No cursor, no search: only the rows of the response are narrowed.
      have hplain : exec (narrowWith readable field refilling (.object members)) s = _ :=
        exec_narrowWith_none ht
      refine ⟨[], fun before => ?_, ?_⟩
      · rw [hplain, List.append_nil]
        exact exec_narrowWith_none ht
      · rw [hplain]
        exact (Collects.done none).discloses hf
  | some token =>
      -- The searches are those of the refill, which starts from the rows that may be read.
      obtain ⟨searches, hrecords, hcollects⟩ :=
        hgathers ((rowsOf field (.object members)).filter readable) token s
      have hplain : exec (narrowWith readable field refilling (.object members)) s = _ :=
        exec_narrowWith_some ht rfl
      refine ⟨searches, fun before => ?_, ?_⟩
      · rw [hplain]
        exact exec_narrowWith_some ht (hrecords before)
      · rw [hplain]
        exact hcollects.discloses hf

theorem narrow_discloses (search : OffsetSearch σ) (hf : search.field ≠ tokenField)
    (readability : Readability) (members : List (String × Json)) (s : σ) : ∃ searches,
      Records (narrow search readability (.object members))
        (narrow search.recorded readability (.object members)) s searches ∧
      Discloses (readableAt search.key readability) search.field search.limit.toNat
        (.object members) searches (exec (narrow search readability (.object members)) s).1 := by
  rw [narrow_eq, narrow_eq]
  refine narrowWith_discloses hf ?_ members s
  intro rows token s
  exact refill_collects search (readableAt search.key readability) rows (.given token) s

theorem loggedModels_discloses (tracker : Tracker σ) (query : LoggedModelQuery)
    (readability : Readability) (members : List (String × Json)) (s : σ) : ∃ searches,
      Records (loggedModels tracker readability query (.object members))
        (loggedModels tracker.recorded readability query (.object members)) s searches ∧
      Discloses (readableAt ["info", "experiment_id"] readability) "models" query.limit.toNat
        (.object members) searches
        (exec (loggedModels tracker readability query (.object members)) s).1 := by
  rw [loggedModels_eq, loggedModels_eq]
  refine narrowWith_discloses (by decide) ?_ members s
  intro rows token s
  exact refillModels_collects tracker query (readableAt ["info", "experiment_id"] readability) rows
    (.given token) s

/-- Whatever the tracker answers to the searches that a narrowing makes, written down as they
happen, the narrowed response discloses only readable rows: those of the response and then
those from the fronts of the pages that were fetched. -/
theorem narrowed_discloses_readable (tracker : Tracker σ) (readability : Readability)
    (members : List (String × Json)) (s : σ) :
    (∀ query : ExperimentQuery, ∃ searches,
      Records (experiments tracker readability query (.object members))
        (experiments tracker.recorded readability query (.object members)) s searches ∧
      Discloses (readableAt ["experiment_id"] readability) "experiments" query.limit.toNat
        (.object members) searches
        (exec (experiments tracker readability query (.object members)) s).1) ∧
    (∀ query : ModelQuery, ∃ searches,
      Records (models tracker readability query (.object members))
        (models tracker.recorded readability query (.object members)) s searches ∧
      Discloses (readableAt ["name"] readability) "registered_models" query.limit.toNat
        (.object members) searches
        (exec (models tracker readability query (.object members)) s).1) ∧
    (∀ query : LoggedModelQuery, ∃ searches,
      Records (loggedModels tracker readability query (.object members))
        (loggedModels tracker.recorded readability query (.object members)) s searches ∧
      Discloses (readableAt ["info", "experiment_id"] readability) "models"
        query.limit.toNat (.object members) searches
        (exec (loggedModels tracker readability query (.object members)) s).1) := by
  refine ⟨fun query => ?_, fun query => ?_, fun query => ?_⟩
  · -- The two that are followed by their cursors are one narrowing over different lists.
    have hf : "experiments" ≠ tokenField := by decide
    exact narrow_discloses ⟨"experiments", ["experiment_id"], query.limit,
      fun token => tracker.searchExperiments query (some token)⟩ hf readability members s
  · have hf : "registered_models" ≠ tokenField := by decide
    exact narrow_discloses ⟨"registered_models", ["name"], query.limit,
      fun token => tracker.searchModels query (some token)⟩ hf readability members s
  · exact loggedModels_discloses tracker query readability members s

end Narrowing

end Gatehouse
