import Gatehouse.Proofs.Cursor
import Gatehouse.Proofs.Narrowing.Refill
import Gatehouse.Proofs.Narrowing.Response
import Gatehouse.Tracker.Memory

/-!
# Narrowed responses stay as they are

A refill ends where its page is full or where nothing follows, whatever the tracker answered on the
way, and a response that it was made into says so itself: its rows may be read, and it has no cursor
or no room. Nothing is left to be done about such a response, so narrowing it once more gives it
back without a search.

## Main definitions

* `Narrowing.Completes`: What a refill ends with.
* `Narrowing.Settled`: A response that nothing is left to be done about.

## Theorems

* `Narrowing.Refilled.completes`, `Narrowing.RefilledModels.completes`: Every refill that succeeds
  ends so.
* `Narrowing.settled_finish`: What is made of such an end is settled.
* `Narrowing.settled_narrowWith`, `Narrowing.exec_narrowWith_settled`: What narrowing makes is
  settled, and what is settled is given back.
* `Narrowing.narrowed_once`: Narrowing twice is narrowing once.
-/

namespace Gatehouse

namespace Narrowing

open Gatehouse.Action

variable {σ τ : Type} {readable : Json → Bool}

/-- What a refill ends with: rows that may all be read, and as many as are asked for if a cursor
follows. -/
structure Completes (readable : Json → Bool) (limit : Nat)
    (result : List Json × Option String) : Prop where
  readable : ∀ row ∈ result.1, readable row = true
  full : ∀ text, result.2 = some text → text.isEmpty = false ∧ limit ≤ result.1.length

theorem forall_readable_append {rows more : List Json} (hrows : ∀ row ∈ rows, readable row = true)
    (hmore : ∀ row ∈ more, readable row = true) : ∀ row ∈ rows ++ more, readable row = true := by
  intro row hrow
  rcases List.mem_append.1 hrow with hin | hin
  · exact hrows row hin
  · exact hmore row hin

theorem forall_readable_filter (readable : Json → Bool) (items : List Json) :
    ∀ row ∈ items.filter readable, readable row = true :=
  fun _ hrow => (List.mem_filter.1 hrow).2

/-- Without a cursor there is nothing to go on with. -/
theorem Completes.ended {limit : Nat} {rows : List Json}
    (hrows : ∀ row ∈ rows, readable row = true) : Completes readable limit (rows, none) where
  readable := hrows
  full _ hsome := nomatch hsome

/-- With a cursor there is no room. -/
theorem Completes.filled {limit : Nat} {rows : List Json} {text : String}
    (hrows : ∀ row ∈ rows, readable row = true) (htext : text.isEmpty = false)
    (hfull : limit ≤ rows.length) : Completes readable limit (rows, some text) where
  readable := hrows
  full _ hsome := by
    obtain rfl := Option.some.inj hsome
    exact ⟨htext, hfull⟩

/-- Every refill that succeeds ends so, if it starts at a cursor. -/
theorem Refilled.completes {search : OffsetSearch σ} {rows : List Json} {place : Place} {s s' : σ}
    {result : List Json × Option String} (h : Refilled search readable rows place s result s')
    (hrows : ∀ row ∈ rows, readable row = true) (htext : place.text.isEmpty = false) :
    Completes readable search.limit.toNat result := by
  induction h with
  | full hfull => exact .filled hrows htext (Nat.le_of_not_lt hfull)
  | empty => exact .ended hrows
  | more _ _ _ _ _ _ _ ih =>
      exact ih (forall_readable_append hrows (forall_readable_filter _ _))
        (OffsetCursor.isEmpty_encode _)

/-- The place a number of rows further on is one that is known. -/
theorem isEmpty_modelsText_further {query : LoggedModelQuery} {start : UInt64} {moved : Nat}
    {next : Place} (h : further start moved = .ok next) :
    (next.modelsText query).isEmpty = false := by
  unfold further at h
  split at h
  · rw [← Except.ok.inj h]
    exact ModelsCursor.isEmpty_encode _
  · exact nomatch h

/-- Only readable rows are taken into a room. -/
theorem forall_readable_fillRoom {room : Nat} {items more : List Json} {seen : Option Nat}
    (hroom : 0 < room) (h : fillRoom readable room items = (more, seen)) :
    ∀ row ∈ more, readable row = true := by
  cases seen with
  | none =>
      rw [(fillRoom_none hroom h).1]
      exact forall_readable_filter _ _
  | some seen =>
      rw [(fillRoom_some hroom h).2.2.1]
      exact forall_readable_filter _ _

theorem RefilledModels.completes {tracker : Tracker σ} {query : LoggedModelQuery}
    {rows : List Json} {place : Place} {s s' : σ} {result : List Json × Option String}
    (h : RefilledModels tracker query readable rows place s result s')
    (hrows : ∀ row ∈ rows, readable row = true)
    (htext : (place.modelsText query).isEmpty = false) :
    Completes readable query.limit.toNat result := by
  induction h with
  | full hfull => exact .filled hrows htext (Nat.le_of_not_lt hfull)
  | ended hroom _ _ hfill =>
      exact .ended (forall_readable_append hrows (forall_readable_fillRoom (by omega) hfill))
  | filled hroom _ _ hfill _ hnext =>
      refine .filled (forall_readable_append hrows (forall_readable_fillRoom (by omega) hfill))
        (isEmpty_modelsText_further hnext) ?_
      -- The room was what the rows before left of the page.
      have hlength := (fillRoom_some (by omega) hfill).2.2.2
      rw [List.length_append]
      omega
  | more hroom _ _ hfill _ hnext _ ih =>
      exact ih (forall_readable_append hrows (forall_readable_fillRoom (by omega) hfill))
        (isEmpty_modelsText_further hnext)

/-- A response that nothing is left to be done about: it is what its own readable rows and its own
cursor make of it, and where it has a cursor its page is full. -/
structure Settled (readable : Json → Bool) (field : String) (limit : Nat) (body : Json) :
    Prop where
  made : finish body field ((rowsOf field body).filter readable) (tokenOf body) = body
  full : ∀ text, tokenOf body = some text →
    limit ≤ ((rowsOf field body).filter readable).length

/-- What is made of the end of a refill is settled, whatever it is made from. -/
theorem settled_finish {limit : Nat} {result : List Json × Option String} {field : String}
    (h : Completes readable limit result) (hf : field ≠ tokenField) (response : Json) :
    Settled readable field limit (finish response field result.1 result.2) := by
  by_cases hobject : ∃ members, response = .object members
  · rcases hobject with ⟨members, rfl⟩
    have hrows : (rowsOf field (finish (.object members) field result.1 result.2)).filter readable =
        result.1 := by
      rw [rowsOf_finish hf, List.filter_eq_self]
      exact h.readable
    have htoken : tokenOf (finish (.object members) field result.1 result.2) = result.2 := by
      rw [tokenOf_finish]
      cases hnext : result.2 with
      | none => rfl
      | some text => rw [Option.filter_some, (h.full text hnext).1]; rfl
    refine ⟨?_, ?_⟩
    · rw [hrows, htoken, finish_finish hf]
    · intro text htext
      rw [htoken] at htext
      rw [hrows]
      exact (h.full text htext).2
  · -- What is no object has no rows and no cursor, and none are set.
    have hnot : ∀ members, response ≠ .object members := fun members hsame =>
      hobject ⟨members, hsame⟩
    rw [finish_eq_self hnot]
    refine ⟨finish_eq_self hnot, ?_⟩
    intro text htext
    rw [tokenOf_eq_none hnot] at htext
    exact nomatch htext

/-- A cursor of a response has a text. -/
theorem isEmpty_of_tokenOf {response : Json} {text : String} (h : tokenOf response = some text) :
    text.isEmpty = false := by
  have hkept := (Option.filter_eq_some_iff.1 h).2
  rwa [Bool.not_eq_true'] at hkept

section With

variable {field : String} {limit : Nat} {body : Json}

/-- What narrowing makes of a response is settled, if its refill ends as it should. -/
theorem settled_narrowWith
    {refilling : List Json → String → Action σ (List Json × Option String)}
    (hf : field ≠ tokenField) (hcompletes : ∀ rows text result s s',
      (∀ row ∈ rows, readable row = true) → text.isEmpty = false →
      exec (refilling rows text) s = (.ok result, s') → Completes readable limit result)
    {response : Json} {s s' : σ}
    (h : exec (narrowWith readable field refilling response) s = (.ok body, s')) :
    Settled readable field limit body := by
  have hrows := forall_readable_filter readable (rowsOf field response)
  cases htoken : tokenOf response with
  | none =>
      rw [exec_narrowWith_none htoken] at h
      rw [← Except.ok.inj (Prod.mk.inj h).1]
      exact settled_finish (.ended hrows) hf response
  | some text =>
      -- Where the refill fails there is no body.
      rcases hrefill : exec (refilling ((rowsOf field response).filter readable) text) s with
        ⟨e | result, last⟩
      · rw [exec_narrowWith_some htoken hrefill] at h
        cases (Prod.mk.inj h).1
      · rw [exec_narrowWith_some htoken hrefill] at h
        rw [← Except.ok.inj (Prod.mk.inj h).1]
        have hend := hcompletes _ _ _ _ _ hrows (isEmpty_of_tokenOf htoken) hrefill
        exact settled_finish hend hf response

/-- A settled response is given back, if a refill without room ends where it starts. -/
theorem exec_narrowWith_settled
    {refilling : List Json → String → Action σ (List Json × Option String)}
    (hfull : ∀ rows text s, limit ≤ rows.length →
      exec (refilling rows text) s = (.ok (rows, some text), s))
    (h : Settled readable field limit body) (s : σ) :
    exec (narrowWith readable field refilling body) s = (.ok body, s) := by
  have hmade := h.made
  cases htoken : tokenOf body with
  | none =>
      rw [htoken] at hmade
      rw [exec_narrowWith_none htoken, hmade]
  | some text =>
      rw [htoken] at hmade
      -- A cursor is only left where there is no more room.
      rw [exec_narrowWith_some htoken (hfull _ text s (h.full text htoken))]
      exact congrArg (fun made => (Except.ok made, s)) hmade

end With

/-- What narrowing makes of a response is given back by any search for the same rows. -/
theorem exec_narrow_again {readability : Readability} {field : String} {key : List String}
    {limit : UInt64} {fetch : String → Action σ Page} (hf : field ≠ tokenField)
    {response body : Json} {s s' : σ}
    (h : exec (narrow ⟨field, key, limit, fetch⟩ readability response) s = (.ok body, s'))
    (again : String → Action τ Page) (t : τ) :
    exec (narrow ⟨field, key, limit, again⟩ readability body) t = (.ok body, t) := by
  rw [narrow_eq] at h
  have hsettled : Settled (readableAt key readability) field limit.toNat body := by
    refine settled_narrowWith hf ?_ h
    intro rows text result s s' hrows htext hrefill
    exact (refilled_of_exec hrefill).completes hrows htext
  rw [narrow_eq]
  exact exec_narrowWith_settled (fun _ _ _ hroom => exec_refill_full (Nat.not_lt.2 hroom))
    hsettled t

/-- The same for logged models. -/
theorem exec_loggedModels_again {tracker : Tracker σ} {readability : Readability}
    {query : LoggedModelQuery} {response body : Json} {s s' : σ}
    (h : exec (loggedModels tracker readability query response) s = (.ok body, s'))
    (other : Tracker τ) (t : τ) :
    exec (loggedModels other readability query body) t = (.ok body, t) := by
  rw [loggedModels_eq] at h
  have hsettled : Settled (readableAt ["info", "experiment_id"] readability) "models"
      query.limit.toNat body := by
    refine settled_narrowWith (by decide) ?_ h
    intro rows text result s s' hrows htext hrefill
    exact (refilledModels_of_exec hrefill).completes hrows htext
  rw [loggedModels_eq]
  exact exec_narrowWith_settled (fun _ _ _ hroom => exec_refillModels_full (Nat.not_lt.2 hroom))
    hsettled t

/-- Narrowing twice is narrowing once: whatever response was narrowed with whatever tracker, what
came of it is given back when it is narrowed in the same way with any tracker in any state, and that
tracker is left as it was, so it is not asked at all, not even one that writes down its searches. -/
theorem narrowed_once (tracker : Tracker σ) (readability : Readability) (response body : Json)
    (s s' : σ) :
    (∀ query, exec (experiments tracker readability query response) s = (.ok body, s') →
      ∀ (τ : Type) (other : Tracker τ) (t : τ),
        exec (experiments other readability query body) t = (.ok body, t)) ∧
    (∀ query, exec (models tracker readability query response) s = (.ok body, s') →
      ∀ (τ : Type) (other : Tracker τ) (t : τ),
        exec (models other readability query body) t = (.ok body, t)) ∧
    ∀ query, exec (loggedModels tracker readability query response) s = (.ok body, s') →
      ∀ (τ : Type) (other : Tracker τ) (t : τ),
        exec (loggedModels other readability query body) t = (.ok body, t) := by
  refine ⟨?_, ?_, ?_⟩
  · intro query h τ other t
    exact exec_narrow_again (by decide) h _ t
  · intro query h τ other t
    exact exec_narrow_again (by decide) h _ t
  · intro query h τ other t
    exact exec_loggedModels_again h other t

/-- A hidden experiment is replaced by the one behind it with a search; then no tracker is asked
any more, not even one without resources. -/
theorem narrowed_once_hidden :
    let query : ExperimentQuery := ⟨1, none, [], none⟩
    let readability : Readability := ⟨[("7", false)], true⟩
    let inventory : Inventory := ⟨[("7", "first"), ("8", "second"), ("9", "third")], [], [], []⟩
    let response : Json := .object [("experiments", .array [Inventory.experimentRow ("7", "first")]),
      ("next_page_token", .string (OffsetCursor.encode ⟨1⟩))]
    ∃ body, exec (experiments Memory.tracker readability query response) ⟨inventory, 0⟩ =
        (.ok body, ⟨inventory, 1⟩) ∧
      rowsOf "experiments" body = [Inventory.experimentRow ("8", "second")] ∧
      exec (experiments Memory.tracker readability query body) ⟨.empty, 0⟩ =
        (.ok body, ⟨.empty, 0⟩) := by
  intro query readability inventory response
  have htoken : tokenOf response = some (OffsetCursor.encode ⟨1⟩) := by
    change Option.filter _ (some (OffsetCursor.encode ⟨1⟩)) = _
    rw [Option.filter_some, OffsetCursor.isEmpty_encode]
    rfl
  have hfetch : exec (Memory.tracker.searchExperiments query (some (OffsetCursor.encode ⟨1⟩)))
      ⟨inventory, 0⟩ = (.ok ⟨[Inventory.experimentRow ("8", "second")],
        some (OffsetCursor.encode ⟨2⟩)⟩, ⟨inventory, 1⟩) := by
    change (inventory.searchExperiments query (some (OffsetCursor.encode ⟨1⟩)), _) = _
    rw [Inventory.searchExperiments, Inventory.offsetPage, OffsetCursor.start_encode]
    rfl
  have hoffset : (Place.given (OffsetCursor.encode ⟨1⟩)).offset = .ok 1 :=
    OffsetCursor.start_encode 1
  let search : OffsetSearch Memory := ⟨"experiments", ["experiment_id"], query.limit,
    fun token => Memory.tracker.searchExperiments query (some token)⟩
  -- One search brings the row behind the hidden one, and that is all that was asked for.
  have hrefill : exec (refill search (readableAt ["experiment_id"] readability) []
      (.given (OffsetCursor.encode ⟨1⟩))) ⟨inventory, 0⟩ =
      (.ok ([Inventory.experimentRow ("8", "second")], some (OffsetCursor.encode ⟨2⟩)),
        ⟨inventory, 1⟩) := by
    rw [exec_refill_more (by decide) hfetch (List.cons_ne_nil _ _) rfl, hoffset]
    exact exec_refill_full (by decide)
  have hnarrowed : exec (experiments Memory.tracker readability query response) ⟨inventory, 0⟩ = _ :=
    exec_narrow_some htoken hrefill
  refine ⟨_, hnarrowed, rowsOf_finish (by decide), ?_⟩
  exact (narrowed_once Memory.tracker readability response _ _ _).1 query hnarrowed _ _ _

end Narrowing

end Gatehouse
