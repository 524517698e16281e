import Gatehouse.Narrowing
import Gatehouse.Proofs.Action

/-!
# Rounds of a refill

What one round of each refill does, from the page that its search brings. The statements
about whole refills are inductions over these rounds, on how far the place is from the end
of all offsets. A refill that succeeds is told as the rounds that it consists of, so that what
holds of all of these is proved by induction on them alone.

## Main definitions

* `Narrowing.narrowWith`: Both kinds of narrowing, the refill left open.
* `Narrowing.Refilled`, `Narrowing.RefilledModels`: The rounds of a refill that succeeds.

## Theorems

* `Narrowing.exec_refill_full`, `Narrowing.exec_refill_error`, `Narrowing.exec_refill_empty`,
  `Narrowing.exec_refill_more`: A round of the refill with offset cursors.
* `Narrowing.fillRoom_none`, `Narrowing.fillRoom_some`: A room that is filled from a page
  holds the readable rows among those that were looked at.
* `Narrowing.exec_refillModels_full`, `Narrowing.exec_refillModels_error`,
  `Narrowing.exec_refillModels_open`, `Narrowing.exec_refillModels_filled`: A round of the
  refill of logged models.
* `Narrowing.exec_narrowWith_none`, `Narrowing.exec_narrowWith_some`: A narrowing is one refill, or
  none where the response has no cursor.
* `Narrowing.narrow_eq`, `Narrowing.loggedModels_eq`: Both narrowings are of this kind.
* `Narrowing.refilled_of_exec`, `Narrowing.refilledModels_of_exec`: A refill that succeeds consists
  of such rounds.
-/

namespace Gatehouse

namespace Narrowing

open Gatehouse.Action

variable {σ : Type} {readable : Json → Bool} {rows : List Json} {place : Place} {s s' : σ}

/-- A response narrowed to readable rows, with whatever refill goes on from its cursor. -/
def narrowWith (readable : Json → Bool) (field : String)
    (refilling : List Json → String → Action σ (List Json × Option String))
    (response : Json) : Action σ Json := do
  let rows := (rowsOf field response).filter readable
  let (rows, token) ← match tokenOf response with
    | some token => refilling rows token
    | none => pure (rows, none)
  pure (finish response field rows token)

section With

variable {field : String} {refilling : List Json → String → Action σ (List Json × Option String)}
  {response : Json}

theorem exec_narrowWith_none (ht : tokenOf response = none) :
    exec (narrowWith readable field refilling response) s =
      (.ok (finish response field ((rowsOf field response).filter readable) none), s) := by
  rw [narrowWith, ht]
  rfl

/-- Narrowing of a response with a cursor is one refill from there. -/
theorem exec_narrowWith_some {token : String}
    {refilled : Except Error (List Json × Option String) × σ} (ht : tokenOf response = some token)
    (hr : exec (refilling ((rowsOf field response).filter readable) token) s = refilled) :
    exec (narrowWith readable field refilling response) s =
      (refilled.1.map fun result => finish response field result.1 result.2, refilled.2) := by
  rw [narrowWith, ht, ← hr]
  exact exec_bind_pure _ (fun result : List Json × Option String =>
    finish response field result.1 result.2) s

end With

theorem narrow_eq (search : OffsetSearch σ) (readability : Readability) :
    narrow search readability = narrowWith (readableAt search.key readability) search.field
      fun rows token => refill search (readableAt search.key readability) rows (.given token) := rfl

theorem loggedModels_eq (tracker : Tracker σ) (readability : Readability)
    (query : LoggedModelQuery) : loggedModels tracker readability query =
      narrowWith (readableAt ["info", "experiment_id"] readability) "models"
        fun rows token => refillModels tracker query
          (readableAt ["info", "experiment_id"] readability) rows (.given token) := rfl

section Offset

variable {search : OffsetSearch σ}

theorem exec_refill_full (h : ¬ rows.length < search.limit.toNat) :
    exec (refill search readable rows place) s = (.ok (rows, some place.text), s) := by
  rw [refill, if_neg h]
  rfl

theorem exec_refill_error {e : Error} (h : rows.length < search.limit.toNat)
    (hf : exec (search.fetch place.text) s = (.error e, s')) :
    exec (refill search readable rows place) s = (.error e, s') := by
  rw [refill, if_pos h]
  exact exec_bind_error hf

theorem exec_refill_empty {page : Page} (h : rows.length < search.limit.toNat)
    (hf : exec (search.fetch place.text) s = (.ok page, s')) (he : page.items = []) :
    exec (refill search readable rows place) s = (.ok (rows, none), s') := by
  rw [refill, if_pos h, exec_bind_ok hf]
  have hb : ¬ 0 < (page.items.take (search.limit.toNat - rows.length)).length := by
    rw [he, List.take_nil]
    exact Nat.lt_irrefl 0
  simp only [dif_neg hb]
  rfl

/-- A round that brings rows: the refill goes on behind them, unless the cursor that was
followed is none or the offset behind them is out of range. -/
theorem exec_refill_more {page : Page} {batch : List Json}
    (h : rows.length < search.limit.toNat)
    (hf : exec (search.fetch place.text) s = (.ok page, s')) (hne : page.items ≠ [])
    (hbatch : batch = page.items.take (search.limit.toNat - rows.length)) :
    exec (refill search readable rows place) s =
      match place.offset with
      | .error e => (.error e, s')
      | .ok start =>
        if start.toNat + batch.length < UInt64.size then
          exec (refill search readable (rows ++ batch.filter readable)
            (.known (UInt64.ofNat (start.toNat + batch.length)))) s'
        else (.error (.fault .offset), s') := by
  subst hbatch
  rw [refill, if_pos h, exec_bind_ok hf]
  -- There is room and there are rows, so at least one row is taken.
  have hb : 0 < (page.items.take (search.limit.toNat - rows.length)).length := by
    rw [List.length_take]
    have := List.length_pos_iff.2 hne
    omega
  simp only [dif_pos hb]
  split
  · next e hs => rw [hs]; rfl
  · next start hs =>
    rw [hs]
    simp only []
    split
    · rfl
    · rfl

theorem exec_narrow_none {readability : Readability} {response : Json}
    (ht : tokenOf response = none) :
    exec (narrow search readability response) s =
      (.ok (finish response search.field
        ((rowsOf search.field response).filter (readableAt search.key readability)) none), s) := by
  rw [narrow_eq]
  exact exec_narrowWith_none ht

theorem exec_narrow_some {readability : Readability} {response : Json} {token : String}
    {refilled : Except Error (List Json × Option String) × σ}
    (ht : tokenOf response = some token)
    (hr : exec (refill search (readableAt search.key readability)
      ((rowsOf search.field response).filter (readableAt search.key readability))
      (.given token)) s = refilled) :
    exec (narrow search readability response) s =
      (refilled.1.map fun result => finish response search.field result.1 result.2,
        refilled.2) := by
  rw [narrow_eq]
  exact exec_narrowWith_some ht hr

end Offset

/-- A room that is not filled takes all readable rows. -/
theorem fillRoom_none {room : Nat} {items more : List Json} (hroom : 0 < room)
    (h : fillRoom readable room items = (more, none)) :
    more = items.filter readable ∧ more.length < room := by
  induction items generalizing room more with
  | nil =>
      obtain ⟨rfl, -⟩ := Prod.mk.inj h
      exact ⟨rfl, hroom⟩
  | cons row rest ih =>
      simp only [fillRoom] at h
      by_cases hrow : readable row = true
      · rw [if_pos hrow] at h
        by_cases hlast : room ≤ 1
        · rw [if_pos hlast] at h
          simp only [Prod.mk.injEq, reduceCtorEq, and_false] at h
        · rw [if_neg hlast] at h
          obtain ⟨rfl, hseen⟩ := Prod.mk.inj h
          -- Had the rest been filled, the whole room would have been.
          have hrest : fillRoom readable (room - 1) rest =
              ((fillRoom readable (room - 1) rest).1, none) :=
            Prod.ext rfl (Option.map_eq_none_iff.1 hseen)
          obtain ⟨hfilter, hlength⟩ := ih (by omega) hrest
          refine ⟨by rw [List.filter_cons_of_pos hrow, ← hfilter], ?_⟩
          rw [List.length_cons]
          omega
      · rw [if_neg hrow] at h
        obtain ⟨rfl, hseen⟩ := Prod.mk.inj h
        -- A hidden row leaves the room as it is.
        have hrest : fillRoom readable room rest = ((fillRoom readable room rest).1, none) :=
          Prod.ext rfl (Option.map_eq_none_iff.1 hseen)
        rw [List.filter_cons_of_neg hrow]
        exact ih hroom hrest

/-- A room that is filled takes the readable rows among those that were looked at. -/
theorem fillRoom_some {room seen : Nat} {items more : List Json} (hroom : 0 < room)
    (h : fillRoom readable room items = (more, some seen)) :
    0 < seen ∧ seen ≤ items.length ∧ more = (items.take seen).filter readable ∧
      more.length = room := by
  induction items generalizing room more seen with
  | nil => simp only [fillRoom, Prod.mk.injEq, reduceCtorEq, and_false] at h
  | cons row rest ih =>
      simp only [fillRoom] at h
      by_cases hrow : readable row = true
      · rw [if_pos hrow] at h
        by_cases hlast : room ≤ 1
        · rw [if_pos hlast] at h
          -- This row fills the room, and it is the only one that was looked at.
          obtain ⟨rfl, hseen⟩ := Prod.mk.inj h
          obtain rfl : 1 = seen := Option.some.inj hseen
          refine ⟨Nat.one_pos, by rw [List.length_cons]; omega, ?_, ?_⟩
          · rw [List.take_succ_cons, List.take_zero, List.filter_cons_of_pos hrow,
              List.filter_nil]
          · rw [List.length_singleton]
            omega
        · rw [if_neg hlast] at h
          obtain ⟨rfl, hseen⟩ := Prod.mk.inj h
          obtain ⟨before, hbefore, rfl⟩ := Option.map_eq_some_iff.1 hseen
          -- One row fewer has been looked at in the rest.
          have hrest : fillRoom readable (room - 1) rest =
              ((fillRoom readable (room - 1) rest).1, some before) := Prod.ext rfl hbefore
          obtain ⟨-, hle, hfilter, hlength⟩ := ih (by omega) hrest
          refine ⟨Nat.succ_pos _, by rw [List.length_cons]; omega, ?_, ?_⟩
          · rw [List.take_succ_cons, List.filter_cons_of_pos hrow, ← hfilter]
          · rw [List.length_cons]
            omega
      · rw [if_neg hrow] at h
        obtain ⟨rfl, hseen⟩ := Prod.mk.inj h
        obtain ⟨before, hbefore, rfl⟩ := Option.map_eq_some_iff.1 hseen
        -- A hidden row was looked at as well, but takes no room.
        have hrest : fillRoom readable room rest =
            ((fillRoom readable room rest).1, some before) := Prod.ext rfl hbefore
        obtain ⟨-, hle, hfilter, hlength⟩ := ih hroom hrest
        refine ⟨Nat.succ_pos _, by rw [List.length_cons]; omega, ?_, hlength⟩
        rw [List.take_succ_cons, List.filter_cons_of_neg hrow]
        exact hfilter

section Models

variable {tracker : Tracker σ} {query : LoggedModelQuery}

theorem exec_refillModels_full (h : ¬ rows.length < query.limit.toNat) :
    exec (refillModels tracker query readable rows place) s =
      (.ok (rows, some (place.modelsText query)), s) := by
  rw [refillModels, dif_neg h]
  rfl

theorem exec_refillModels_error {e : Error} (h : rows.length < query.limit.toNat)
    (hf : exec (tracker.searchLoggedModels query (some (place.modelsText query))) s =
      (.error e, s')) :
    exec (refillModels tracker query readable rows place) s = (.error e, s') := by
  rw [refillModels, dif_pos h]
  exact exec_bind_error hf

/-- A round that brings a page: the room is filled from it, or the refill goes on, unless the
page is the last one, the cursor that was followed is none, or the next offset is out of
range. -/
theorem exec_refillModels_page {page : Page} (h : rows.length < query.limit.toNat)
    (hf : exec (tracker.searchLoggedModels query (some (place.modelsText query))) s =
      (.ok page, s')) :
    exec (refillModels tracker query readable rows place) s =
      match place.modelsOffset with
      | .error e => (.error e, s')
      | .ok start =>
        match fillRoom readable (query.limit.toNat - rows.length) page.items with
        | (more, some seen) =>
          if page.next.isNone && seen == page.items.length then (.ok (rows ++ more, none), s')
          else
            match further start seen with
            | .error e => (.error e, s')
            | .ok next => (.ok (rows ++ more, some (next.modelsText query)), s')
        | (more, none) =>
          if page.next.isNone then (.ok (rows ++ more, none), s')
          else
            match further start query.limit.toNat with
            | .error e => (.error e, s')
            | .ok next => exec (refillModels tracker query readable (rows ++ more) next) s' := by
  rw [refillModels, dif_pos h, exec_bind_ok hf]
  split
  · next e hs => rw [hs]; rfl
  · next start hs =>
    rw [hs]
    simp only []
    -- What is left is decided by the room, and then by whether another page follows.
    rcases hfill : fillRoom readable (query.limit.toNat - rows.length) page.items with
      ⟨more, _ | seen⟩
    · simp only []
      by_cases hlast : page.next.isNone = true
      · rw [if_pos hlast, if_pos hlast]
        rfl
      · rw [if_neg hlast, if_neg hlast]
        split
        · next e hn => rw [hn]; rfl
        · next next hn => rw [hn]
    · simp only []
      by_cases hlast : (page.next.isNone && seen == page.items.length) = true
      · rw [if_pos hlast, if_pos hlast]
        rfl
      · rw [if_neg hlast, if_neg hlast]
        cases hn : further start seen with
        | error e => exact exec_bind_error rfl
        | ok next => rw [exec_bind_ok (exec_of _ _)]; rfl

/-- A page that nothing can be done with, since it is not known where the search started. -/
theorem exec_refillModels_lost {page : Page} {e : Error} (h : rows.length < query.limit.toNat)
    (hf : exec (tracker.searchLoggedModels query (some (place.modelsText query))) s =
      (.ok page, s')) (hs : place.modelsOffset = .error e) :
    exec (refillModels tracker query readable rows place) s = (.error e, s') := by
  rw [exec_refillModels_page h hf, hs]

/-- A page that does not fill the room. -/
theorem exec_refillModels_open {page : Page} {start : UInt64} {more : List Json}
    (h : rows.length < query.limit.toNat)
    (hf : exec (tracker.searchLoggedModels query (some (place.modelsText query))) s =
      (.ok page, s')) (hs : place.modelsOffset = .ok start)
    (hfill : fillRoom readable (query.limit.toNat - rows.length) page.items = (more, none)) :
    exec (refillModels tracker query readable rows place) s =
      if page.next.isNone then (.ok (rows ++ more, none), s')
      else
        match further start query.limit.toNat with
        | .error e => (.error e, s')
        | .ok next => exec (refillModels tracker query readable (rows ++ more) next) s' := by
  rw [exec_refillModels_page h hf, hs]
  simp only []
  rw [hfill]

/-- A page that fills the room. -/
theorem exec_refillModels_filled {page : Page} {start : UInt64} {more : List Json} {seen : Nat}
    (h : rows.length < query.limit.toNat)
    (hf : exec (tracker.searchLoggedModels query (some (place.modelsText query))) s =
      (.ok page, s')) (hs : place.modelsOffset = .ok start)
    (hfill : fillRoom readable (query.limit.toNat - rows.length) page.items =
      (more, some seen)) :
    exec (refillModels tracker query readable rows place) s =
      if page.next.isNone && seen == page.items.length then (.ok (rows ++ more, none), s')
      else
        match further start seen with
        | .error e => (.error e, s')
        | .ok next => (.ok (rows ++ more, some (next.modelsText query)), s') := by
  rw [exec_refillModels_page h hf, hs]
  simp only []
  rw [hfill]

theorem exec_loggedModels_none {readability : Readability} {response : Json}
    (ht : tokenOf response = none) :
    exec (loggedModels tracker readability query response) s =
      (.ok (finish response "models" ((rowsOf "models" response).filter
        (readableAt ["info", "experiment_id"] readability)) none), s) := by
  rw [loggedModels_eq]
  exact exec_narrowWith_none ht

theorem exec_loggedModels_some {readability : Readability} {response : Json} {token : String}
    {refilled : Except Error (List Json × Option String) × σ}
    (ht : tokenOf response = some token)
    (hr : exec (refillModels tracker query (readableAt ["info", "experiment_id"] readability)
      ((rowsOf "models" response).filter (readableAt ["info", "experiment_id"] readability))
      (.given token)) s = refilled) :
    exec (loggedModels tracker readability query response) s =
      (refilled.1.map fun result => finish response "models" result.1 result.2,
        refilled.2) := by
  rw [loggedModels_eq]
  exact exec_narrowWith_some ht hr

end Models

/-- The rounds of a refill that succeeds: there is no room, a search brings nothing, or it brings
rows and the refill goes on behind them. -/
inductive Refilled (search : OffsetSearch σ) (readable : Json → Bool) :
    List Json → Place → σ → List Json × Option String → σ → Prop
  | full {rows : List Json} {place : Place} {s : σ} (hfull : ¬ rows.length < search.limit.toNat) :
      Refilled search readable rows place s (rows, some place.text) s
  | empty {rows : List Json} {place : Place} {s s' : σ} {page : Page}
      (hroom : rows.length < search.limit.toNat)
      (hfetch : exec (search.fetch place.text) s = (.ok page, s')) (hempty : page.items = []) :
      Refilled search readable rows place s (rows, none) s'
  | more {rows batch : List Json} {place : Place} {s s' last : σ} {page : Page} {start : UInt64}
      {result : List Json × Option String} (hroom : rows.length < search.limit.toNat)
      (hfetch : exec (search.fetch place.text) s = (.ok page, s')) (hsome : page.items ≠ [])
      (hbatch : batch = page.items.take (search.limit.toNat - rows.length))
      (hstart : place.offset = .ok start) (hfits : start.toNat + batch.length < UInt64.size)
      (hrest : Refilled search readable (rows ++ batch.filter readable)
        (.known (UInt64.ofNat (start.toNat + batch.length))) s' result last) :
      Refilled search readable rows place s result last

/-- A refill that succeeds consists of such rounds. -/
theorem refilled_of_exec {search : OffsetSearch σ} {result : List Json × Option String}
    (h : exec (refill search readable rows place) s = (.ok result, s')) :
    Refilled search readable rows place s result s' := by
  induction hn : place.ahead using Nat.strongRecOn generalizing rows place s with
  | _ n ih =>
    by_cases hroom : rows.length < search.limit.toNat
    · rcases hfetch : exec (search.fetch place.text) s with ⟨e | page, middle⟩
      · rw [exec_refill_error hroom hfetch] at h
        exact nomatch (Prod.mk.inj h).1
      · by_cases hempty : page.items = []
        · rw [exec_refill_empty hroom hfetch hempty] at h
          obtain ⟨hresult, rfl⟩ := Prod.mk.inj h
          rw [← Except.ok.inj hresult]
          exact .empty hroom hfetch hempty
        · obtain ⟨batch, hbatch⟩ :
            ∃ batch, batch = page.items.take (search.limit.toNat - rows.length) := ⟨_, rfl⟩
          rw [exec_refill_more hroom hfetch hempty hbatch] at h
          cases hstart : place.offset with
          | error e =>
              rw [hstart] at h
              exact nomatch (Prod.mk.inj h).1
          | ok start =>
              rw [hstart] at h
              dsimp only at h
              split at h
              · next hfits =>
                -- At least one row was taken, so the place moves on.
                have hpos : 0 < batch.length := by
                  rw [hbatch, List.length_take]
                  have := List.length_pos_iff.2 hempty
                  omega
                exact .more hroom hfetch hempty hbatch hstart hfits
                  (ih _ (hn ▸ Place.ahead_lt hstart hpos hfits) h rfl)
              · exact nomatch (Prod.mk.inj h).1
    · rw [exec_refill_full hroom] at h
      obtain ⟨hresult, rfl⟩ := Prod.mk.inj h
      rw [← Except.ok.inj hresult]
      exact .full hroom

/-- The rounds of a refill of logged models that succeeds: there is no room, a page is the last one
and all of it was looked at, a page fills the room, or the refill goes on behind a page. -/
inductive RefilledModels (tracker : Tracker σ) (query : LoggedModelQuery)
    (readable : Json → Bool) :
    List Json → Place → σ → List Json × Option String → σ → Prop
  | full {rows : List Json} {place : Place} {s : σ} (hfull : ¬ rows.length < query.limit.toNat) :
      RefilledModels tracker query readable rows place s (rows, some (place.modelsText query)) s
  | ended {rows more : List Json} {place : Place} {s s' : σ} {page : Page} {start : UInt64}
      {seen : Option Nat} (hroom : rows.length < query.limit.toNat)
      (hfetch : exec (tracker.searchLoggedModels query (some (place.modelsText query))) s =
        (.ok page, s')) (hstart : place.modelsOffset = .ok start)
      (hfill : fillRoom readable (query.limit.toNat - rows.length) page.items = (more, seen))
      (hlast : page.next.isNone = true) (hseen : ∀ n, seen = some n → n = page.items.length) :
      RefilledModels tracker query readable rows place s (rows ++ more, none) s'
  | filled {rows more : List Json} {place next : Place} {s s' : σ} {page : Page} {start : UInt64}
      {seen : Nat} (hroom : rows.length < query.limit.toNat)
      (hfetch : exec (tracker.searchLoggedModels query (some (place.modelsText query))) s =
        (.ok page, s')) (hstart : place.modelsOffset = .ok start)
      (hfill : fillRoom readable (query.limit.toNat - rows.length) page.items = (more, some seen))
      (hopen : ¬ (page.next.isNone && seen == page.items.length) = true)
      (hnext : further start seen = .ok next) :
      RefilledModels tracker query readable rows place s
        (rows ++ more, some (next.modelsText query)) s'
  | more {rows more : List Json} {place next : Place} {s s' last : σ} {page : Page}
      {start : UInt64} {result : List Json × Option String}
      (hroom : rows.length < query.limit.toNat)
      (hfetch : exec (tracker.searchLoggedModels query (some (place.modelsText query))) s =
        (.ok page, s')) (hstart : place.modelsOffset = .ok start)
      (hfill : fillRoom readable (query.limit.toNat - rows.length) page.items = (more, none))
      (hopen : ¬ page.next.isNone = true) (hnext : further start query.limit.toNat = .ok next)
      (hrest : RefilledModels tracker query readable (rows ++ more) next s' result last) :
      RefilledModels tracker query readable rows place s result last

/-- A refill of logged models that succeeds consists of such rounds. -/
theorem refilledModels_of_exec {tracker : Tracker σ} {query : LoggedModelQuery}
    {result : List Json × Option String}
    (h : exec (refillModels tracker query readable rows place) s = (.ok result, s')) :
    RefilledModels tracker query readable rows place s result s' := by
  -- The induction is on the offsets ahead: a refill that goes on has fewer of them.
  induction hn : place.ahead using Nat.strongRecOn generalizing rows place s with
  | _ n ih =>
    by_cases hroom : rows.length < query.limit.toNat
    · rcases hfetch : exec (tracker.searchLoggedModels query (some (place.modelsText query))) s
        with ⟨e | page, middle⟩
      · rw [exec_refillModels_error hroom hfetch] at h
        exact nomatch (Prod.mk.inj h).1
      · cases hstart : place.modelsOffset with
        | error e =>
            rw [exec_refillModels_lost hroom hfetch hstart] at h
            exact nomatch (Prod.mk.inj h).1
        | ok start =>
            rcases hfill : fillRoom readable (query.limit.toNat - rows.length) page.items with
              ⟨more, _ | seen⟩
            · rw [exec_refillModels_open hroom hfetch hstart hfill] at h
              by_cases hlast : page.next.isNone = true
              · rw [if_pos hlast] at h
                obtain ⟨hresult, rfl⟩ := Prod.mk.inj h
                rw [← Except.ok.inj hresult]
                exact .ended hroom hfetch hstart hfill hlast fun _ hsome => nomatch hsome
              · rw [if_neg hlast] at h
                cases hnext : further start query.limit.toNat with
                | error e =>
                    rw [hnext] at h
                    exact nomatch (Prod.mk.inj h).1
                | ok next =>
                    rw [hnext] at h
                    exact .more hroom hfetch hstart hfill hlast hnext
                      (ih _ (hn ▸ ahead_further hstart (by omega) hnext) h rfl)
            · rw [exec_refillModels_filled hroom hfetch hstart hfill] at h
              by_cases hlast : (page.next.isNone && seen == page.items.length) = true
              · rw [if_pos hlast] at h
                rw [Bool.and_eq_true, beq_iff_eq] at hlast
                obtain ⟨hresult, rfl⟩ := Prod.mk.inj h
                rw [← Except.ok.inj hresult]
                exact .ended hroom hfetch hstart hfill hlast.1 fun _ hsome =>
                  Option.some.inj hsome ▸ hlast.2
              · rw [if_neg hlast] at h
                cases hnext : further start seen with
                | error e =>
                    rw [hnext] at h
                    exact nomatch (Prod.mk.inj h).1
                | ok next =>
                    rw [hnext] at h
                    obtain ⟨hresult, rfl⟩ := Prod.mk.inj h
                    rw [← Except.ok.inj hresult]
                    exact .filled hroom hfetch hstart hfill hlast hnext
    · rw [exec_refillModels_full hroom] at h
      obtain ⟨hresult, rfl⟩ := Prod.mk.inj h
      rw [← Except.ok.inj hresult]
      exact .full hroom

end Narrowing

end Gatehouse
