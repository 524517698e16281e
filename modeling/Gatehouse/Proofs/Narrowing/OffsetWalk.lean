import Gatehouse.Proofs.Narrowing.Refill
import Gatehouse.Proofs.Narrowing.Walk
import Gatehouse.Proofs.Tracker.Memory

/-!
# Walks with offset cursors

A client that walks along the narrowed pages of experiments or registered models gets every
readable row once and in order, however short the tracker cuts its pages. What carries the
walk is that a refill hands out the place right behind the last row that it looked at: its
rows are the readable ones between the place where it started and that place.

## Main definitions

* `Narrowing.Place.At`: A place that stands for an offset.
* `Narrowing.Reaches`: A result that has used up the rows between two offsets.

## Theorems

* `Narrowing.refill_reaches`: Where a refill ends.
* `Narrowing.narrow_reaches`: Where a narrowed page ends.
* `Narrowing.walk_paged`: A whole walk.
-/

namespace Gatehouse

namespace Narrowing

open Gatehouse.Action

/-- A place that stands for an offset. -/
structure Place.At (place : Place) (offset : Nat) : Prop where
  text_eq : place.text = offsetText offset
  offset_eq : place.offset = .ok (UInt64.ofNat offset)

theorem Place.at_given (offset : Nat) : (given (offsetText offset)).At offset where
  text_eq := rfl
  offset_eq := by rw [Place.offset, offsetText, OffsetCursor.start_encode]

theorem Place.at_known (offset : Nat) : (known (UInt64.ofNat offset)).At offset := ⟨rfl, rfl⟩

/-- A result that holds the readable rows between two offsets behind those there were: full,
with the cursor of the second offset, or complete. -/
structure Reaches (readable : Json → Bool) (limit : Nat) (all : List Json) (start stop : Nat)
    (before : List Json) (result : List Json × Option String) : Prop where
  forward : start ≤ stop
  fits : stop ≤ all.length
  rows : result.1 = before ++ ((all.drop start).take (stop - start)).filter readable
  ends : result.2 = some (offsetText stop) ∧ result.1.length = limit ∨
    result.2 = none ∧ stop = all.length ∧ result.1.length ≤ limit

section Refill

variable {readable : Json → Bool} {limit : Nat} {all before : List Json} {start middle : Nat}

/-- Rows that were looked at in two goes. -/
theorem Reaches.trans {stop : Nat} {batch : List Json} {result : List Json × Option String}
    (hle : start ≤ middle) (hbatch : (all.drop start).take (middle - start) = batch)
    (h : Reaches readable limit all middle stop (before ++ batch.filter readable) result) :
    Reaches readable limit all start stop before result := by
  have hforward := h.forward
  refine ⟨by omega, h.fits, ?_, h.ends⟩
  -- The rows up to the middle and those behind it are the rows up to the end.
  have hsplit := slice_append all hle hforward
  rw [slice, hbatch] at hsplit
  rw [h.rows, List.append_assoc, ← slice, ← List.filter_append, hsplit, slice]

variable {σ : Type} {search : OffsetSearch σ} {find : Option String → Action σ Page}
  {holds : σ → Prop}

theorem refill_reaches (hfind : ∀ token, search.fetch token = find (some token))
    (h : Honours find offsetText search.limit.toNat all holds) {place : Place}
    (hat : place.At start) (hstart : start ≤ all.length)
    (hbefore : before.length ≤ search.limit.toNat) {s : σ} (hs : holds s) :
    ∃ result stop s', exec (refill search readable before place) s = (.ok result, s') ∧
      holds s' ∧ Reaches readable search.limit.toNat all start stop before result := by
  -- The induction is on the rows that are left: each round looks at one of them or more.
  induction hn : all.length - start using Nat.strongRecOn generalizing before place start s with
  | _ n ih =>
    have hlt : start < UInt64.size := Nat.lt_of_le_of_lt hstart h.fits
    by_cases hroom : before.length < search.limit.toNat
    · obtain ⟨page, s', hf, hs', hserves⟩ :=
        h.serves s (some place.text) start hs hlt (.inr (congrArg some hat.text_eq))
      rw [← hfind] at hf
      cases hserves with
      | past hpast hitems =>
          -- No rows are left, and none are looked at.
          refine ⟨(before, none), start, s', exec_refill_empty hroom hf hitems, hs', ?_⟩
          refine ⟨Nat.le_refl _, hstart, ?_, .inr ⟨rfl, by omega, hbefore⟩⟩
          rw [Nat.sub_self, List.take_zero, List.filter_nil, List.append_nil]
      | part count hpos hlimit hfit hitems =>
          obtain ⟨batch, hbatch⟩ : ∃ batch, batch =
            ((all.drop start).take count).take (search.limit.toNat - before.length) := ⟨_, rfl⟩
          have hlength : batch.length = min (search.limit.toNat - before.length) count := by
            rw [hbatch, List.length_take, List.length_take, List.length_drop]
            omega
          have hne : page.items ≠ [] := by
            rw [hitems, ← List.length_pos_iff, List.length_take, List.length_drop]
            omega
          -- The batch is not empty, and its end is no further than the last row.
          have hround : exec (refill search readable before place) s = _ :=
            exec_refill_more hroom hf hne (hitems ▸ hbatch)
          have hword : (UInt64.ofNat start).toNat = start := UInt64.toNat_ofNat_of_lt' hlt
          have hfits := h.fits
          rw [hat.offset_eq] at hround
          simp only [hword] at hround
          rw [if_pos (by omega)] at hround
          -- The refill goes on right behind the batch, with the room that is left.
          have hkept : (before ++ batch.filter readable).length ≤ search.limit.toNat := by
            have := List.length_filter_le readable batch
            rw [List.length_append]
            omega
          obtain ⟨result, stop, s'', hrun, hs'', hreach⟩ :=
            ih (all.length - (start + batch.length)) (by omega)
              (Place.at_known (start + batch.length)) (by omega) hkept hs' rfl
          have htaken : (all.drop start).take (start + batch.length - start) = batch := by
            rw [Nat.add_sub_cancel_left, hlength, hbatch, List.take_take]
          exact ⟨result, stop, s'', hround.trans hrun, hs'',
            hreach.trans (Nat.le_add_right _ _) htaken⟩
    · -- There was no room, so no search was made.
      have hlength : before.length = search.limit.toNat := by omega
      refine ⟨(before, some place.text), start, s, exec_refill_full hroom, hs, ?_⟩
      refine ⟨Nat.le_refl _, hstart, ?_, .inl ⟨by rw [hat.text_eq], hlength⟩⟩
      rw [Nat.sub_self, List.take_zero, List.filter_nil, List.append_nil]

/-- A finished response says where it ends. -/
theorem Reaches.tokenOf_finish {stop : Nat} {result : List Json × Option String}
    (h : Reaches readable limit all start stop before result) (field : String)
    (members : List (String × Json)) :
    tokenOf (finish (.object members) field result.1 result.2) = result.2 := by
  rw [Narrowing.tokenOf_finish]
  rcases h.ends with ⟨hnext, -⟩ | ⟨hnext, -⟩
  · rw [hnext, Option.filter, isEmpty_offsetText]
    rfl
  · rw [hnext]
    rfl

/-- One page of a walk: the rows from an offset on, narrowed, and the offset behind them. -/
theorem narrow_reaches (hfind : ∀ token, search.fetch token = find (some token))
    (hf : search.field ≠ tokenField)
    (h : Honours find offsetText search.limit.toNat all holds)
    {answer : Page → Json} (hanswer : ∀ page, Carries search.field page (answer page))
    {token : Option String} (hat : CursorAt offsetText token start)
    (hstart : start ≤ all.length) (readability : Readability) {s : σ} (hs : holds s) :
    ∃ page response result stop s' s'', exec (find token) s = (.ok page, s') ∧
      exec (narrow search readability (answer page)) s' = (.ok response, s'') ∧ holds s'' ∧
      rowsOf search.field response = result.1 ∧ tokenOf response = result.2 ∧
      Reaches (readableAt search.key readability) search.limit.toNat all start stop [] result ∧
      (result.2.isSome → start < stop) := by
  have hlt : start < UInt64.size := Nat.lt_of_le_of_lt hstart h.fits
  obtain ⟨page, s', hpage, hs', hserves⟩ := h.serves s token start hs hlt hat
  obtain ⟨members, hobject, hrows, htoken⟩ := hanswer page
  -- What is left to show is where the page ends that the narrowing makes of it.
  suffices hend : ∃ result stop s'', exec (narrow search readability (answer page)) s' =
        (.ok (finish (answer page) search.field result.1 result.2), s'') ∧ holds s'' ∧
      Reaches (readableAt search.key readability) search.limit.toNat all start stop [] result ∧
      (result.2.isSome → start < stop) by
    obtain ⟨result, stop, s'', hrun, hs'', hreach, hmoved⟩ := hend
    refine ⟨page, _, result, stop, s', s'', hpage, hrun, hs'', ?_, ?_, hreach, hmoved⟩
    · rw [hobject, rowsOf_finish hf]
    · rw [hobject, hreach.tokenOf_finish]
  cases hserves with
  | past hpast hitems hnext =>
      -- The client came to the end before: its page is empty and stays so.
      rw [hnext] at htoken
      refine ⟨([], none), start, s', ?_, hs', ?_, fun hsome => nomatch hsome⟩
      · rw [exec_narrow_none htoken, hrows, hitems]
        rfl
      · refine ⟨Nat.le_refl _, hstart, ?_, .inr ⟨rfl, by omega, Nat.zero_le _⟩⟩
        rw [Nat.sub_self]
        rfl
  | part count hpos hlimit hfit hitems hnext =>
      have htaken : (all.drop start).take (start + count - start) = page.items := by
        rw [Nat.add_sub_cancel_left, hitems]
      have hkept : (page.items.filter (readableAt search.key readability)).length ≤
          search.limit.toNat := by
        refine Nat.le_trans (List.length_filter_le _ _) (Nat.le_trans ?_ hlimit)
        rw [hitems]
        exact List.length_take_le _ _
      by_cases hmore : start + count < all.length
      · -- The refill starts right behind the page, with the rows that were kept of it.
        rw [hnext, if_pos hmore, Option.filter, isEmpty_offsetText] at htoken
        obtain ⟨result, stop, s'', hrun, hs'', hreach⟩ :=
          refill_reaches hfind h (Place.at_given (start + count)) hfit hkept hs'
        refine ⟨result, stop, s'', ?_, hs'', ?_, fun _ => ?_⟩
        · rw [← hrows] at hrun
          exact exec_narrow_some htoken hrun
        · exact hreach.trans (Nat.le_add_right _ _) htaken
        · have := hreach.forward
          omega
      · -- It was the last page, and nothing is searched for.
        rw [hnext, if_neg hmore] at htoken
        refine ⟨(page.items.filter (readableAt search.key readability), none), start + count,
          s', ?_, hs', ?_, fun hsome => nomatch hsome⟩
        · rw [exec_narrow_none htoken, hrows]
        · refine ⟨Nat.le_add_right _ _, hfit, ?_, .inr ⟨rfl, by omega, hkept⟩⟩
          rw [htaken]
          rfl

/-- A walk from an offset on. Every page but the last one gets further, so there are not more
pages than rows and one. -/
theorem walk_paged (hfind : ∀ token, search.fetch token = find (some token))
    (hf : search.field ≠ tokenField)
    (h : Honours find offsetText search.limit.toNat all holds)
    {answer : Page → Json} (hanswer : ∀ page, Carries search.field page (answer page))
    (readability : Readability) {rounds : Nat} (hrounds : all.length - start < rounds)
    {token : Option String} (hat : CursorAt offsetText token start)
    (hstart : start ≤ all.length) {s : σ} (hs : holds s) :
    ∃ pages s', exec (walk find answer (narrow search readability) search.field rounds token) s =
        (.ok (some pages), s') ∧
      Paged search.limit.toNat ((all.drop start).filter (readableAt search.key readability))
        pages := by
  -- The rounds are more than the rows that are left, and stay so from page to page.
  induction rounds generalizing start token s with
  | zero => exact absurd hrounds (Nat.not_lt_zero _)
  | succ rounds ih =>
      obtain ⟨page, response, result, stop, s₁, s₂, hpage, hnarrow, hs₂, hrows, htoken, hreach,
        hmoved⟩ := narrow_reaches hfind hf h hanswer hat hstart readability hs
      have hforward := hreach.forward
      -- The rows from here on are those of this page and those behind it.
      have hsplit : (all.drop start).filter (readableAt search.key readability) = result.1 ++
          (all.drop stop).filter (readableAt search.key readability) := by
        have hdrop : all.drop stop = (all.drop start).drop (stop - start) := by
          rw [List.drop_drop]
          congr 1
          omega
        rw [hreach.rows, List.nil_append, hdrop, ← List.filter_append, List.take_append_drop]
      rcases hreach.ends with ⟨hnext, hlength⟩ | ⟨hnext, hend, hlength⟩
      · -- A page with a cursor is full, and the walk goes on from there.
        rw [hnext] at htoken hmoved
        have hlt := hmoved rfl
        have hfits := hreach.fits
        obtain ⟨pages, s₃, hrun, hpaged⟩ := ih (by omega) (.inr rfl) hfits hs₂
        refine ⟨result.1 :: pages, s₃, ?_, ?_⟩
        · rw [exec_walk_more rounds hpage hnarrow htoken, hrun, hrows]
          rfl
        · rw [hsplit]
          exact hpaged.cons (Nat.le_of_eq hlength) (fun _ => hlength)
      · -- A page without one has come to the end of the rows.
        rw [hnext] at htoken
        refine ⟨[result.1], s₂, ?_, ?_⟩
        · rw [exec_walk_last rounds hpage hnarrow htoken, hrows]
        · rw [hsplit, hend, List.drop_length, List.filter_nil, List.append_nil]
          exact .last hlength

end Refill

/-- The queries whose searches have offset cursors. -/
inductive OffsetQuery where
  | experiments (query : ExperimentQuery)
  | models (query : ModelQuery)

namespace OffsetQuery

variable {σ : Type}

/-- The search for the pages of a query. -/
def find (tracker : Tracker σ) : OffsetQuery → Option String → Action σ Page
  | experiments query => tracker.searchExperiments query
  | models query => tracker.searchModels query

/-- The narrowed response to a query. -/
def narrowed (tracker : Tracker σ) (readability : Readability) :
    OffsetQuery → Json → Action σ Json
  | experiments query => Narrowing.experiments tracker readability query
  | models query => Narrowing.models tracker readability query

/-- The member with the rows. -/
def field : OffsetQuery → String
  | experiments _ => "experiments"
  | models _ => "registered_models"

/-- Where a row has its key. -/
def key : OffsetQuery → List String
  | experiments _ => ["experiment_id"]
  | models _ => ["name"]

/-- How many rows are asked for. -/
def limit : OffsetQuery → UInt64
  | experiments query => query.limit
  | models query => query.limit

theorem narrowed_eq (tracker : Tracker σ) (readability : Readability) (query : OffsetQuery) :
    query.narrowed tracker readability = narrow ⟨query.field, query.key, query.limit,
      fun token => query.find tracker (some token)⟩ readability := by
  cases query <;> rfl

theorem field_ne_tokenField (query : OffsetQuery) : query.field ≠ tokenField := by
  cases query <;> simp only [field, tokenField] <;> decide

end OffsetQuery

/-- A client that walks from an offset on, with the cursors that it gets, along the narrowed
pages of a tracker that honours them, comes to an end with every readable row from there on,
in order and once. -/
theorem offset_walk_exact {σ : Type} (tracker : Tracker σ) (query : OffsetQuery)
    (readability : Readability) (all : List Json) (holds : σ → Prop)
    (h : Honours (query.find tracker) offsetText query.limit.toNat all holds)
    (answer : Page → Json) (hanswer : ∀ page, Carries query.field page (answer page))
    (token : Option String) (start : Nat) (hat : CursorAt offsetText token start)
    (hstart : start ≤ all.length) (s : σ) (hs : holds s) : ∃ pages s',
      exec (walk (query.find tracker) answer (query.narrowed tracker readability) query.field
        (all.length - start + 1) token) s = (.ok (some pages), s') ∧
      Paged query.limit.toNat ((all.drop start).filter (readableAt query.key readability))
        pages := by
  rw [query.narrowed_eq]
  exact walk_paged (fun _ => rfl) query.field_ne_tokenField h hanswer readability
    (Nat.lt_succ_self _) hat hstart hs

/-- A walk along three experiments in memory, two to a page, of which the second is hidden. -/
theorem offset_walk_exact_memory : ∃ pages s',
    exec (walk (OffsetQuery.find Memory.tracker (.experiments ⟨2, none, [], none⟩))
      (fun page => finish (.object []) "experiments" page.items page.next)
      (OffsetQuery.narrowed Memory.tracker ⟨[("b", false)], true⟩
        (.experiments ⟨2, none, [], none⟩)) "experiments" 4 none)
      ⟨⟨[("a", "first"), ("b", "second"), ("c", "third")], [], [], []⟩, 0⟩ =
        (.ok (some pages), s') ∧
    Paged 2 [Inventory.experimentRow ("a", "first"), Inventory.experimentRow ("c", "third")]
      pages :=
  offset_walk_exact Memory.tracker (.experiments ⟨2, none, [], none⟩) ⟨[("b", false)], true⟩
    _ _ (Memory.honours_experiments ⟨2, none, [], none⟩
      ⟨[("a", "first"), ("b", "second"), ("c", "third")], [], [], []⟩ (by decide) (by decide))
    _ (carries_finish (by decide) []) none 0 (.inl ⟨rfl, rfl⟩) (Nat.zero_le _) _ rfl

end Narrowing

end Gatehouse
