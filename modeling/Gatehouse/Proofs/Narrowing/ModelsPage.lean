import Gatehouse.Proofs.Narrowing.ModelsWalk
import Gatehouse.Proofs.Tracker.Memory

/-!
# Pages of logged models

Where a tracker gives as many rows as it is asked for, as one in memory does, the refill of logged
models goes on exactly where the page before it ended. A narrowed page then holds the readable rows
from its offset up to another one, and it is full unless that is the end of the rows. There it has
no cursor, whether the last rows left room or filled it; before the end it has the cursor that the
tracker itself writes at that offset.

## Main definitions

* `Narrowing.GivesWhole`: Searches whose pages are as long as asked for.
* `Narrowing.Fills`: A result that has looked at the rows between two offsets.
* `Inventory.rowsInScope`: The rows of the logged models that a query is about.

## Theorems

* `Inventory.searchLoggedModels_eq`: The page of a search for logged models.
* `Narrowing.refillModels_fills`, `Narrowing.loggedModels_fills`: Where a refill ends, and where a
  narrowed page does.
* `Memory.givesWhole_loggedModels`: A tracker in memory gives as many rows as it is asked for.
* `Narrowing.loggedModels_page_exact`: A narrowed page of a tracker in memory.
-/

namespace Gatehouse

open Gatehouse.Action

namespace Narrowing

/-- A search that gives as many rows as it is asked for, in the states where it has these rows.
Offsets are words, so the rows are fewer than there are words. -/
structure GivesWhole {σ : Type} (find : Option String → Action σ Page) (write : Nat → String)
    (limit : Nat) (rows : List Json) (holds : σ → Prop) : Prop where
  fits : rows.length < UInt64.size
  gives : ∀ s token offset, holds s → offset ≤ rows.length → CursorAt write token offset →
    ∃ s', exec (find token) s = (.ok (wholePage write limit rows offset), s') ∧ holds s'

/-- A result that holds the readable rows between two offsets behind those there were. It is full
unless these are the last ones, and it has a cursor, that of the second offset, unless they are. -/
structure Fills (query : LoggedModelQuery) (readable : Json → Bool) (all : List Json)
    (start stop : Nat) (before : List Json) (result : List Json × Option String) : Prop where
  forward : start ≤ stop
  fits : stop ≤ all.length
  rows : result.1 = before ++ (slice all start stop).filter readable
  bounded : result.1.length ≤ query.limit.toNat
  full : result.1.length = query.limit.toNat ∨ stop = all.length
  next : result.2 = if stop = all.length then none else some (modelsOffsetText query stop)

section Refill

variable {query : LoggedModelQuery} {readable : Json → Bool} {all before : List Json}
  {start stop : Nat}

/-- Rows that were looked at in two goes. -/
theorem Fills.trans {middle : Nat} {result : List Json × Option String} (hle : start ≤ middle)
    (h : Fills query readable all middle stop
      (before ++ (slice all start middle).filter readable) result) :
    Fills query readable all start stop before result where
  forward := Nat.le_trans hle h.forward
  fits := h.fits
  rows := by
    rw [h.rows, List.append_assoc, ← List.filter_append, slice_append all hle h.forward]
  bounded := h.bounded
  full := h.full
  next := h.next

/-- All rows that are left were looked at. -/
theorem Fills.last (hstart : start ≤ all.length)
    (hbounded : (before ++ (all.drop start).filter readable).length ≤ query.limit.toNat) :
    Fills query readable all start all.length before
      (before ++ (all.drop start).filter readable, none) where
  forward := hstart
  fits := Nat.le_refl _
  rows := by rw [slice_length]
  bounded := hbounded
  full := .inr rfl
  next := (if_pos rfl).symm

/-- The last row that was looked at took the last room, and it was not the last one of all. -/
theorem Fills.more {kept : List Json} (hforward : start ≤ stop) (hstop : stop < all.length)
    (hkept : kept = (slice all start stop).filter readable)
    (hfull : (before ++ kept).length = query.limit.toNat) :
    Fills query readable all start stop before
      (before ++ kept, some (modelsOffsetText query stop)) where
  forward := hforward
  fits := Nat.le_of_lt hstop
  rows := by rw [hkept]
  bounded := Nat.le_of_eq hfull
  full := .inl hfull
  next := (if_neg (Nat.ne_of_lt hstop)).symm

variable {σ : Type} {tracker : Tracker σ} {holds : σ → Prop}

theorem refillModels_fills
    (h : GivesWhole (tracker.searchLoggedModels query) (modelsOffsetText query)
      query.limit.toNat all holds) {place : Place} (hat : place.ModelsAt query start)
    (hstart : start < all.length) (hbefore : before.length ≤ query.limit.toNat) {s : σ}
    (hs : holds s) : ∃ result stop s',
      exec (refillModels tracker query readable before place) s = (.ok result, s') ∧ holds s' ∧
      Fills query readable all start stop before result := by
  -- The induction is on the rows that are left: every page but the last one takes some of them.
  induction hn : all.length - start using Nat.strongRecOn generalizing before place start s with
  | _ n ih =>
    have hfits := h.fits
    by_cases hroom : before.length < query.limit.toNat
    · obtain ⟨s', hf, hs'⟩ := h.gives s (some (place.modelsText query)) start hs
        (Nat.le_of_lt hstart) (.inr (congrArg some hat.text_eq))
      rcases hfill : fillRoom readable (query.limit.toNat - before.length)
        (wholePage (modelsOffsetText query) query.limit.toNat all start).items with
        ⟨more, _ | seen⟩
      · -- The page left room, and the next search starts where it ended.
        have hround := exec_refillModels_open hroom hf hat.offset_eq hfill
        obtain ⟨hmore, hlt⟩ := fillRoom_none (by omega) hfill
        have hkept : (before ++ more).length ≤ query.limit.toNat := by
          rw [List.length_append]
          omega
        by_cases hlast : start + query.limit.toNat < all.length
        · rw [wholePage_more hlast] at hround hmore
          rw [Option.isNone_some, if_neg Bool.false_ne_true, further_ok (by omega)] at hround
          obtain ⟨result, stop, s'', hrun, hs'', hfills⟩ :=
            ih (all.length - (start + query.limit.toNat)) (by omega)
              (Place.modelsAt_known query (start + query.limit.toNat)) hlast hkept hs' rfl
          rw [hmore] at hfills
          exact ⟨result, stop, s'', hround.trans hrun, hs'', hfills.trans (Nat.le_add_right _ _)⟩
        · rw [wholePage_last hlast] at hround hmore
          rw [Option.isNone_none, if_pos rfl] at hround
          rw [hmore] at hround hkept
          exact ⟨_, _, s', hround, hs', .last (Nat.le_of_lt hstart) hkept⟩
      · -- The page filled the room; the cursor stands behind the last row that was looked at.
        have hround := exec_refillModels_filled hroom hf hat.offset_eq hfill
        obtain ⟨hseen, hseen', hmore, hlength⟩ := fillRoom_some (by omega) hfill
        have hfull : (before ++ more).length = query.limit.toNat := by
          rw [List.length_append]
          omega
        have hcount :
            (wholePage (modelsOffsetText query) query.limit.toNat all start).items.length =
              min query.limit.toNat (all.length - start) := by
          rw [wholePage, List.length_take, List.length_drop]
        rw [hcount] at hround hseen'
        have hslice : more = (slice all start (start + seen)).filter readable := by
          rw [hmore, wholePage, List.take_take, Nat.min_eq_left (by omega), slice,
            Nat.add_sub_cancel_left]
        by_cases hlast : start + seen < all.length
        · have hopen : ((wholePage (modelsOffsetText query) query.limit.toNat all start).next.isNone
              && seen == min query.limit.toNat (all.length - start)) = false := by
            rw [wholePage]
            dsimp only
            split
            · rfl
            · rw [Option.isNone_none, Bool.true_and, beq_eq_false_iff_ne]
              omega
          rw [hopen, if_neg Bool.false_ne_true, further_ok (by omega)] at hround
          exact ⟨_, _, s', hround, hs', .more (Nat.le_add_right _ _) hlast hslice hfull⟩
        · -- It was filled by the very last row, and no cursor is handed out.
          have hend : start + seen = all.length := by omega
          rw [wholePage_last (by omega), Option.isNone_none, Bool.true_and,
            if_pos (beq_iff_eq.2 (by omega))] at hround
          rw [hend, slice_length] at hslice
          rw [hslice] at hround hfull
          exact ⟨_, _, s', hround, hs', .last (Nat.le_of_lt hstart) (Nat.le_of_eq hfull)⟩
    · -- There was no room, so no search was made.
      have hround : exec (refillModels tracker query readable before place) s = _ :=
        exec_refillModels_full hroom
      rw [hat.text_eq] at hround
      have hfull : (before ++ []).length = query.limit.toNat := by
        rw [List.append_nil]
        omega
      have hnone : [] = (slice all start start).filter readable := by
        rw [slice_self, List.filter_nil]
      have hfills := Fills.more (Nat.le_refl start) hstart hnone hfull
      rw [List.append_nil] at hfills
      exact ⟨_, start, s, hround, hs, hfills⟩

/-- A page at an offset and what its narrowing makes of it. -/
theorem loggedModels_fills
    (h : GivesWhole (tracker.searchLoggedModels query) (modelsOffsetText query)
      query.limit.toNat all holds) (readability : Readability)
    {answer : Page → Json} (hanswer : ∀ page, Carries "models" page (answer page))
    {token : Option String} (hat : CursorAt (modelsOffsetText query) token start)
    (hstart : start ≤ all.length) {s : σ} (hs : holds s) : ∃ page result stop s' s'',
      exec (tracker.searchLoggedModels query token) s = (.ok page, s') ∧
      exec (loggedModels tracker readability query (answer page)) s' =
        (.ok (finish (answer page) "models" result.1 result.2), s'') ∧ holds s'' ∧
      Fills query (readableAt ["info", "experiment_id"] readability) all start stop []
        result := by
  obtain ⟨s', hpage, hs'⟩ := h.gives s token start hs hstart hat
  obtain ⟨page, hwhole⟩ : ∃ page, page =
    wholePage (modelsOffsetText query) query.limit.toNat all start := ⟨_, rfl⟩
  rw [← hwhole] at hpage
  obtain ⟨members, -, hrows, htoken⟩ := hanswer page
  have hkept : (page.items.filter (readableAt ["info", "experiment_id"] readability)).length ≤
      query.limit.toNat := by
    rw [hwhole]
    exact Nat.le_trans (List.length_filter_le _ _) (List.length_take_le _ _)
  rw [← hrows] at hkept
  by_cases hlast : start + query.limit.toNat < all.length
  · -- The refill starts where the page ended, with the rows that were kept of it.
    rw [wholePage_more hlast] at hwhole
    rw [hwhole, Option.filter, isEmpty_modelsOffsetText, ← hwhole] at htoken
    obtain ⟨result, stop, s'', hrun, hs'', hfills⟩ :=
      refillModels_fills h (Place.modelsAt_given query (start + query.limit.toNat)) hlast hkept hs'
    refine ⟨page, result, stop, s', s'', hpage, exec_loggedModels_some htoken hrun, hs'', ?_⟩
    rw [hrows, hwhole] at hfills
    exact hfills.trans (Nat.le_add_right _ _)
  · -- It was the last page, and nothing is searched for.
    rw [wholePage_last hlast] at hwhole
    rw [hwhole, Option.filter, ← hwhole] at htoken
    refine ⟨page, (_, none), all.length, s', s', hpage, exec_loggedModels_none htoken, hs', ?_⟩
    rw [hrows, hwhole] at hkept ⊢
    exact .last hstart hkept

end Refill

end Narrowing

open Narrowing

namespace Inventory

/-- The rows of the logged models that a query is about. -/
def rowsInScope (inventory : Inventory) (query : LoggedModelQuery) : List Json :=
  (inventory.inScope query).map loggedModelRow

theorem length_rowsInScope_le (inventory : Inventory) (query : LoggedModelQuery) :
    (inventory.rowsInScope query).length ≤ inventory.loggedModels.length := by
  rw [rowsInScope, List.length_map]
  exact List.length_filter_le _ _

/-- A page of logged models is the one at the offset of its cursor. -/
theorem searchLoggedModels_eq (inventory : Inventory) (query : LoggedModelQuery)
    (token : Option String) : inventory.searchLoggedModels query token =
      (modelsStart token).map fun offset => wholePage (modelsOffsetText query)
        query.limit.toNat (inventory.rowsInScope query) offset.toNat := by
  unfold searchLoggedModels
  congr 1
  funext offset
  exact page_eq (inventory.rowsInScope query) _ offset query.limit

end Inventory

/-- A tracker in memory gives as many logged models as it is asked for. -/
theorem Memory.givesWhole_loggedModels (query : LoggedModelQuery) (inventory : Inventory)
    (hfits : inventory.loggedModels.length < UInt64.size) :
    GivesWhole (tracker.searchLoggedModels query) (modelsOffsetText query) query.limit.toNat
      (inventory.rowsInScope query) (·.inventory = inventory) := by
  have hrows := inventory.length_rowsInScope_le query
  refine ⟨by omega, ?_⟩
  rintro memory token offset rfl hoffset hat
  have hword : (UInt64.ofNat offset).toNat = offset := UInt64.toNat_ofNat_of_lt' (by omega)
  refine ⟨⟨memory.inventory, memory.searches + 1⟩, (exec_search _ memory).trans ?_, rfl⟩
  rw [Inventory.searchLoggedModels_eq, hat.modelsStart_eq, Except.map, hword]

namespace Narrowing

/-- The response with the logged models of a tracker in memory from an offset on is narrowed to the
readable ones up to another offset, in order. These are as many as were asked for unless that is the
end of the rows, and never more. The response has a cursor unless it is the end: the one that the
tracker writes at that offset. Nothing else in the response changes, and nothing in the memory. -/
theorem loggedModels_page_exact (inventory : Inventory) (query : LoggedModelQuery)
    (readability : Readability) (hfits : inventory.loggedModels.length < UInt64.size)
    (answer : Page → Json) (hanswer : ∀ page, Carries "models" page (answer page))
    (token : Option String) (start : Nat) (hat : CursorAt (modelsOffsetText query) token start)
    (hstart : start ≤ (inventory.rowsInScope query).length) (searches : Nat) :
    ∃ page found response left rows stop,
      exec (Memory.tracker.searchLoggedModels query token) ⟨inventory, searches⟩ =
        (.ok page, found) ∧
      exec (loggedModels Memory.tracker readability query (answer page)) found =
        (.ok response, left) ∧ left.inventory = inventory ∧
      response.get? "models" = some (.array rows) ∧
      start ≤ stop ∧ stop ≤ (inventory.rowsInScope query).length ∧
      rows = (slice (inventory.rowsInScope query) start stop).filter
        (readableAt ["info", "experiment_id"] readability) ∧
      rows.length ≤ query.limit.toNat ∧
      (rows.length = query.limit.toNat ∨ stop = (inventory.rowsInScope query).length) ∧
      response.get? "next_page_token" =
        (if stop = (inventory.rowsInScope query).length then none
        else some (.string (Inventory.modelsCursor query (UInt64.ofNat stop)).encode)) ∧
      (∀ name, name ≠ "models" → name ≠ "next_page_token" →
        response.get? name = (answer page).get? name) := by
  -- All of it is said of the rows that are gathered; left to see is where they stand in the
  -- response.
  obtain ⟨page, result, stop, found, left, hpage, hnarrowed, hinventory, hfills⟩ :=
    loggedModels_fills (Memory.givesWhole_loggedModels query inventory hfits) readability hanswer
      hat hstart (s := ⟨inventory, searches⟩) rfl
  obtain ⟨members, hobject, -⟩ := hanswer page
  refine ⟨page, found, _, left, result.1, stop, hpage, hnarrowed, hinventory, ?_, hfills.forward,
    hfills.fits, hfills.rows, hfills.bounded, hfills.full, ?_, ?_⟩
  · rw [hobject, get?_finish_field (by decide)]
  · rw [hobject]
    refine get?_finish_token.trans ?_
    rw [hfills.next]
    split
    · rfl
    · rfl
  · intro name hname htoken
    rw [hobject, get?_finish_other hname htoken]

/-- The first one of three logged models and the last one fill a page, since the second one is
hidden; that page has no cursor. -/
theorem loggedModels_page_exact_hidden :
    ∃ page found response left,
      exec (Memory.tracker.searchLoggedModels twoEach none)
        ⟨⟨[], [], [("1", "a"), ("2", "b"), ("3", "a")], []⟩, 0⟩ = (.ok page, found) ∧
      exec (loggedModels Memory.tracker secondHidden twoEach
        (finish (.object []) "models" page.items page.next)) found = (.ok response, left) ∧
      response.get? "models" = some (.array [Inventory.loggedModelRow ("1", "a"),
        Inventory.loggedModelRow ("3", "a")]) ∧ response.get? "next_page_token" = none := by
  obtain ⟨page, found, response, left, rows, stop, hpage, hnarrowed, -, hmodels, -, hstop, hrows, -,
    hfull, htoken, -⟩ := loggedModels_page_exact ⟨[], [], [("1", "a"), ("2", "b"), ("3", "a")], []⟩
      twoEach secondHidden (by decide) _ (carries_finish (by decide) []) none 0 (.inl ⟨rfl, rfl⟩)
      (Nat.zero_le _) 0
  -- Up to the hidden logged model there is only one that may be read.
  obtain rfl : stop = 3 := by
    rcases hfull with htwo | hend
    · rw [hrows] at htwo
      match stop with
      | 0 => exact nomatch htwo
      | 1 => exact nomatch htwo
      | 2 => exact nomatch htwo
      | 3 => rfl
    · exact hend
  refine ⟨page, found, response, left, hpage, hnarrowed, ?_, htoken⟩
  rw [hmodels, hrows]
  rfl

end Narrowing

end Gatehouse
