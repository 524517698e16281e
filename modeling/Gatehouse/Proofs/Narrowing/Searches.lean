import Gatehouse.Proofs.Narrowing.ModelsPage
import Gatehouse.Proofs.Narrowing.OffsetWalk
import Gatehouse.Proofs.Narrowing.Settled
import Mathlib.Algebra.Order.Floor.Div

/-!
# How many searches a refill makes

A refill goes on until it is full, and how many rows it keeps says nothing about how long that
takes: all of them may be hidden. What it uses up are the rows behind its cursor. Over a tracker in
memory every search for experiments or registered models that brings rows takes one of them or
more, so there are not more searches than rows behind the cursor and one. A search for logged
models takes as many rows as are asked for, and the last page says that it is the last one, so
there are as many searches as pages.

The cursor need not be one that a tracker has written. Any text that reads as one will do, and its
offset may be far behind the last row.

## Main definitions

* `Inventory.Fits`: Resources whose rows can be counted.
* `Narrowing.OffsetQuery.rows`: The rows that a query with offset cursors is about.
* `Narrowing.Answers`: A search in memory.

## Theorems

* `Memory.answers_offset`, `Memory.answers_loggedModels`: The searches of a tracker in memory.
* `Narrowing.Place.start_text`, `Narrowing.Place.modelsStart_text`: A search for the cursor of a
  place starts there.
* `Narrowing.ceilDiv_rest`: One page more.
* `Narrowing.refill_round`, `Narrowing.refillModels_round`: A round over a tracker in memory.
* `Narrowing.refill_searches`, `Narrowing.refillModels_searches`: The searches of a refill.
* `Narrowing.searches_bounded`: The searches of a narrowing.
-/

namespace Gatehouse

open Gatehouse.Action Narrowing

/-- Resources of each kind are fewer than there are words. -/
structure Inventory.Fits (inventory : Inventory) : Prop where
  experiments : inventory.experiments.length < UInt64.size
  models : inventory.models.length < UInt64.size
  loggedModels : inventory.loggedModels.length < UInt64.size

namespace Narrowing

/-- The rows that a query is about. -/
def OffsetQuery.rows (inventory : Inventory) : OffsetQuery → List Json
  | experiments _ => inventory.experiments.map Inventory.experimentRow
  | models _ => inventory.models.map Inventory.modelRow

/-- A search in memory: where the cursor is read, it brings the page at the offset, and where it is
not, it fails. Either way it counts. -/
def Answers (find : String → Action Memory Page) (start : String → Except Error UInt64)
    (write : Nat → String) (limit : Nat) (rows : List Json) (inventory : Inventory) : Prop :=
  ∀ token searches, exec (find token) ⟨inventory, searches⟩ =
    ((start token).map fun offset => wholePage write limit rows offset.toNat,
      ⟨inventory, searches + 1⟩)

section Answers

variable {find : String → Action Memory Page} {start : String → Except Error UInt64}
  {write : Nat → String} {limit : Nat} {rows : List Json} {inventory : Inventory} {token : String}

theorem Answers.ok (h : Answers find start write limit rows inventory) {offset : UInt64}
    (hstart : start token = .ok offset) (searches : Nat) :
    exec (find token) ⟨inventory, searches⟩ =
      (.ok (wholePage write limit rows offset.toNat), ⟨inventory, searches + 1⟩) := by
  rw [h token searches, hstart]
  rfl

theorem Answers.error (h : Answers find start write limit rows inventory) {e : Error}
    (hstart : start token = .error e) (searches : Nat) :
    exec (find token) ⟨inventory, searches⟩ = (.error e, ⟨inventory, searches + 1⟩) := by
  rw [h token searches, hstart]
  rfl

end Answers

end Narrowing

theorem Inventory.Fits.rows {inventory : Inventory} (h : inventory.Fits) (query : OffsetQuery) :
    (query.rows inventory).length < UInt64.size := by
  cases query with
  | experiments query =>
      rw [OffsetQuery.rows, List.length_map]
      exact h.experiments
  | models query =>
      rw [OffsetQuery.rows, List.length_map]
      exact h.models

theorem Inventory.Fits.rowsInScope {inventory : Inventory} (h : inventory.Fits)
    (query : LoggedModelQuery) : (inventory.rowsInScope query).length < UInt64.size :=
  Nat.lt_of_le_of_lt (inventory.length_rowsInScope_le query) h.loggedModels

namespace Memory

theorem answers_offset (query : OffsetQuery) (inventory : Inventory) :
    Answers (fun token => query.find tracker (some token))
      (fun token => OffsetCursor.start (some token)) offsetText query.limit.toNat
      (query.rows inventory) inventory := by
  intro token searches
  cases query with
  | experiments query =>
      refine (exec_search _ _).trans ?_
      rw [Inventory.searchExperiments, Inventory.offsetPage_eq]
      rfl
  | models query =>
      refine (exec_search _ _).trans ?_
      rw [Inventory.searchModels, Inventory.offsetPage_eq]
      rfl

theorem answers_loggedModels (query : LoggedModelQuery) (inventory : Inventory) :
    Answers (fun token => tracker.searchLoggedModels query (some token))
      (fun token => Inventory.modelsStart (some token)) (modelsOffsetText query)
      query.limit.toNat (inventory.rowsInScope query) inventory := by
  intro token searches
  refine (exec_search _ _).trans ?_
  rw [Inventory.searchLoggedModels_eq]

end Memory

namespace Narrowing

/-- A search for the cursor of a place starts at its offset. -/
theorem Place.start_text (place : Place) : OffsetCursor.start (some place.text) = place.offset := by
  cases place with
  | given token => rfl
  | known offset => exact OffsetCursor.start_encode offset

/-- The same for logged models, where an empty text would be taken for no cursor. -/
theorem Place.modelsStart_text (place : Place) (query : LoggedModelQuery)
    (htext : (place.modelsText query).isEmpty = false) :
    Inventory.modelsStart (some (place.modelsText query)) = place.modelsOffset := by
  rw [Inventory.modelsStart, if_neg (by rw [htext]; exact Bool.false_ne_true)]
  cases place with
  | given token => rfl
  | known offset =>
      change (ModelsCursor.decode (Narrowing.modelsText query offset)).map _ = _
      rw [Narrowing.modelsText, ModelsCursor.decode_encode]
      rfl

section Offset

variable {search : OffsetSearch Memory} {all : List Json} {inventory : Inventory} {start : UInt64}

/-- A round in front of the end of the rows takes some of them and goes on behind these. -/
theorem refill_round (readable : Json → Bool)
    (h : Answers search.fetch (fun token => OffsetCursor.start (some token)) offsetText
      search.limit.toNat all inventory) (hfits : all.length < UInt64.size) {before : List Json}
    {place : Place} (hroom : before.length < search.limit.toNat) (hstart : place.offset = .ok start)
    (hrest : start.toNat < all.length) (searches : Nat) : ∃ batch : List Json,
      0 < batch.length ∧ start.toNat + batch.length ≤ all.length ∧
        exec (refill search readable before place) ⟨inventory, searches⟩ =
          exec (refill search readable (before ++ batch.filter readable)
            (.known (UInt64.ofNat (start.toNat + batch.length)))) ⟨inventory, searches + 1⟩ := by
  have hfetch := h.ok (place.start_text.trans hstart) searches
  have hne : (wholePage offsetText search.limit.toNat all start.toNat).items ≠ [] := by
    rw [wholePage, ← List.length_pos_iff, List.length_take, List.length_drop]
    omega
  obtain ⟨batch, hbatch⟩ : ∃ batch, batch =
    (wholePage offsetText search.limit.toNat all start.toNat).items.take
      (search.limit.toNat - before.length) := ⟨_, rfl⟩
  have hlength : batch.length =
      min (search.limit.toNat - before.length) (all.length - start.toNat) := by
    rw [hbatch, wholePage, List.length_take, List.length_take, List.length_drop]
    omega
  refine ⟨batch, by omega, by omega, ?_⟩
  -- The batch ends with the last row or before it, so the place behind it is a word.
  have hlt : start.toNat + batch.length < UInt64.size := by omega
  rw [exec_refill_more hroom hfetch hne hbatch, hstart]
  simp only [if_pos hlt]

theorem refill_searches (readable : Json → Bool)
    (h : Answers search.fetch (fun token => OffsetCursor.start (some token)) offsetText
      search.limit.toNat all inventory) (hfits : all.length < UInt64.size) (before : List Json)
    (place : Place) (hstart : place.offset = .ok start) (searches : Nat) : ∃ result count,
      exec (refill search readable before place) ⟨inventory, searches⟩ =
        (.ok result, ⟨inventory, searches + count⟩) ∧ count ≤ all.length - start.toNat + 1 := by
  -- The induction is on the rows that are left: a search that brings some takes one at least.
  induction hn : all.length - start.toNat using Nat.strongRecOn
    generalizing before place start searches with
  | _ n ih =>
    by_cases hroom : before.length < search.limit.toNat
    · by_cases hrest : start.toNat < all.length
      · rcases refill_round readable h hfits hroom hstart hrest searches with
          ⟨batch, hpos, hle, hround⟩
        have hword : (UInt64.ofNat (start.toNat + batch.length)).toNat =
            start.toNat + batch.length := UInt64.toNat_ofNat_of_lt' (by omega)
        rcases ih (all.length - (start.toNat + batch.length)) (by omega)
          (before ++ batch.filter readable) (.known (UInt64.ofNat (start.toNat + batch.length))) rfl
          (searches + 1) (by rw [hword]) with ⟨result, count, hrun, hcount⟩
        refine ⟨result, count + 1, ?_, by omega⟩
        rw [hround, hrun, Nat.add_assoc, Nat.add_comm 1 count]
      · -- No rows are left, which this search finds out.
        have hfetch := h.ok (place.start_text.trans hstart) searches
        have hitems : (wholePage offsetText search.limit.toNat all start.toNat).items = [] := by
          rw [wholePage, List.drop_eq_nil_of_le (by omega), List.take_nil]
        exact ⟨_, 1, exec_refill_empty hroom hfetch hitems, by omega⟩
    · exact ⟨_, 0, exec_refill_full hroom, Nat.zero_le _⟩

end Offset

/-- One page, and the pages of the rows behind it. -/
theorem ceilDiv_rest {limit rows : Nat} (hlimit : 0 < limit) (hmore : limit < rows) :
    max 1 ((rows - limit) ⌈/⌉ limit) + 1 = rows ⌈/⌉ limit := by
  have hsum : rows - limit + limit - 1 + limit = rows + limit - 1 := by omega
  have hpos : 1 ≤ (rows - limit + limit - 1) / limit :=
    (Nat.le_div_iff_mul_le hlimit).2 (by omega)
  rw [Nat.ceilDiv_eq_add_pred_div, Nat.ceilDiv_eq_add_pred_div, Nat.max_eq_right hpos, ← hsum,
    Nat.add_div_right _ hlimit]

section Models

variable {tracker : Tracker Memory} {query : LoggedModelQuery} {all : List Json}
  {inventory : Inventory} {start : UInt64}

/-- A place that can be gone on from. -/
theorem further_word {moved : Nat} (h : start.toNat + moved < UInt64.size) :
    further start moved = .ok (.known (UInt64.ofNat (start.toNat + moved))) := by
  have hfurther := further_ok h
  rwa [UInt64.ofNat_toNat] at hfurther

/-- A round ends the refill, or it has looked at a whole page and goes on behind it. -/
theorem refillModels_round (readable : Json → Bool)
    (h : Answers (fun token => tracker.searchLoggedModels query (some token))
      (fun token => Inventory.modelsStart (some token)) (modelsOffsetText query)
      query.limit.toNat all inventory) (hfits : all.length < UInt64.size) {before : List Json}
    {place : Place} (hroom : before.length < query.limit.toNat)
    (hstart : place.modelsOffset = .ok start) (htext : (place.modelsText query).isEmpty = false)
    (searches : Nat) :
    (∃ result, exec (refillModels tracker query readable before place) ⟨inventory, searches⟩ =
        (.ok result, ⟨inventory, searches + 1⟩)) ∨
      start.toNat + query.limit.toNat < all.length ∧ ∃ more,
        exec (refillModels tracker query readable before place) ⟨inventory, searches⟩ =
          exec (refillModels tracker query readable (before ++ more)
            (.known (UInt64.ofNat (start.toNat + query.limit.toNat))))
            ⟨inventory, searches + 1⟩ := by
  have hfetch := h.ok ((Place.modelsStart_text place query htext).trans hstart) searches
  rcases hfill : fillRoom readable (query.limit.toNat - before.length)
    (wholePage (modelsOffsetText query) query.limit.toNat all start.toNat).items with
    ⟨more, _ | seen⟩
  · have hround := exec_refillModels_open hroom hfetch hstart hfill
    by_cases hmore : start.toNat + query.limit.toNat < all.length
    · rw [wholePage_more hmore, Option.isNone_some, if_neg Bool.false_ne_true,
        further_word (show start.toNat + query.limit.toNat < UInt64.size by omega)] at hround
      exact .inr ⟨hmore, more, hround⟩
    · -- The page says that it is the last one.
      rw [wholePage_last hmore, Option.isNone_none, if_pos rfl] at hround
      exact .inl ⟨_, hround⟩
  · -- The room is filled, and there is an offset behind the rows that were looked at.
    have hround := exec_refillModels_filled hroom hfetch hstart hfill
    rcases fillRoom_some (by omega) hfill with ⟨hpos, hseen, -⟩
    rw [wholePage, List.length_take, List.length_drop] at hseen
    rw [further_word (show start.toNat + seen < UInt64.size by omega)] at hround
    split at hround
    · exact .inl ⟨_, hround⟩
    · exact .inl ⟨_, hround⟩

theorem refillModels_searches (readable : Json → Bool)
    (h : Answers (fun token => tracker.searchLoggedModels query (some token))
      (fun token => Inventory.modelsStart (some token)) (modelsOffsetText query)
      query.limit.toNat all inventory) (hfits : all.length < UInt64.size)
    (hlimit : 0 < query.limit.toNat) (before : List Json) (place : Place)
    (hstart : place.modelsOffset = .ok start) (htext : (place.modelsText query).isEmpty = false)
    (searches : Nat) : ∃ result count,
      exec (refillModels tracker query readable before place) ⟨inventory, searches⟩ =
        (.ok result, ⟨inventory, searches + count⟩) ∧
      count ≤ max 1 ((all.length - start.toNat) ⌈/⌉ query.limit.toNat) := by
  -- Every page but the last one takes as many rows as are asked for.
  induction hn : all.length - start.toNat using Nat.strongRecOn
    generalizing before place start searches with
  | _ n ih =>
    by_cases hroom : before.length < query.limit.toNat
    · rcases refillModels_round readable h hfits hroom hstart htext searches with
        ⟨result, hround⟩ | ⟨hmore, more, hround⟩
      · exact ⟨result, 1, hround, Nat.le_max_left _ _⟩
      · have hword : (UInt64.ofNat (start.toNat + query.limit.toNat)).toNat =
            start.toNat + query.limit.toNat := UInt64.toNat_ofNat_of_lt' (by omega)
        have hleft : all.length - (start.toNat + query.limit.toNat) =
            n - query.limit.toNat := by omega
        rcases ih (n - query.limit.toNat) (by omega) (before ++ more)
          (.known (UInt64.ofNat (start.toNat + query.limit.toNat))) rfl
          (ModelsCursor.isEmpty_encode _) (searches + 1) (by rw [hword, hleft]) with
          ⟨result, count, hrun, hle⟩
        have hrest := ceilDiv_rest hlimit (show query.limit.toNat < n by omega)
        refine ⟨result, count + 1, ?_, by omega⟩
        rw [hround, hrun, Nat.add_assoc, Nat.add_comm 1 count]
    · exact ⟨_, 0, exec_refillModels_full hroom, Nat.zero_le _⟩

end Models

/-- The cursor of a response is the text that it has there. -/
theorem tokenOf_of_get? {response : Json} {token : String}
    (hgiven : response.get? tokenField = some (.string token)) (htext : token.isEmpty = false) :
    tokenOf response = some token := by
  rw [tokenOf, hgiven]
  change Option.filter _ (some token) = _
  rw [Option.filter_some, htext]
  rfl

/-- A response with a cursor at an offset is narrowed over a tracker in memory, whatever is hidden
and however many rows are asked for. For experiments and registered models that takes not more
searches than rows behind the offset and one. For logged models it takes not more than pages behind
the offset, but one if there are none, and none if no rows are asked for. -/
theorem searches_bounded (inventory : Inventory) (hfits : inventory.Fits)
    (readability : Readability) (response : Json) (token : String)
    (hgiven : response.get? "next_page_token" = some (.string token)) (searches : Nat) :
    (∀ (query : OffsetQuery) (offset : UInt64), OffsetCursor.decode token = .ok ⟨offset⟩ →
      ∃ body count,
        exec (query.narrowed Memory.tracker readability response) ⟨inventory, searches⟩ =
          (.ok body, ⟨inventory, searches + count⟩) ∧
        count ≤ (query.rows inventory).length - offset.toNat + 1) ∧
    ∀ (query : LoggedModelQuery) (cursor : ModelsCursor), ModelsCursor.decode token = .ok cursor →
      ∃ body count,
        exec (loggedModels Memory.tracker readability query response) ⟨inventory, searches⟩ =
          (.ok body, ⟨inventory, searches + count⟩) ∧
        count ≤ if query.limit = 0 then 0 else
          max 1 (((inventory.rowsInScope query).length - cursor.offset.toNat) ⌈/⌉
            query.limit.toNat) := by
  constructor
  · intro query offset hdecode
    have htext := Cursor.isEmpty_of_read hdecode
    have hstart : (Place.given token).offset = .ok offset := by
      rw [Place.offset, OffsetCursor.start, htext, hdecode]
      rfl
    let search : OffsetSearch Memory := ⟨query.field, query.key, query.limit,
      fun token => query.find Memory.tracker (some token)⟩
    have hanswers : Answers search.fetch _ _ _ _ inventory := Memory.answers_offset query inventory
    rcases refill_searches _ hanswers (hfits.rows query)
      ((rowsOf query.field response).filter (readableAt query.key readability)) _ hstart searches
      with ⟨result, count, hrun, hcount⟩
    rw [query.narrowed_eq]
    exact ⟨_, count, exec_narrow_some (tokenOf_of_get? hgiven htext) hrun, hcount⟩
  · intro query cursor hdecode
    have htext := Cursor.isEmpty_of_read hdecode
    have htoken := tokenOf_of_get? hgiven htext
    by_cases hlimit : query.limit = 0
    · -- There is no room, so no search is made.
      have hfull : ∀ rows : List Json, ¬ rows.length < query.limit.toNat := by
        intro rows
        rw [hlimit]
        exact Nat.not_lt_zero _
      rw [if_pos hlimit]
      exact ⟨_, 0, exec_loggedModels_some htoken (exec_refillModels_full (hfull _)), Nat.le_refl 0⟩
    · have hpos : 0 < query.limit.toNat := by
        rw [Nat.pos_iff_ne_zero, ne_eq, ← UInt64.toNat_zero, UInt64.toNat_inj]
        exact hlimit
      have hstart : (Place.given token).modelsOffset = .ok cursor.offset := by
        rw [Place.modelsOffset, hdecode]
        rfl
      rcases refillModels_searches _ (Memory.answers_loggedModels query inventory)
        (hfits.rowsInScope query) hpos
        ((rowsOf "models" response).filter (readableAt ["info", "experiment_id"] readability)) _
        hstart htext searches with ⟨result, count, hrun, hcount⟩
      rw [if_neg hlimit]
      exact ⟨_, count, exec_loggedModels_some htoken hrun, hcount⟩

/-- Where all of three experiments and three logged models are hidden, a cursor behind the first
one of each leads to three searches at most, and to two. -/
theorem searches_bounded_hidden :
    let inventory : Inventory :=
      ⟨[("7", "x"), ("8", "y"), ("9", "z")], [], [("1", "7"), ("2", "8"), ("3", "9")], []⟩
    let token := ModelsCursor.encode ⟨1, [], none, none⟩
    let response : Json := .object [("next_page_token", .string token)]
    inventory.Fits ∧ response.get? "next_page_token" = some (.string token) ∧
      OffsetCursor.decode token = .ok ⟨1⟩ ∧
      ModelsCursor.decode token = .ok ⟨1, [], none, none⟩ ∧
      (∃ body count, exec (experiments Memory.tracker ⟨[], false⟩ ⟨1, none, [], none⟩ response)
        ⟨inventory, 0⟩ = (.ok body, ⟨inventory, count⟩) ∧ count ≤ 3) ∧
      ∃ body count, exec (loggedModels Memory.tracker ⟨[], false⟩ ⟨1, [], none, none⟩ response)
        ⟨inventory, 0⟩ = (.ok body, ⟨inventory, count⟩) ∧ count ≤ 2 := by
  intro inventory token response
  have hfits : inventory.Fits := ⟨by decide, by decide, by decide⟩
  have hoffset : OffsetCursor.decode token = .ok ⟨1⟩ :=
    Cursor.read_write (ModelsCursor.hasWords_toJson _) rfl
  have hmodels : ModelsCursor.decode token = .ok ⟨1, [], none, none⟩ :=
    ModelsCursor.decode_encode _
  -- Two rows are behind the cursor, and one is asked for at a time.
  rcases searches_bounded inventory hfits ⟨[], false⟩ response token rfl 0 with
    ⟨hexperiments, hlogged⟩
  refine ⟨hfits, rfl, hoffset, hmodels, ?_, ?_⟩
  · rcases hexperiments (.experiments ⟨1, none, [], none⟩) 1 hoffset with
      ⟨body, count, hrun, hcount⟩
    rw [Nat.zero_add] at hrun
    exact ⟨body, count, hrun, hcount⟩
  · rcases hlogged ⟨1, [], none, none⟩ _ hmodels with ⟨body, count, hrun, hcount⟩
    rw [Nat.zero_add] at hrun
    exact ⟨body, count, hrun, Nat.le_trans hcount (by decide)⟩

end Narrowing

end Gatehouse
