import Gatehouse.Proofs.Narrowing.Searches

/-!
# Sums of offsets

Offsets and numbers of rows come from the client, so both may be any word, and where they are added
the sum need not be one. A tracker in memory takes the greatest word for the end of a page where
that sum is out of range, and it never reads rows behind the last one. Every other sum is worked out
only when there are rows that it stands behind: a page that is not the last one ends before the last
row, a batch that is not empty ends there or before it, and so does a row that was looked at. Rows
are fewer than words, so these sums are words.

To say so, the pages are worked out here once more, in words, with every sum and every bound
checked. A check that does not hold is the fault that a refill has of its own for its sums.

## Main definitions

* `Offsets.sum`, `Offsets.cappedSum`, `Offsets.between`: Sums of words and rows between bounds.
* `Inventory.checkedPage`: The page at an offset, worked out in words.
* `Memory.checked`: The tracker in memory with these pages.
* `Narrowing.Complains`: What fails complains about a cursor.

## Theorems

* `Inventory.checkedPage_eq`: The checks of a page hold.
* `Memory.checked_offset`, `Memory.checked_loggedModels`: So the checks of a search do.
* `Narrowing.refill_complains`, `Narrowing.refillModels_complains`: A refill that fails complains
  about a cursor, and so no sum of its own is out of range.
* `Narrowing.sums_in_range`: All checks hold.
-/

namespace Gatehouse

open Gatehouse.Action Narrowing

namespace Offsets

/-- The sum of two words, where it is one. -/
def sum (a b : UInt64) : Except Error UInt64 :=
  if a.toNat + b.toNat < UInt64.size then .ok (a + b) else .error (.fault .offset)

/-- The sum of two words, or the greatest word where it is none. -/
def cappedSum (a b : UInt64) : UInt64 :=
  if a.toNat + b.toNat < UInt64.size then a + b else UInt64.ofNat (UInt64.size - 1)

/-- The lesser one of two words. -/
def lesser (a b : UInt64) : UInt64 := if a ≤ b then a else b

/-- The rows between two bounds, where these are in order and not behind the last row. -/
def between (rows : List Json) (first last : UInt64) : Except Error (List Json) :=
  if first ≤ last ∧ last.toNat ≤ rows.length then .ok (slice rows first.toNat last.toNat)
  else .error (.fault .offset)

theorem toNat_sum {a b : UInt64} (h : a.toNat + b.toNat < UInt64.size) :
    (a + b).toNat = a.toNat + b.toNat := by
  rw [UInt64.toNat_add]
  exact Nat.mod_eq_of_lt h

theorem toNat_cappedSum (a b : UInt64) :
    (cappedSum a b).toNat = min (a.toNat + b.toNat) (UInt64.size - 1) := by
  unfold cappedSum
  split
  · next h =>
    rw [toNat_sum h]
    omega
  · next h =>
    have hcap : (UInt64.ofNat (UInt64.size - 1)).toNat = UInt64.size - 1 := by decide
    rw [hcap]
    omega

theorem toNat_lesser (a b : UInt64) : (lesser a b).toNat = min a.toNat b.toNat := by
  unfold lesser
  split
  · next h =>
    rw [UInt64.le_iff_toNat_le] at h
    omega
  · next h =>
    rw [UInt64.le_iff_toNat_le] at h
    omega

end Offsets

namespace Inventory

open Offsets

/-- The page of rows at an offset, worked out in words. -/
def checkedPage (rows : List Json) (offset limit : UInt64) (cursor : UInt64 → String) :
    Except Error Page := do
  let count := UInt64.ofNat rows.length
  let first := lesser offset count
  let last := lesser (cappedSum first limit) count
  let items ← between rows first last
  if last < count then
    let next ← sum offset (UInt64.ofNat items.length)
    pure ⟨items, some (cursor next)⟩
  else pure ⟨items, none⟩

theorem checkedPage_eq {rows : List Json} (hfits : rows.length < UInt64.size)
    (offset limit : UInt64) (cursor : UInt64 → String) :
    checkedPage rows offset limit cursor = .ok (page rows offset limit cursor) := by
  obtain ⟨count, hcount⟩ : ∃ count, count = UInt64.ofNat rows.length := ⟨_, rfl⟩
  obtain ⟨first, hfirst⟩ : ∃ first, first = lesser offset count := ⟨_, rfl⟩
  obtain ⟨last, hlast⟩ : ∃ last, last = lesser (cappedSum first limit) count := ⟨_, rfl⟩
  have hcount' : count.toNat = rows.length := by
    rw [hcount]
    exact UInt64.toNat_ofNat_of_lt' hfits
  have hfirst' : first.toNat = min offset.toNat rows.length := by
    rw [hfirst, toNat_lesser, hcount']
  -- The sum is only capped where it is behind the last row anyway.
  have hlast' : last.toNat = min (first.toNat + limit.toNat) rows.length := by
    rw [hlast, toNat_lesser, toNat_cappedSum, hcount']
    omega
  have hbetween : between rows first last = .ok (window rows offset limit).1 := by
    have hbounds : first ≤ last ∧ last.toNat ≤ rows.length := by
      rw [UInt64.le_iff_toNat_le]
      omega
    rw [between, if_pos hbounds, slice, hlast', hfirst', window]
  have hmore : (window rows offset limit).2 = decide (last < count) := by
    unfold window
    rw [decide_eq_decide, UInt64.lt_iff_toNat_lt, hcount', hlast', hfirst']
  unfold checkedPage page
  simp only [← hcount, ← hfirst, ← hlast, hbetween, hmore, decide_eq_true_eq]
  by_cases hlt : last < count
  · -- A page with rows behind it starts at the offset and ends where its cursor stands.
    have hsum : offset.toNat + (UInt64.ofNat (window rows offset limit).1.length).toNat <
        UInt64.size := by
      have hlength : (window rows offset limit).1.length = last.toNat - first.toNat := by
        rw [window, List.length_take, List.length_drop, hlast', hfirst']
        omega
      rw [UInt64.lt_iff_toNat_lt, hcount'] at hlt
      rw [hlength, UInt64.toNat_ofNat_of_lt' (by omega)]
      omega
    rw [if_pos hlt]
    change (if last < count then sum _ _ >>= _ else _) = _
    rw [if_pos hlt, sum, if_pos hsum]
    rfl
  · rw [if_neg hlt]
    change (if last < count then sum _ _ >>= _ else _) = _
    rw [if_neg hlt]
    rfl

/-- A page under an offset cursor, worked out in words. -/
def checkedOffsetPage (rows : List Json) (limit : UInt64) (token : Option String) :
    Except Error Page := do
  checkedPage rows (← OffsetCursor.start token) limit fun next => OffsetCursor.encode ⟨next⟩

/-- A page of logged models, worked out in words. -/
def checkedModelsPage (inventory : Inventory) (query : LoggedModelQuery) (token : Option String) :
    Except Error Page := do
  checkedPage (inventory.rowsInScope query) (← modelsStart token) query.limit fun next =>
    (modelsCursor query next).encode

theorem checkedOffsetPage_eq {rows : List Json} (hfits : rows.length < UInt64.size)
    (limit : UInt64) (token : Option String) :
    checkedOffsetPage rows limit token = offsetPage rows limit token := by
  unfold checkedOffsetPage offsetPage
  cases OffsetCursor.start token with
  | error e => rfl
  | ok offset => exact checkedPage_eq hfits offset limit _

theorem checkedModelsPage_eq {inventory : Inventory} (hfits : inventory.Fits)
    (query : LoggedModelQuery) (token : Option String) :
    checkedModelsPage inventory query token = inventory.searchLoggedModels query token := by
  unfold checkedModelsPage searchLoggedModels
  cases modelsStart token with
  | error e => rfl
  | ok offset => exact checkedPage_eq (hfits.rowsInScope query) offset query.limit _

end Inventory

namespace Memory

/-- The calls on a tracker in memory that works its pages out in words. -/
def checked : Tracker Memory where
  runExperiment := tracker.runExperiment
  loggedModelExperiment := tracker.loggedModelExperiment
  experimentNamed := tracker.experimentNamed
  searchExperiments query token := search fun inventory =>
    Inventory.checkedOffsetPage (inventory.experiments.map Inventory.experimentRow) query.limit
      token
  searchModels query token := search fun inventory =>
    Inventory.checkedOffsetPage (inventory.models.map Inventory.modelRow) query.limit token
  searchLoggedModels query token := search (·.checkedModelsPage query token)

variable {inventory : Inventory}

theorem checked_offset (hfits : inventory.Fits) (query : OffsetQuery) (token : Option String)
    (searches : Nat) : exec (query.find checked token) ⟨inventory, searches⟩ =
      exec (query.find tracker token) ⟨inventory, searches⟩ := by
  have hpage := Inventory.checkedOffsetPage_eq (hfits.rows query) query.limit token
  cases query with
  | experiments query =>
      refine ((exec_search _ _).trans ?_).trans (exec_search _ _).symm
      exact congrArg (·, _) hpage
  | models query =>
      refine ((exec_search _ _).trans ?_).trans (exec_search _ _).symm
      exact congrArg (·, _) hpage

theorem checked_loggedModels (hfits : inventory.Fits) (query : LoggedModelQuery)
    (token : Option String) (searches : Nat) :
    exec (checked.searchLoggedModels query token) ⟨inventory, searches⟩ =
      exec (tracker.searchLoggedModels query token) ⟨inventory, searches⟩ := by
  refine ((exec_search _ _).trans ?_).trans (exec_search _ _).symm
  exact congrArg (·, _) (Inventory.checkedModelsPage_eq hfits query token)

/-- Searches with checks are searches in memory as well. -/
theorem answers_checked_offset (hfits : inventory.Fits) (query : OffsetQuery) :
    Answers (fun token => query.find checked (some token))
      (fun token => OffsetCursor.start (some token)) offsetText query.limit.toNat
      (query.rows inventory) inventory := by
  intro token searches
  rw [checked_offset hfits query (some token) searches]
  exact answers_offset query inventory token searches

theorem answers_checked_loggedModels (hfits : inventory.Fits) (query : LoggedModelQuery) :
    Answers (fun token => checked.searchLoggedModels query (some token))
      (fun token => Inventory.modelsStart (some token)) (modelsOffsetText query)
      query.limit.toNat (inventory.rowsInScope query) inventory := by
  intro token searches
  rw [checked_loggedModels hfits query (some token) searches]
  exact answers_loggedModels query inventory token searches

end Memory

namespace Narrowing

/-- An outcome that is no failure, or the failure to read a cursor. -/
def Complains {α : Type} (outcome : Except Error α) : Prop :=
  ∀ e, outcome = .error e → ∃ cause, e = .badParameter cause

/-- Such an outcome is not that of a sum out of range. -/
theorem Complains.ne_fault {α : Type} {outcome : Except Error α} (h : Complains outcome) :
    outcome ≠ .error (.fault .offset) := by
  intro hfault
  rcases h _ hfault with ⟨cause, hcause⟩
  exact nomatch hcause

theorem Complains.ok {α : Type} (a : α) : Complains (.ok a : Except Error α) :=
  fun _ h => nomatch h

/-- The same failure of something else. -/
theorem Complains.error {α β : Type} {outcome : Except Error α} (h : Complains outcome)
    {e : Error} (he : outcome = .error e) : Complains (.error e : Except Error β) := by
  intro e' he'
  rw [← Except.error.inj he']
  exact h e he

theorem Complains.map {α β : Type} {outcome : Except Error α} (h : Complains outcome)
    (f : α → β) : Complains (outcome.map f) := by
  cases outcome with
  | ok a => exact .ok (f a)
  | error e => exact h.error rfl

/-- A text is read as a cursor, or it is complained about. An empty one is none. -/
theorem complains_read {α : Type} (decode : Tree → Option α) (place : α → UInt64)
    (token : String) : Complains (if token.isEmpty then .ok 0
      else (Cursor.read decode token).map place) := by
  by_cases htext : token.isEmpty = true
  · rw [if_pos htext]
    exact .ok 0
  · rw [if_neg htext]
    exact Complains.map (fun e he => Cursor.eq_badParameter_of_read he) place

theorem complains_start (token : Option String) : Complains (OffsetCursor.start token) := by
  cases token with
  | none => exact .ok 0
  | some token => exact complains_read OffsetCursor.ofTree? (·.offset) token

theorem complains_modelsStart (token : Option String) :
    Complains (Inventory.modelsStart token) := by
  cases token with
  | none => exact .ok 0
  | some token => exact complains_read ModelsCursor.ofTree? (·.offset) token

theorem find_complains (query : OffsetQuery) (token : Option String) (memory : Memory) :
    Complains (exec (query.find Memory.tracker token) memory).1 := by
  cases query with
  | experiments query => exact (complains_start token).map _
  | models query => exact (complains_start token).map _

section Rounds

variable {readable : Json → Bool} {all : List Json} {inventory : Inventory}

theorem refill_complains {search : OffsetSearch Memory}
    (h : Answers search.fetch (fun token => OffsetCursor.start (some token)) offsetText
      search.limit.toNat all inventory) (hfits : all.length < UInt64.size) (before : List Json)
    (place : Place) (searches : Nat) :
    Complains (exec (refill search readable before place) ⟨inventory, searches⟩).1 := by
  by_cases hroom : before.length < search.limit.toNat
  · cases hstart : place.offset with
    | ok start =>
        rcases refill_searches readable h hfits before place hstart searches with
          ⟨result, count, hrun, -⟩
        rw [hrun]
        exact .ok result
    | error e =>
        -- The first search cannot read the cursor.
        have hread := place.start_text.trans hstart
        rw [exec_refill_error hroom (h.error hread searches)]
        exact (complains_start _).error hread
  · rw [exec_refill_full hroom]
    exact .ok _

theorem refillModels_complains {tracker : Tracker Memory} {query : LoggedModelQuery}
    (h : Answers (fun token => tracker.searchLoggedModels query (some token))
      (fun token => Inventory.modelsStart (some token)) (modelsOffsetText query)
      query.limit.toNat all inventory) (hfits : all.length < UInt64.size) (before : List Json)
    (token : String) (htext : token.isEmpty = false) (searches : Nat) :
    Complains (exec (refillModels tracker query readable before (.given token))
      ⟨inventory, searches⟩).1 := by
  by_cases hroom : before.length < query.limit.toNat
  · cases hstart : (Place.given token).modelsOffset with
    | ok start =>
        -- From a cursor that can be read the refill over such a tracker succeeds.
        rcases refillModels_searches readable h hfits (by omega) before _ hstart
          htext searches with ⟨result, count, hrun, -⟩
        rw [hrun]
        exact .ok result
    | error e =>
        -- A cursor that cannot be read is refused by the tracker first.
        have hread : Inventory.modelsStart (some token) = .error e :=
          (Place.modelsStart_text (.given token) query htext).trans hstart
        rw [exec_refillModels_error hroom (h.error hread searches)]
        exact (complains_modelsStart _).error hread
  · rw [exec_refillModels_full hroom]
    exact .ok _

theorem narrowWith_complains {σ : Type} {field : String} {response : Json} {s : σ}
    {refilling : List Json → String → Action σ (List Json × Option String)}
    (h : ∀ rows token, token.isEmpty = false → Complains (exec (refilling rows token) s).1) :
    Complains (exec (narrowWith readable field refilling response) s).1 := by
  cases htoken : tokenOf response with
  | none =>
      rw [exec_narrowWith_none htoken]
      exact .ok _
  | some token =>
      rw [exec_narrowWith_some htoken rfl]
      exact (h _ token (isEmpty_of_tokenOf htoken)).map _

variable {tracker : Tracker Memory}

theorem narrowed_complains (hfits : inventory.Fits) (query : OffsetQuery)
    (h : Answers (fun token => query.find tracker (some token))
      (fun token => OffsetCursor.start (some token)) offsetText query.limit.toNat
      (query.rows inventory) inventory)
    (readability : Readability) (response : Json) (searches : Nat) :
    Complains (exec (query.narrowed tracker readability response) ⟨inventory, searches⟩).1 := by
  rw [query.narrowed_eq, narrow_eq]
  refine narrowWith_complains ?_
  intro rows token htext
  exact refill_complains h (hfits.rows query) rows (.given token) searches

theorem loggedModels_complains (hfits : inventory.Fits) (query : LoggedModelQuery)
    (h : Answers (fun token => tracker.searchLoggedModels query (some token))
      (fun token => Inventory.modelsStart (some token)) (modelsOffsetText query)
      query.limit.toNat (inventory.rowsInScope query) inventory)
    (readability : Readability) (response : Json) (searches : Nat) :
    Complains (exec (loggedModels tracker readability query response)
      ⟨inventory, searches⟩).1 := by
  rw [loggedModels_eq]
  refine narrowWith_complains ?_
  intro rows token htext
  exact refillModels_complains h (hfits.rowsInScope query) rows token htext searches

end Rounds

/-- Over a tracker in memory every sum of offsets and numbers of rows is a word, whatever cursor a
client gives and however many rows it asks for, and so every page is made of rows that there are.
With all sums and bounds checked, searches bring what they bring without, and neither they nor the
narrowing of a response, over either of these trackers, come upon one that is out of range. -/
theorem sums_in_range (inventory : Inventory) (hfits : inventory.Fits) (searches : Nat) :
    (∀ (query : OffsetQuery) (token : Option String),
      exec (query.find Memory.checked token) ⟨inventory, searches⟩ =
        exec (query.find Memory.tracker token) ⟨inventory, searches⟩ ∧
      (exec (query.find Memory.checked token) ⟨inventory, searches⟩).1 ≠
        .error (.fault .offset)) ∧
    (∀ (query : LoggedModelQuery) (token : Option String),
      exec (Memory.checked.searchLoggedModels query token) ⟨inventory, searches⟩ =
        exec (Memory.tracker.searchLoggedModels query token) ⟨inventory, searches⟩ ∧
      (exec (Memory.checked.searchLoggedModels query token) ⟨inventory, searches⟩).1 ≠
        .error (.fault .offset)) ∧
    ∀ tracker, tracker = Memory.tracker ∨ tracker = Memory.checked →
      ∀ (readability : Readability) (response : Json),
        (∀ query : OffsetQuery,
          (exec (query.narrowed tracker readability response) ⟨inventory, searches⟩).1 ≠
            .error (.fault .offset)) ∧
        ∀ query : LoggedModelQuery,
          (exec (loggedModels tracker readability query response) ⟨inventory, searches⟩).1 ≠
            .error (.fault .offset) := by
  refine ⟨?_, ?_, ?_⟩
  · intro query token
    -- The checked search does what the other one does, which complains of cursors only.
    have hsame := Memory.checked_offset hfits query token searches
    refine ⟨hsame, ?_⟩
    rw [hsame]
    exact (find_complains query token _).ne_fault
  · intro query token
    have hsame := Memory.checked_loggedModels hfits query token searches
    refine ⟨hsame, ?_⟩
    rw [hsame]
    exact ((complains_modelsStart token).map _).ne_fault
  · rintro tracker (rfl | rfl) readability response
    · -- Both trackers answer the searches of a narrowing in the same way.
      exact ⟨fun query => (narrowed_complains hfits query
          (Memory.answers_offset query inventory) readability response searches).ne_fault,
        fun query => (loggedModels_complains hfits query
          (Memory.answers_loggedModels query inventory) readability response searches).ne_fault⟩
    · exact ⟨fun query => (narrowed_complains hfits query
          (Memory.answers_checked_offset hfits query) readability response searches).ne_fault,
        fun query => (loggedModels_complains hfits query
          (Memory.answers_checked_loggedModels hfits query) readability response
          searches).ne_fault⟩

/-- From the second of three experiments on, and from the greatest offset on, with the greatest
number of rows asked for. -/
theorem sums_in_range_greatest :
    let inventory : Inventory :=
      ⟨[("7", "x"), ("8", "y"), ("9", "z")], [], [("1", "7"), ("2", "8"), ("3", "9")], []⟩
    let greatest : UInt64 := 18446744073709551615
    let query : ExperimentQuery := ⟨greatest, none, [], none⟩
    let response : Json :=
      .object [("next_page_token", .string (OffsetCursor.encode ⟨greatest⟩))]
    inventory.Fits ∧
      (exec (Memory.checked.searchExperiments query (some (OffsetCursor.encode ⟨1⟩)))
        ⟨inventory, 0⟩).1 =
        .ok ⟨[Inventory.experimentRow ("8", "y"), Inventory.experimentRow ("9", "z")], none⟩ ∧
      (exec (Memory.checked.searchExperiments query (some (OffsetCursor.encode ⟨greatest⟩)))
        ⟨inventory, 0⟩).1 = .ok ⟨[], none⟩ ∧
      (exec (experiments Memory.checked ⟨[], false⟩ query response) ⟨inventory, 0⟩).1 ≠
        .error (.fault .offset) := by
  intro inventory greatest query response
  have hfits : inventory.Fits := ⟨by decide, by decide, by decide⟩
  rcases sums_in_range inventory hfits 0 with ⟨hsearches, -, hnarrowed⟩
  have hanswers := Memory.answers_offset (.experiments query) inventory
  refine ⟨hfits, ?_, ?_, ?_⟩
  · have hsame := (hsearches (.experiments query) (some (OffsetCursor.encode ⟨1⟩))).1
    exact congrArg Prod.fst (hsame.trans (hanswers.ok (OffsetCursor.start_encode 1) 0))
  · have hsame := (hsearches (.experiments query) (some (OffsetCursor.encode ⟨greatest⟩))).1
    exact congrArg Prod.fst (hsame.trans (hanswers.ok (OffsetCursor.start_encode greatest) 0))
  · exact (hnarrowed Memory.checked (.inr rfl) ⟨[], false⟩ response).1 (.experiments query)

end Narrowing

end Gatehouse
