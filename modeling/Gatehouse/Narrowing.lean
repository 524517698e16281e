import Gatehouse.Readability
import Gatehouse.Tracker

/-!
# Narrowing of search results

A page of results is narrowed to the rows that the user may read, and filled up again
with rows from further searches. The cursor that goes with it is the place after the last
row that was looked at. With offset cursors the next search starts there too, so following
them skips no row and repeats none. For logged models it does not: after a page that left
room it starts as many rows further on as were asked for, and if the page was shorter than
that, the rows between its end and there are skipped.

Places only move forward: every further search starts at a greater offset than the one
before, and offsets are words of 64 bits, so the refill ends whatever the tracker answers.
A sum of offsets that does not fit into a word is a fault, as it is in a build that checks
its sums; a build without these checks wraps around and goes on from a small offset.

## Main definitions

* `Place`: Where the next search starts.
* `OffsetSearch`, `refill`: Refilling from searches with offset cursors.
* `fillRoom`, `refillModels`: The same for logged models, whose last page is marked.
* `Narrowing.experiments`, `Narrowing.models`, `Narrowing.loggedModels`: The narrowed
  response of each kind of search.
-/

namespace Gatehouse

namespace Narrowing

/-- The member of a response that holds the next cursor. -/
def tokenField : String := "next_page_token"

/-- The rows that a response holds in a member. -/
def rowsOf (field : String) (response : Json) : List Json :=
  ((response.get? field).bind Json.array?).getD []

/-- The cursor that a response holds; an empty one counts as none. -/
def tokenOf (response : Json) : Option String :=
  ((response.get? tokenField).bind Json.string?).filter (!·.isEmpty)

/-- The response with these rows and this cursor. -/
def finish (response : Json) (field : String) (rows : List Json) (token : Option String) :
    Json :=
  let response := response.set field (.array rows)
  match token with
  | some token => response.set tokenField (.string token)
  | none => response.erase tokenField

/-- Whether a row may be read, by the key at a path in it. -/
def readableAt (path : List String) (readability : Readability) (row : Json) : Bool :=
  readability.canRead ((row.at? path).bind Json.string?)

/-- Where a search starts: at a cursor that was given, or at an offset that is known. -/
inductive Place where
  | given (token : String)
  | known (offset : UInt64)

namespace Place

/-- How far a place is from the end of all offsets. -/
def ahead : Place → Nat
  | given _ => UInt64.size + 1
  | known offset => UInt64.size - offset.toNat

/-- The offset cursor of a place. -/
def text : Place → String
  | given token => token
  | known offset => OffsetCursor.encode ⟨offset⟩

/-- The offset of a place. -/
def offset : Place → Except Error UInt64
  | given token => OffsetCursor.start (some token)
  | known offset => .ok offset

theorem ahead_lt {place : Place} {start : UInt64} {moved : Nat}
    (hs : place.offset = .ok start) (hm : 0 < moved) (hl : start.toNat + moved < UInt64.size) :
    (known (UInt64.ofNat (start.toNat + moved))).ahead < place.ahead := by
  have hn : (UInt64.ofNat (start.toNat + moved)).toNat = start.toNat + moved :=
    UInt64.toNat_ofNat_of_lt' hl
  cases place with
  | given token => simp only [ahead, hn]; omega
  | known offset =>
    obtain rfl : offset = start := by simpa [Place.offset] using hs
    simp only [ahead, hn]; omega

end Place

/-- A search whose pages have offset cursors: the member with its rows, the path of their
key, how many rows are asked for, and the call for a page. -/
structure OffsetSearch (σ : Type) where
  field : String
  key : List String
  limit : UInt64
  fetch : String → Action σ Page

/-- The rows with further readable ones up to the limit, and the next cursor. A page that
brings nothing ends the search. One that ends behind the greatest offset is a fault, the sum
being checked. -/
def refill {σ : Type} (search : OffsetSearch σ) (readable : Json → Bool) (rows : List Json)
    (place : Place) : Action σ (List Json × Option String) := do
  if rows.length < search.limit.toNat then
    let page ← search.fetch place.text
    -- The cursor moves on by what there is room for; rows beyond that are found by a later search.
    let batch := page.items.take (search.limit.toNat - rows.length)
    -- A page that brings nothing is the end, whatever cursor it has.
    if _hb : 0 < batch.length then
      match _hs : place.offset with
      | .error e => throw e
      | .ok start =>
        if _hl : start.toNat + batch.length < UInt64.size then
          refill search readable (rows ++ batch.filter readable)
            (.known (UInt64.ofNat (start.toNat + batch.length)))
        else throw (.fault .offset)
    else pure (rows, none)
  else pure (rows, some place.text)
termination_by place.ahead
decreasing_by exact Place.ahead_lt _hs _hb _hl

/-- A response narrowed by a search with offset cursors. -/
def narrow {σ : Type} (search : OffsetSearch σ) (readability : Readability)
    (response : Json) : Action σ Json := do
  let readable := readableAt search.key readability
  let rows := (rowsOf search.field response).filter readable
  let (rows, token) ← match tokenOf response with
    | some token => refill search readable rows (.given token)
    | none => pure (rows, none)
  pure (finish response search.field rows token)

/-- The response of a search for experiments with the rows that may be read. -/
def experiments {σ : Type} (tracker : Tracker σ) (readability : Readability)
    (query : ExperimentQuery) (response : Json) : Action σ Json :=
  narrow ⟨"experiments", ["experiment_id"], query.limit,
    fun token => tracker.searchExperiments query (some token)⟩ readability response

/-- The response of a search for registered models with the rows that may be read. -/
def models {σ : Type} (tracker : Tracker σ) (readability : Readability)
    (query : ModelQuery) (response : Json) : Action σ Json :=
  narrow ⟨"registered_models", ["name"], query.limit,
    fun token => tracker.searchModels query (some token)⟩ readability response

/-- The readable rows of a batch up to the room there is, and how many rows of the batch
were looked at when the room was filled before its end or at it. -/
def fillRoom (readable : Json → Bool) : Nat → List Json → List Json × Option Nat
  | _, [] => ([], none)
  | room, row :: rest =>
    if readable row then
      if room ≤ 1 then ([row], some 1)
      else
        let (rows, seen) := fillRoom readable (room - 1) rest
        (row :: rows, seen.map (· + 1))
    else
      let (rows, seen) := fillRoom readable room rest
      (rows, seen.map (· + 1))

/-- The cursor of a query for logged models at an offset. -/
def modelsText (query : LoggedModelQuery) (offset : UInt64) : String :=
  ModelsCursor.encode ⟨offset, query.experimentIds, query.filter, query.order⟩

/-- The logged-model cursor of a place. -/
def Place.modelsText (query : LoggedModelQuery) : Place → String
  | given token => token
  | known offset => Narrowing.modelsText query offset

/-- The logged-model offset of a place. -/
def Place.modelsOffset : Place → Except Error UInt64
  | given token => (ModelsCursor.decode token).map (·.offset)
  | known offset => .ok offset

/-- The place a number of rows further on. The sum is checked: it is a fault if there is no
offset so far on. -/
def further (start : UInt64) (moved : Nat) : Except Error Place :=
  if start.toNat + moved < UInt64.size then .ok (.known (UInt64.ofNat (start.toNat + moved)))
  else .error (.fault .offset)

theorem ahead_further {place next : Place} {start : UInt64} {moved : Nat}
    (hs : place.modelsOffset = .ok start) (hm : 0 < moved)
    (hn : further start moved = .ok next) : next.ahead < place.ahead := by
  unfold further at hn
  split at hn
  · next hl =>
    obtain rfl : Place.known (UInt64.ofNat (start.toNat + moved)) = next := by simpa using hn
    have ht : (UInt64.ofNat (start.toNat + moved)).toNat = start.toNat + moved :=
      UInt64.toNat_ofNat_of_lt' hl
    cases place with
    | given token => simp only [Place.ahead, ht]; omega
    | known offset =>
      obtain rfl : offset = start := by simpa [Place.modelsOffset] using hs
      simp only [Place.ahead, ht]; omega
  · simp at hn

/-- The rows with further readable logged models up to the limit, and the next cursor. The
last page ends the search without another one, and a cursor that would lead to nothing is
dropped. -/
def refillModels {σ : Type} (tracker : Tracker σ) (query : LoggedModelQuery)
    (readable : Json → Bool) (rows : List Json) (place : Place) :
    Action σ (List Json × Option String) := do
  if _hr : rows.length < query.limit.toNat then
    let page ← tracker.searchLoggedModels query (some (place.modelsText query))
    match _hs : place.modelsOffset with
    | .error e => throw e
    | .ok start =>
      match fillRoom readable (query.limit.toNat - rows.length) page.items with
      | (more, some seen) =>
        -- The room is filled; unless this was the last row of all, the cursor is the one behind it.
        if page.next.isNone && seen == page.items.length then pure (rows ++ more, none)
        else
          let next ← Action.of (further start seen)
          pure (rows ++ more, some (next.modelsText query))
      | (more, none) =>
        if page.next.isNone then pure (rows ++ more, none)
        else
          -- The next search starts as many rows further on as were asked for, also if the page had
          -- fewer.
          match _hn : further start query.limit.toNat with
          | .error e => throw e
          | .ok next => refillModels tracker query readable (rows ++ more) next
  else pure (rows, some (place.modelsText query))
termination_by place.ahead
decreasing_by exact ahead_further _hs (by omega) _hn

/-- The response of a search for logged models with the rows whose experiment may be
read. -/
def loggedModels {σ : Type} (tracker : Tracker σ) (readability : Readability)
    (query : LoggedModelQuery) (response : Json) : Action σ Json := do
  let readable := readableAt ["info", "experiment_id"] readability
  let rows := (rowsOf "models" response).filter readable
  let (rows, token) ← match tokenOf response with
    | some token => refillModels tracker query readable rows (.given token)
    | none => pure (rows, none)
  pure (finish response "models" rows token)

end Narrowing

end Gatehouse
