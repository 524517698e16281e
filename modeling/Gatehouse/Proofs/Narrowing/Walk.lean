import Gatehouse.Proofs.Action
import Gatehouse.Proofs.Cursor
import Gatehouse.Proofs.Narrowing.Response

/-!
# Walks along cursors

A client reads a long list page by page: it searches, has the page narrowed, and follows the
cursor that it got until it gets none. The tracker that it searches may cut a page short, as
long as its cursors lead on right behind the rows that it gave.

## Main definitions

* `Narrowing.walk`: The client.
* `Narrowing.CursorAt`, `Narrowing.Serves`, `Narrowing.Honours`: Trackers that honour
  offsets.
* `Narrowing.offsetText`: The offset cursors.
* `Narrowing.Carries`: Responses that carry a page.
* `Narrowing.slice`: The rows between two offsets.
* `Narrowing.wholePage`: A page that is as long as asked for.
* `Narrowing.Paged`: Pages that hold a list in order and are filled as far as they can be.

## Theorems

* `Narrowing.slice_append`: Rows in two parts.
* `Narrowing.serves_wholePage`: A page that is as long as asked for may be served.
* `Narrowing.exec_walk_last`, `Narrowing.exec_walk_more`: One round of a walk.
* `Narrowing.Paged.last`, `Narrowing.Paged.cons`: Pages in front of pages.
-/

namespace Gatehouse

namespace Narrowing

open Gatehouse.Action

variable {σ : Type}

/-- The rows of the narrowed pages that a client gets who follows the cursors from one on,
unless there are more pages than it asks for. -/
def walk (find : Option String → Action σ Page) (answer : Page → Json)
    (narrowed : Json → Action σ Json) (field : String) :
    Nat → Option String → Action σ (Option (List (List Json)))
  | 0, _ => pure none
  | rounds + 1, token => do
    let page ← find token
    let response ← narrowed (answer page)
    match tokenOf response with
    | none => pure (some [rowsOf field response])
    | some next =>
      (·.map (rowsOf field response :: ·)) <$>
        walk find answer narrowed field rounds (some next)

/-- A cursor that stands for an offset: none for the first row, else a written one. -/
def CursorAt (write : Nat → String) (token : Option String) (offset : Nat) : Prop :=
  token = none ∧ offset = 0 ∨ token = some (write offset)

/-- The pages that may be served at an offset: some rows from there, not more than are asked
for, with the cursor behind them unless they are the last ones; and nothing behind the last
row. -/
inductive Serves (write : Nat → String) (limit : Nat) (rows : List Json) (offset : Nat)
    (page : Page) : Prop
  | part (count : Nat) (hpos : 0 < count) (hlimit : count ≤ limit)
      (hfit : offset + count ≤ rows.length) (hitems : page.items = (rows.drop offset).take count)
      (hnext : page.next =
        if offset + count < rows.length then some (write (offset + count)) else none)
  | past (hpast : rows.length ≤ offset) (hitems : page.items = []) (hnext : page.next = none)

/-- A search over rows that honours cursors, however short it cuts its pages, in the states
where it has these rows. Offsets are words, so the rows are fewer than there are words. -/
structure Honours (find : Option String → Action σ Page) (write : Nat → String) (limit : Nat)
    (rows : List Json) (holds : σ → Prop) : Prop where
  fits : rows.length < UInt64.size
  serves : ∀ s token offset, holds s → offset < UInt64.size → CursorAt write token offset →
    ∃ page s', exec (find token) s = (.ok page, s') ∧ holds s' ∧
      Serves write limit rows offset page

/-- The cursor of an offset. -/
def offsetText (offset : Nat) : String := OffsetCursor.encode ⟨UInt64.ofNat offset⟩

theorem isEmpty_offsetText (offset : Nat) : (offsetText offset).isEmpty = false :=
  OffsetCursor.isEmpty_encode _

theorem CursorAt.start_eq {token : Option String} {offset : Nat}
    (h : CursorAt offsetText token offset) :
    OffsetCursor.start token = .ok (UInt64.ofNat offset) := by
  rcases h with ⟨rfl, rfl⟩ | rfl
  · rfl
  · exact OffsetCursor.start_encode (UInt64.ofNat offset)

/-- A response that is an object with the rows and the cursor of a page. -/
def Carries (field : String) (page : Page) (response : Json) : Prop :=
  ∃ members, response = .object members ∧ rowsOf field response = page.items ∧
    tokenOf response = page.next.filter (!·.isEmpty)

theorem carries_finish {field : String} (hf : field ≠ tokenField)
    (members : List (String × Json)) (page : Page) :
    Carries field page (finish (.object members) field page.items page.next) := by
  -- Only the members change, so the response stays an object.
  have hobject : ∃ members', finish (.object members) field page.items page.next =
      .object members' := by
    cases page.next with
    | none => exact ⟨_, rfl⟩
    | some next => exact ⟨_, rfl⟩
  obtain ⟨members', hobject⟩ := hobject
  exact ⟨members', hobject, rowsOf_finish hf, tokenOf_finish⟩

/-- The rows between two offsets. -/
def slice (rows : List Json) (start stop : Nat) : List Json := (rows.drop start).take (stop - start)

theorem slice_self (rows : List Json) (offset : Nat) : slice rows offset offset = [] := by
  rw [slice, Nat.sub_self, List.take_zero]

theorem slice_length (rows : List Json) (start : Nat) :
    slice rows start rows.length = rows.drop start := by
  rw [slice, ← List.length_drop, List.take_length]

/-- Two slices, one behind the other. -/
theorem slice_append (rows : List Json) {start middle stop : Nat} (hstart : start ≤ middle)
    (hstop : middle ≤ stop) :
    slice rows start middle ++ slice rows middle stop = slice rows start stop := by
  have hsplit : stop - start = (middle - start) + (stop - middle) := by omega
  have hdrop : (rows.drop start).drop (middle - start) = rows.drop middle := by
    rw [List.drop_drop]
    congr 1
    omega
  rw [slice, slice, slice, hsplit, List.take_add, hdrop]

/-- The page at an offset that holds as many rows as are asked for and as there are. -/
def wholePage (write : Nat → String) (limit : Nat) (rows : List Json) (offset : Nat) : Page :=
  ⟨(rows.drop offset).take limit,
    if offset + limit < rows.length then some (write (offset + limit)) else none⟩

/-- A page with another one behind it ends where its cursor stands. -/
theorem wholePage_more {write : Nat → String} {limit : Nat} {rows : List Json} {offset : Nat}
    (h : offset + limit < rows.length) : wholePage write limit rows offset =
      ⟨slice rows offset (offset + limit), some (write (offset + limit))⟩ := by
  rw [wholePage, if_pos h, slice, Nat.add_sub_cancel_left]

/-- The last page holds all rows from its offset on. -/
theorem wholePage_last {write : Nat → String} {limit : Nat} {rows : List Json} {offset : Nat}
    (h : ¬ offset + limit < rows.length) :
    wholePage write limit rows offset = ⟨rows.drop offset, none⟩ := by
  rw [wholePage, if_neg h, List.take_of_length_le]
  rw [List.length_drop]
  omega

/-- Such a page may be served. -/
theorem serves_wholePage {write : Nat → String} {limit : Nat} {rows : List Json} {offset : Nat}
    (hlimit : 0 < limit) : Serves write limit rows offset (wholePage write limit rows offset) := by
  by_cases hmore : offset + limit < rows.length
  · rw [wholePage_more hmore, slice, Nat.add_sub_cancel_left]
    exact .part limit hlimit (Nat.le_refl _) (Nat.le_of_lt hmore) rfl (if_pos hmore).symm
  · rw [wholePage_last hmore]
    by_cases hpast : rows.length ≤ offset
    · exact .past hpast (List.drop_eq_nil_of_le hpast) rfl
    · -- All rows that are left.
      refine .part (rows.length - offset) (by omega) (by omega) (by omega) ?_ ?_
      · rw [← List.length_drop, List.take_length]
      · rw [if_neg (by omega)]

/-- Pages that hold rows in order, each once. No page is longer than the limit, and a page is
shorter only where fewer rows than that were left for it. -/
structure Paged (limit : Nat) (rows : List Json) (pages : List (List Json)) : Prop where
  exact : pages.flatten = rows
  bounded : ∀ page ∈ pages, page.length ≤ limit
  full : ∀ before page after, pages = before ++ page :: after →
    limit ≤ (rows.drop before.flatten.length).length → page.length = limit

namespace Paged

variable {limit : Nat} {page rest : List Json} {pages : List (List Json)}

theorem cons (hbound : page.length ≤ limit)
    (hfull : limit ≤ (page ++ rest).length → page.length = limit)
    (h : Paged limit rest pages) : Paged limit (page ++ rest) (page :: pages) where
  exact := by rw [List.flatten_cons, h.exact]
  bounded other hmem := by
    rcases List.mem_cons.1 hmem with rfl | hmem
    · exact hbound
    · exact h.bounded other hmem
  full before other after heq hlong := by
    -- The page in question is the new one, or one of the others behind it.
    cases before with
    | nil =>
        obtain ⟨rfl, -⟩ := List.cons.inj heq
        exact hfull hlong
    | cons first before =>
        obtain ⟨rfl, rfl⟩ := List.cons.inj heq
        refine h.full before other after rfl ?_
        rw [List.flatten_cons, List.length_append, List.drop_append] at hlong
        simpa using hlong

theorem last (hbound : page.length ≤ limit) : Paged limit page [page] where
  exact := List.append_nil page
  bounded other hmem := by
    obtain rfl := List.mem_singleton.1 hmem
    exact hbound
  full before other after heq hlong := by
    cases before with
    | nil =>
        obtain ⟨rfl, -⟩ := List.cons.inj heq
        exact Nat.le_antisymm hbound hlong
    | cons first before => exact absurd (List.cons.inj heq).2 (by simp)

end Paged

section Rounds

variable {find : Option String → Action σ Page} {answer : Page → Json}
  {narrowed : Json → Action σ Json} {field : String} {token : Option String} {page : Page}
  {response : Json} {s s' s'' : σ}

theorem exec_walk_last (rounds : Nat) (hfind : exec (find token) s = (.ok page, s'))
    (hnarrowed : exec (narrowed (answer page)) s' = (.ok response, s''))
    (ht : tokenOf response = none) :
    exec (walk find answer narrowed field (rounds + 1) token) s =
      (.ok (some [rowsOf field response]), s'') := by
  rw [walk, exec_bind_ok hfind, exec_bind_ok hnarrowed, ht]
  rfl

theorem exec_walk_more (rounds : Nat) {next : String}
    (hfind : exec (find token) s = (.ok page, s'))
    (hnarrowed : exec (narrowed (answer page)) s' = (.ok response, s''))
    (ht : tokenOf response = some next) :
    exec (walk find answer narrowed field (rounds + 1) token) s =
      ((exec (walk find answer narrowed field rounds (some next)) s'').1.map
          (·.map (rowsOf field response :: ·)),
        (exec (walk find answer narrowed field rounds (some next)) s'').2) := by
  rw [walk, exec_bind_ok hfind, exec_bind_ok hnarrowed, ht]
  exact exec_bind_pure _ _ _

theorem exec_walk_error (rounds : Nat) {e : Error}
    (hfind : exec (find token) s = (.ok page, s'))
    (hnarrowed : exec (narrowed (answer page)) s' = (.error e, s'')) :
    exec (walk find answer narrowed field (rounds + 1) token) s = (.error e, s'') := by
  rw [walk, exec_bind_ok hfind, exec_bind_error hnarrowed]

end Rounds

end Narrowing

end Gatehouse
