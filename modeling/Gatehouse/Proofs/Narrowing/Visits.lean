import Gatehouse.Proofs.Narrowing.Walk

/-!
# Searches as visits of a list

A search over a list of rows visits it: it starts at an offset and brings some rows. Where a
search starts behind the rows that the one before it brought, the rows between are skipped,
and this module keeps the account of them: what was kept, what was skipped and what is still
to come are together the readable rows.

## Main definitions

* `Narrowing.Visited`: The visits that written-down searches are.
* `Narrowing.skipped`: The readable rows between visits.
* `Narrowing.ends`: Where the last visit ends.
* `Narrowing.Joined`: Visits with no rows between them.
* `Narrowing.Accounts`: The account of the readable rows between two offsets.

## Theorems

* `Narrowing.Accounts.trans`: Accounts one behind the other.
* `Narrowing.Accounts.gap`, `Narrowing.Accounts.take`: Skipping and keeping rows.
* `Narrowing.Accounts.exact_iff`: Everything was kept where nothing was skipped.
-/

namespace Gatehouse

namespace Narrowing

/-- The visits that searches are, each with the offset of its cursor and the number of rows
that it brought. -/
inductive Visited (write : Nat → String) : List Searched → List (Nat × Nat) → Prop
  | nil : Visited write [] []
  | cons {token : Option String} {page : Page} {start : Nat} {searches : List Searched}
      {visits : List (Nat × Nat)} (hat : CursorAt write token start)
      (hrest : Visited write searches visits) :
      Visited write ((token, .ok page) :: searches) ((start, page.items.length) :: visits)

theorem Visited.append {write : Nat → String} {searches searches' : List Searched}
    {visits visits' : List (Nat × Nat)} (h : Visited write searches visits)
    (h' : Visited write searches' visits') :
    Visited write (searches ++ searches') (visits ++ visits') := by
  induction h with
  | nil => exact h'
  | cons hat _ ih => exact .cons hat ih

/-- The readable rows that lie between an offset and the first visit and between visits. -/
def skipped (readable : Json → Bool) (all : List Json) : Nat → List (Nat × Nat) → List Json
  | _, [] => []
  | stop, (start, count) :: rest =>
    ((all.drop stop).take (start - stop)).filter readable ++
      skipped readable all (start + count) rest

/-- Where the last visit ends, or where it would go on from without one. -/
def ends : Nat → List (Nat × Nat) → Nat
  | stop, [] => stop
  | _, (start, count) :: rest => ends (start + count) rest

/-- Visits that start inside the one before them or right behind it, so that no row lies
between them. -/
def Joined : Nat → List (Nat × Nat) → Prop
  | _, [] => True
  | stop, (start, count) :: rest => start ≤ stop ∧ Joined (start + count) rest

section Appended

variable {readable : Json → Bool} {all : List Json} {visits visits' : List (Nat × Nat)}

theorem skipped_cons (readable : Json → Bool) (all : List Json) (visits : List (Nat × Nat))
    (stop start count : Nat) :
    skipped readable all stop ((start, count) :: visits) =
      skipped readable all stop [(start, count)] ++
        skipped readable all (start + count) visits := by
  rw [skipped, skipped, skipped, List.append_nil]

theorem skipped_append (stop : Nat) : skipped readable all stop (visits ++ visits') =
    skipped readable all stop visits ++ skipped readable all (ends stop visits) visits' := by
  induction visits generalizing stop with
  | nil => rfl
  | cons visit rest ih =>
      obtain ⟨start, count⟩ := visit
      rw [List.cons_append, skipped, skipped, ends, ih, List.append_assoc]

theorem Joined.append {stop : Nat} (h : Joined stop visits)
    (h' : Joined (ends stop visits) visits') : Joined stop (visits ++ visits') := by
  induction visits generalizing stop with
  | nil => exact h'
  | cons visit rest ih => exact ⟨h.1, ih h.2 h'⟩

theorem Joined.skipped_eq_nil {stop : Nat} (h : Joined stop visits) :
    skipped readable all stop visits = [] := by
  induction visits generalizing stop with
  | nil => rfl
  | cons visit rest ih =>
      obtain ⟨start, count⟩ := visit
      rw [skipped, Nat.sub_eq_zero_of_le h.1, List.take_zero, List.filter_nil, List.nil_append]
      exact ih h.2

end Appended

/-- The account of the readable rows from one offset to another: what was kept is in their
order, and what was kept and what was lost are as many as they are. -/
structure Accounts (readable : Json → Bool) (all : List Json) (start : Nat)
    (kept lost : List Json) (stop : Nat) : Prop where
  ordered : List.Sublist (kept ++ (all.drop stop).filter readable)
    ((all.drop start).filter readable)
  counted : kept.length + lost.length + ((all.drop stop).filter readable).length =
    ((all.drop start).filter readable).length

/-- The readable rows from an offset on, in two parts. -/
theorem filter_drop (readable : Json → Bool) (all : List Json) (start count : Nat) :
    (all.drop start).filter readable =
      ((all.drop start).take count).filter readable ++
        (all.drop (start + count)).filter readable := by
  rw [← List.filter_append, ← List.drop_drop, List.take_append_drop]

namespace Accounts

variable (readable : Json → Bool) (all : List Json)

theorem refl (start : Nat) : Accounts readable all start [] [] start where
  ordered := List.Sublist.refl _
  counted := Nat.zero_add _

variable {readable all} in
theorem trans {start middle stop : Nat} {kept lost kept' lost' : List Json}
    (h : Accounts readable all start kept lost middle)
    (h' : Accounts readable all middle kept' lost' stop) :
    Accounts readable all start (kept ++ kept') (lost ++ lost') stop where
  ordered := by
    rw [List.append_assoc]
    exact (h'.ordered.append_left kept).trans h.ordered
  counted := by
    have := h.counted
    have := h'.counted
    rw [List.length_append, List.length_append]
    omega

theorem take (start count : Nat) :
    Accounts readable all start (((all.drop start).take count).filter readable) []
      (start + count) where
  ordered := by rw [← filter_drop]
  counted := by
    rw [filter_drop readable all start count, List.length_append, List.length_nil, Nat.add_zero]

/-- Going on at an offset loses the rows before it that were not visited. -/
theorem gap (stop start : Nat) :
    Accounts readable all (min stop start) []
      (((all.drop stop).take (start - stop)).filter readable) start := by
  by_cases hle : start ≤ stop
  · -- A visit that starts inside the one before it passes over nothing.
    rw [Nat.min_eq_right hle, Nat.sub_eq_zero_of_le hle, List.take_zero, List.filter_nil]
    exact refl readable all start
  · -- The rows up to the start are those that were passed over.
    have hsplit := filter_drop readable all stop (start - stop)
    have hstart : stop + (start - stop) = start := by omega
    rw [hstart] at hsplit
    rw [Nat.min_eq_left (by omega)]
    refine ⟨?_, ?_⟩
    · rw [hsplit, List.nil_append]
      exact List.sublist_append_right _ _
    · rw [hsplit, List.length_append, List.length_nil, Nat.zero_add]

/-- A visit: the rows before it are lost, and those that were looked at are kept. -/
theorem visit (stop start count looked : Nat) :
    Accounts readable all (min stop start) (((all.drop start).take looked).filter readable)
      (skipped readable all stop [(start, count)]) (start + looked) :=
  (gap readable all stop start).trans (take readable all start looked)

variable {readable all} in
/-- All readable rows were kept if and only if none was lost. -/
theorem exact_iff {start stop : Nat} {kept lost : List Json}
    (h : Accounts readable all start kept lost stop) (hstop : all.length ≤ stop) :
    List.Sublist kept ((all.drop start).filter readable) ∧
      (kept = (all.drop start).filter readable ↔ lost = []) := by
  -- Nothing is still to come, so what was kept is all of it or shorter.
  have hrest : (all.drop stop).filter readable = [] := by
    rw [List.drop_eq_nil_of_le hstop, List.filter_nil]
  have hordered := h.ordered
  have hcounted := h.counted
  rw [hrest, List.append_nil] at hordered
  rw [hrest, List.length_nil, Nat.add_zero] at hcounted
  refine ⟨hordered, fun hkept => ?_, fun hlost => ?_⟩
  · rw [hkept] at hcounted
    exact List.eq_nil_of_length_eq_zero (by omega)
  · rw [hlost, List.length_nil, Nat.add_zero] at hcounted
    exact hordered.eq_of_length hcounted

end Accounts

end Narrowing

end Gatehouse
