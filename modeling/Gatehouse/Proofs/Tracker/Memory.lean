import Gatehouse.Proofs.Narrowing.Walk
import Gatehouse.Tracker.Memory

/-!
# Trackers in memory honour cursors

A tracker in memory serves each page from the offset of the cursor that it is given, as full
as it can, and leads on right behind it. Searches change nothing but their own count.

## Theorems

* `Inventory.page_eq`, `Inventory.offsetPage_eq`: The page at an offset.
* `Memory.honours_experiments`, `Memory.honours_models`: Searches with offset cursors.
-/

namespace Gatehouse

open Gatehouse.Action Narrowing

namespace Inventory

/-- The page at an offset is as long as asked for, unless the rows end before. Behind the last row
it is empty. -/
theorem page_eq (rows : List Json) (cursor : UInt64 → String) (offset limit : UInt64) :
    page rows offset limit cursor =
      wholePage (fun n => cursor (UInt64.ofNat n)) limit.toNat rows offset.toNat := by
  by_cases hmore : offset.toNat + limit.toNat < rows.length
  · -- The window ends before the rows do, so it is as long as asked for.
    have hfirst : min offset.toNat rows.length = offset.toNat := by omega
    have hlast : min (offset.toNat + limit.toNat) rows.length = offset.toNat + limit.toNat := by
      omega
    have hcount : ((rows.drop offset.toNat).take limit.toNat).length = limit.toNat := by
      rw [List.length_take, List.length_drop]
      omega
    have hnext : offset + UInt64.ofNat limit.toNat =
        UInt64.ofNat (offset.toNat + limit.toNat) := by
      rw [UInt64.ofNat_add, UInt64.ofNat_toNat, UInt64.ofNat_toNat]
    simp only [page, window, hfirst, hlast, Nat.add_sub_cancel_left, hcount, hnext, wholePage,
      hmore, decide_true, if_true]
  · -- It holds what is left of them, which may be nothing.
    have hlast : min (min offset.toNat rows.length + limit.toNat) rows.length = rows.length := by
      omega
    have hitems : (rows.drop (min offset.toNat rows.length)).take
        (rows.length - min offset.toNat rows.length) = rows.drop offset.toNat := by
      rw [← List.length_drop, List.take_length]
      by_cases hpast : offset.toNat ≤ rows.length
      · rw [Nat.min_eq_left hpast]
      · rw [Nat.min_eq_right (by omega), List.drop_length, List.drop_eq_nil_of_le (by omega)]
    rw [wholePage_last hmore]
    simp only [page, window, hlast, hitems, Nat.lt_irrefl, decide_false, Bool.false_eq_true,
      if_false]

/-- A page under an offset cursor is the one at its offset. -/
theorem offsetPage_eq (rows : List Json) (limit : UInt64) (token : Option String) :
    offsetPage rows limit token = (OffsetCursor.start token).map fun offset =>
      wholePage offsetText limit.toNat rows offset.toNat := by
  unfold offsetPage
  congr 1
  funext offset
  exact page_eq rows _ offset limit

theorem serves_offsetPage (rows : List Json) {limit : UInt64} (hlimit : 0 < limit.toNat)
    {token : Option String} {offset : Nat} (hoffset : offset < UInt64.size)
    (hat : CursorAt offsetText token offset) : ∃ page,
      offsetPage rows limit token = .ok page ∧
        Serves offsetText limit.toNat rows offset page := by
  have hword : (UInt64.ofNat offset).toNat = offset := UInt64.toNat_ofNat_of_lt' hoffset
  refine ⟨wholePage offsetText limit.toNat rows offset, ?_, serves_wholePage hlimit⟩
  rw [offsetPage_eq, hat.start_eq, Except.map, hword]

end Inventory

namespace Memory

theorem exec_search {α : Type} (f : Inventory → Except Error α) (memory : Memory) :
    exec (search f) memory =
      (f memory.inventory, { memory with searches := memory.searches + 1 }) := rfl

theorem honours_experiments (query : ExperimentQuery) (inventory : Inventory)
    (hlimit : 0 < query.limit.toNat) (hfits : inventory.experiments.length < UInt64.size) :
    Honours (tracker.searchExperiments query) offsetText query.limit.toNat
      (inventory.experiments.map Inventory.experimentRow) (·.inventory = inventory) where
  fits := by rw [List.length_map]; exact hfits
  serves memory token offset hm hoffset hat := by
    obtain ⟨page, hpage, hserves⟩ := Inventory.serves_offsetPage
      (inventory.experiments.map Inventory.experimentRow) hlimit hoffset hat
    subst hm
    refine ⟨page, ⟨memory.inventory, memory.searches + 1⟩, (exec_search _ memory).trans ?_, rfl,
      hserves⟩
    rw [Inventory.searchExperiments, hpage]

theorem honours_models (query : ModelQuery) (inventory : Inventory)
    (hlimit : 0 < query.limit.toNat) (hfits : inventory.models.length < UInt64.size) :
    Honours (tracker.searchModels query) offsetText query.limit.toNat
      (inventory.models.map Inventory.modelRow) (·.inventory = inventory) where
  fits := by rw [List.length_map]; exact hfits
  serves memory token offset hm hoffset hat := by
    obtain ⟨page, hpage, hserves⟩ := Inventory.serves_offsetPage
      (inventory.models.map Inventory.modelRow) hlimit hoffset hat
    subst hm
    refine ⟨page, ⟨memory.inventory, memory.searches + 1⟩, (exec_search _ memory).trans ?_, rfl,
      hserves⟩
    rw [Inventory.searchModels, hpage]

end Memory

end Gatehouse
