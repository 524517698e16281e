import Gatehouse.Text.Blank
import Gatehouse.Text.Form

/-!
# Texts taken apart

What is before a separator, what the pieces between separators consist of, and when there is
nothing to take from the ends of a text.

## Theorems

* `Text.splitOn_append`: The first piece is what stands before the first separator.
* `Text.splitOn_append_cons`: The pieces before a separator and those behind it.
* `Text.splitOn_joinWith`: Pieces without separators are found again.
* `Text.mem_splitOn`, `Text.mem_joinWith`: What the pieces and what they make consist of.
* `Text.joinWith_append`, `Text.joinWith_prefix`: What is made of more pieces.
* `Text.splitFirst_append`, `Text.splitFirst_of_not_mem`: A text with and without a separator.
* `Text.splitFirst_eq_some_iff`: Where the first separator stands.
* `Text.trimList_eq_self`: A text that has nothing to drop.
* `Text.trimList_eq_iff`: What is dropped stands at the ends.
-/

namespace Gatehouse.Text

variable {α : Type} [DecidableEq α] {separator : α}

theorem splitOn_cons_self (rest : List α) :
    splitOn separator (separator :: rest) = [] :: splitOn separator rest := by
  rw [splitOn, if_pos rfl]

theorem splitOn_cons_of_ne {x : α} (h : x ≠ separator) (rest : List α) :
    ∃ piece pieces, splitOn separator rest = piece :: pieces ∧
      splitOn separator (x :: rest) = (x :: piece) :: pieces := by
  obtain ⟨piece, pieces, hs⟩ := List.exists_cons_of_ne_nil (splitOn_ne_nil separator rest)
  refine ⟨piece, pieces, hs, ?_⟩
  rw [splitOn, if_neg h, hs]

/-- The first piece is what stands before the first separator. -/
theorem splitOn_append {xs : List α} (h : separator ∉ xs) (rest : List α) :
    splitOn separator (xs ++ separator :: rest) = xs :: splitOn separator rest := by
  induction xs with
  | nil => exact splitOn_cons_self rest
  | cons x xs ih =>
      have hx : x ≠ separator := fun hx => h (hx ▸ List.mem_cons_self)
      have hxs := ih fun hmem => h (List.mem_cons_of_mem _ hmem)
      rw [List.cons_append, splitOn, if_neg hx, hxs]

/-- Separators in front of all else make as many empty pieces. -/
theorem splitOn_replicate (n : Nat) (rest : List α) :
    splitOn separator (List.replicate n separator ++ rest) =
      List.replicate n [] ++ splitOn separator rest := by
  induction n with
  | zero => rfl
  | succ n ih =>
      rw [List.replicate_succ, List.cons_append, splitOn_cons_self, ih, List.replicate_succ,
        List.cons_append]

/-- A separator ends the last piece before it and starts the first one behind it. -/
theorem splitOn_append_cons (xs rest : List α) : splitOn separator (xs ++ separator :: rest) =
    splitOn separator xs ++ splitOn separator rest := by
  induction xs with
  | nil => exact splitOn_cons_self rest
  | cons x xs ih =>
      by_cases hx : x = separator
      · rw [hx, List.cons_append, splitOn_cons_self, splitOn_cons_self, ih, List.cons_append]
      · rcases splitOn_cons_of_ne hx xs with ⟨piece, pieces, hs, hcons⟩
        rw [hcons, List.cons_append, splitOn, if_neg hx, ih, hs, List.cons_append,
          List.cons_append]

theorem splitOn_of_not_mem {xs : List α} (h : separator ∉ xs) : splitOn separator xs = [xs] := by
  induction xs with
  | nil => rfl
  | cons x xs ih =>
      rw [List.mem_cons, not_or] at h
      rcases splitOn_cons_of_ne (Ne.symm h.1) xs with ⟨piece, pieces, hs, hcons⟩
      rw [ih h.2] at hs
      rw [hcons, ← (List.cons.inj hs).1, ← (List.cons.inj hs).2]

/-- Pieces without separators are found again in what they make. -/
theorem splitOn_joinWith {pieces : List (List α)} (hne : pieces ≠ [])
    (h : ∀ piece ∈ pieces, separator ∉ piece) : splitOn separator (joinWith separator pieces) =
      pieces := by
  induction pieces with
  | nil => exact absurd rfl hne
  | cons piece rest ih =>
      have hpiece := h piece List.mem_cons_self
      cases rest with
      | nil => exact splitOn_of_not_mem hpiece
      | cons next rest =>
          have hjoin : joinWith separator (piece :: next :: rest) =
              piece ++ separator :: joinWith separator (next :: rest) := rfl
          rw [hjoin, splitOn_append hpiece,
            ih (List.cons_ne_nil next rest) fun p hp => h p (List.mem_cons_of_mem piece hp)]

theorem splitFirst_append {xs : List α} (h : separator ∉ xs) (rest : List α) :
    splitFirst separator (xs ++ separator :: rest) = (xs, some rest) := by
  induction xs with
  | nil => rw [List.nil_append, splitFirst, if_pos rfl]
  | cons x xs ih =>
      have hx : x ≠ separator := fun hx => h (hx ▸ List.mem_cons_self)
      rw [List.cons_append, splitFirst, if_neg hx, ih fun hmem => h (List.mem_cons_of_mem _ hmem)]

theorem splitFirst_of_not_mem {xs : List α} (h : separator ∉ xs) :
    splitFirst separator xs = (xs, none) := by
  induction xs with
  | nil => rfl
  | cons x xs ih =>
      have hx : x ≠ separator := fun hx => h (hx ▸ List.mem_cons_self)
      rw [splitFirst, if_neg hx, ih fun hmem => h (List.mem_cons_of_mem _ hmem)]

/-- The first separator stands between what is before it and all the rest. -/
theorem splitFirst_eq_some_iff {xs before after : List α} :
    splitFirst separator xs = (before, some after) ↔
      xs = before ++ separator :: after ∧ separator ∉ before := by
  constructor
  · intro h
    by_cases hmem : separator ∈ xs
    · rcases List.eq_append_cons_of_mem hmem with ⟨front, rest, hxs, hfront⟩
      rw [hxs, splitFirst_append hfront] at h
      rcases Prod.mk.inj h with ⟨rfl, hrest⟩
      exact ⟨by rw [hxs, Option.some.inj hrest], hfront⟩
    · rw [splitFirst_of_not_mem hmem] at h
      exact nomatch (Prod.mk.inj h).2
  · rintro ⟨rfl, hbefore⟩
    exact splitFirst_append hbefore after

theorem mem_splitOn {xs piece : List α} (h : piece ∈ splitOn separator xs) {x : α}
    (hx : x ∈ piece) : x ∈ xs ∧ x ≠ separator := by
  induction xs generalizing piece with
  | nil =>
      rw [splitOn, List.mem_singleton] at h
      rw [h] at hx
      cases hx
  | cons y rest ih =>
      -- A separator opens a new piece; anything else goes to the first one.
      by_cases hy : y = separator
      · rw [hy, splitOn_cons_self] at h
        rcases List.mem_cons.1 h with rfl | h
        · cases hx
        · exact ⟨List.mem_cons_of_mem _ (ih h hx).1, (ih h hx).2⟩
      · obtain ⟨first, pieces, hs, hcons⟩ := splitOn_cons_of_ne hy rest
        rw [hcons] at h
        rw [hs] at ih
        rcases List.mem_cons.1 h with rfl | h
        · rcases List.mem_cons.1 hx with rfl | hx
          · exact ⟨List.mem_cons_self, hy⟩
          · have hin := ih List.mem_cons_self hx
            exact ⟨List.mem_cons_of_mem _ hin.1, hin.2⟩
        · have hin := ih (List.mem_cons_of_mem _ h) hx
          exact ⟨List.mem_cons_of_mem _ hin.1, hin.2⟩

theorem mem_joinWith {α : Type} {separator : α} {pieces : List (List α)} {x : α}
    (h : x ∈ joinWith separator pieces) : x = separator ∨ ∃ piece ∈ pieces, x ∈ piece := by
  induction pieces with
  | nil => cases h
  | cons piece rest ih =>
      cases rest with
      | nil => exact .inr ⟨piece, List.mem_cons_self, h⟩
      | cons next rest =>
          rw [joinWith] at h
          · rcases List.mem_append.1 h with hin | hin
            · exact .inr ⟨piece, List.mem_cons_self, hin⟩
            · rcases List.mem_cons.1 hin with rfl | hlater
              · exact .inl rfl
              · rcases ih hlater with hsep | ⟨other, hother, hx⟩
                · exact .inl hsep
                · exact .inr ⟨other, List.mem_cons_of_mem _ hother, hx⟩
          · intro h
            cases h

theorem joinWith_cons {α : Type} (separator : α) (piece : List α) {rest : List (List α)}
    (h : rest ≠ []) :
    joinWith separator (piece :: rest) = piece ++ separator :: joinWith separator rest := by
  cases rest with
  | nil => exact absurd rfl h
  | cons => rfl

/-- The pieces of two lists have one more separator between them. -/
theorem joinWith_append {α : Type} {separator : α} {front rest : List (List α)}
    (hfront : front ≠ []) (hrest : rest ≠ []) : joinWith separator (front ++ rest) =
      joinWith separator front ++ separator :: joinWith separator rest := by
  induction front with
  | nil => exact absurd rfl hfront
  | cons piece front ih =>
      rw [List.cons_append,
        joinWith_cons separator piece (List.append_ne_nil_of_right_ne_nil _ hrest)]
      cases front with
      | nil => rfl
      | cons next front =>
          have hne := List.cons_ne_nil next front
          rw [ih hne, joinWith_cons separator piece hne, List.append_assoc, List.cons_append]

/-- What the first pieces make stands at the front of what all of them make. -/
theorem joinWith_prefix {α : Type} (separator : α) (front rest : List (List α)) :
    joinWith separator front <+: joinWith separator (front ++ rest) := by
  by_cases hfront : front = []
  · rw [hfront]
    exact List.nil_prefix
  · by_cases hrest : rest = []
    · exact ⟨[], by rw [hrest, List.append_nil, List.append_nil]⟩
    · rw [joinWith_append hfront hrest]
      exact List.prefix_append _ _

theorem dropWhile_eq_self_of_forall {p : Char → Bool} {cs : List Char}
    (h : ∀ c ∈ cs, p c = false) : cs.dropWhile p = cs := by
  cases cs with
  | nil => rfl
  | cons c rest => rw [List.dropWhile_cons_of_neg (by simp [h c (List.mem_cons_self ..)])]

theorem trimList_eq_self {p : Char → Bool} {cs : List Char} (h : ∀ c ∈ cs, p c = false) :
    trimList p cs = cs := by
  rw [trimList, dropWhile_eq_self_of_forall h,
    dropWhile_eq_self_of_forall (fun c hc => h c (List.mem_reverse.1 hc)), List.reverse_reverse]

/-- What is dropped stands at the ends, around a text without such characters. -/
theorem trimList_eq_iff {p : Char → Bool} {cs core : List Char} (h : ∀ c ∈ core, p c = false) :
    trimList p cs = core ↔ ∃ before after, cs = before ++ core ++ after ∧
      (∀ c ∈ before, p c = true) ∧ ∀ c ∈ after, p c = true := by
  constructor
  · rintro rfl
    refine ⟨cs.takeWhile p, ((cs.dropWhile p).reverse.takeWhile p).reverse, ?_, ?_, ?_⟩
    · rw [trimList, List.append_assoc, ← List.reverse_append, List.takeWhile_append_dropWhile,
        List.reverse_reverse, List.takeWhile_append_dropWhile]
    · exact List.all_eq_true.1 List.all_takeWhile
    · intro c hc
      exact List.all_eq_true.1 List.all_takeWhile c (List.mem_reverse.1 hc)
  · rintro ⟨before, after, rfl, hbefore, hafter⟩
    rw [trimList, List.append_assoc, List.dropWhile_append_of_pos hbefore]
    cases core with
    | nil =>
        have hnone : (after ++ []).dropWhile p = [] := List.dropWhile_append_of_pos hafter
        rw [List.append_nil] at hnone
        rw [List.nil_append, hnone]
        rfl
    | cons c rest =>
        -- The first character that stays ends what is dropped in front of it.
        have hc : ¬ p c = true := by
          rw [h c List.mem_cons_self]
          exact Bool.false_ne_true
        rw [List.cons_append, List.dropWhile_cons_of_neg hc, ← List.cons_append,
          List.reverse_append,
          List.dropWhile_append_of_pos fun x hx => hafter x (List.mem_reverse.1 hx),
          dropWhile_eq_self_of_forall fun x hx => h x (List.mem_reverse.1 hx),
          List.reverse_reverse]

end Gatehouse.Text
