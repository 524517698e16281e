import Gatehouse.Text.Numeral
import Mathlib.Algebra.GroupWithZero.Nat
import Mathlib.Data.List.Basic
import Mathlib.Data.List.Induction

/-!
# Numerals read back

The digits that a number is written with spell that number, in every base that digits are read
in, and digits spell no number with more places than there are digits.

## Theorems

* `Text.number?_toDigits`: The digits of a number spell it.
* `Text.number?_lt`: A bound on what digits spell.
* `Text.mem_toDigits`: What holds for all digits holds for those of a number.
* `Text.foldl_toDigits`: The values of the digits of a number add up to it.
-/

namespace Gatehouse.Text

theorem digit?_digitChar {base d : Nat} (hbase : base ≤ 16) (h : d < base) :
    digit? base (Nat.digitChar d) = some d := by
  have hall : ∀ k : Fin 16, digit? 16 (Nat.digitChar k) = some k.val := by decide
  have hd := hall ⟨d, by omega⟩
  simp only [digit?, Option.bind_eq_some_iff] at hd ⊢
  rcases hd with ⟨value, hvalue, hif⟩
  refine ⟨value, hvalue, ?_⟩
  -- In a smaller base the digit counts as long as its value is below the base.
  split at hif
  · next hlow =>
    rw [Bool.and_eq_true, decide_eq_true_eq, decide_eq_true_eq] at hlow
    have hsame := Option.some.inj hif
    rw [if_pos (by rw [Bool.and_eq_true, decide_eq_true_eq, decide_eq_true_eq]; omega), hsame]
  · exact nomatch hif

theorem digit?_lt {base d : Nat} {c : Char} (h : digit? base c = some d) : d < base := by
  rcases Option.bind_eq_some_iff.1 h with ⟨value, -, hif⟩
  split at hif
  · next hlow =>
    rw [Bool.and_eq_true, decide_eq_true_eq, decide_eq_true_eq] at hlow
    exact Option.some.inj hif ▸ hlow.2
  · exact nomatch hif

theorem number?_singleton (base : Nat) (c : Char) : number? base [c] = digit? base c := by
  simp only [number?, numberFrom?, List.foldlM_cons, List.foldlM_nil, Nat.zero_mul, Nat.zero_add,
    Option.map_id', bind_pure]

theorem number?_concat (base : Nat) (front : List Char) (c : Char) : number? base (front ++ [c]) =
    (number? base front).bind fun n => (digit? base c).map (n * base + ·) := by
  rw [number?_append]
  simp only [numberFrom?, List.foldlM_cons, List.foldlM_nil, bind_pure]

/-- The digits of a number spell it. -/
theorem number?_toDigits {base : Nat} (hbase : 1 < base) (hmax : base ≤ 16) (n : Nat) :
    number? base (Nat.toDigits base n) = some n := by
  induction n using Nat.strongRecOn with
  | _ n ih =>
    by_cases hn : n < base
    · rw [Nat.toDigits_of_lt_base hn, number?_singleton, digit?_digitChar hmax hn]
    · have hlast := Nat.mod_lt n (by omega : 0 < base)
      rw [Nat.toDigits_of_base_le hbase (by omega), number?_concat,
        ih (n / base) (Nat.div_lt_self (by omega) hbase), digit?_digitChar hmax hlast,
        Option.bind_some, Option.map_some, Nat.div_add_mod']

/-- A number has no more places than the digits that spell it. -/
theorem number?_lt {base n : Nat} {digits : List Char} (h : number? base digits = some n) :
    n < base ^ digits.length := by
  induction digits using List.reverseRecOn generalizing n with
  | nil =>
      obtain rfl : 0 = n := Option.some.inj h
      exact Nat.one_pos
  | append_singleton front c ih =>
      rw [number?_concat] at h
      rcases Option.bind_eq_some_iff.1 h with ⟨m, hm, hlast⟩
      rcases Option.map_eq_some_iff.1 hlast with ⟨d, hd, rfl⟩
      have hfront := ih hm
      have hdigit := digit?_lt hd
      rw [List.length_append, List.length_singleton, Nat.pow_succ]
      calc m * base + d < m * base + base := Nat.add_lt_add_left hdigit _
        _ = (m + 1) * base := (Nat.succ_mul m base).symm
        _ ≤ base ^ front.length * base := Nat.mul_le_mul_right base hfront

/-- What holds for all digits of a base holds for those of a number. -/
theorem mem_toDigits {p : Char → Prop} {base n : Nat} (hbase : 1 < base)
    (h : ∀ d, d < base → p (Nat.digitChar d)) : ∀ c ∈ Nat.toDigits base n, p c := by
  induction n using Nat.strongRecOn with
  | _ n ih =>
    intro c hc
    by_cases hn : n < base
    · rw [Nat.toDigits_of_lt_base hn, List.mem_singleton] at hc
      exact hc ▸ h n hn
    · rw [Nat.toDigits_of_base_le hbase (Nat.le_of_not_lt hn)] at hc
      rcases List.mem_append.1 hc with hrest | hlast
      · exact ih (n / base) (Nat.div_lt_self (by omega) hbase) c hrest
      · rw [List.mem_singleton.1 hlast]
        exact h _ (Nat.mod_lt n (by omega))

/-- Only the number zero starts with the digit zero. -/
theorem head_toDigits {n : Nat} (h : 0 < n) : (Nat.toDigits 10 n).head? ≠ some '0' := by
  induction n using Nat.strongRecOn with
  | _ n ih =>
    by_cases hn : n < 10
    · rw [Nat.toDigits_of_lt_base hn, List.head?_cons]
      have hall : ∀ k : Fin 10, 0 < k.val → some (Nat.digitChar k) ≠ some '0' := by decide
      exact hall ⟨n, hn⟩ h
    · -- The first digit stays the first one when another one is put behind it.
      rw [Nat.toDigits_of_base_le (by decide) (by omega),
        List.head?_append_of_ne_nil _ Nat.toDigits_ne_nil]
      exact ih (n / 10) (by omega) (by omega)

/-- A number is written with decimal digits. -/
theorem all_isDigit_toDigits (n : Nat) : (Nat.toDigits 10 n).all Char.isDigit = true :=
  List.all_eq_true.2 fun _ hc => Nat.isDigit_of_mem_toDigits (by decide) (by decide) hc

/-- The values of its digits add up to the number. -/
theorem foldl_toDigits (n : Nat) :
    (Nat.toDigits 10 n).foldl (fun m c => m * 10 + (c.toNat - 48)) 0 = n := by
  have hchars := Nat.ofDigitChars_toDigits (b := 10) (n := n) (by decide) (by decide)
  rw [Nat.ofDigitChars_eq_foldl] at hchars
  simp only [Nat.mul_comm 10] at hchars
  exact hchars

end Gatehouse.Text
