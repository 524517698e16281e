import Gatehouse.Json.Number
import Gatehouse.Proofs.Text.Utf8
import Mathlib.Data.List.Basic
import Mathlib.Data.List.TakeWhile

/-!
# Written integers

A natural number below `2 ^ 64` is read back from its decimal digits. Reading gathers the
digits from the left, so every front of the digits has to fit the word as well, and it
refuses a zero in front, so the digits of a positive number must not start with one. Both
follow from the same recursion: the digits of `n` are those of `n / 10` with one more.

## Main definitions

* `decimal`: The decimal digits of a number as bytes.
* `Numeral.digitValues`: The values of these digits.

## Theorems

* `decimal_step`: The digits of a number of two or more places.
* `Numeral.gather_digitValues`: The digits of a number below `2 ^ 64` gather to it.
* `Numeral.ofBytes?_decimal`: The digits are a numeral without further parts.
* `Numeral.number?_decimal`: The numeral denotes the number.
-/

namespace Gatehouse

/-- The decimal digits of a number as bytes. -/
def decimal (n : Nat) : Bytes := (Nat.toDigits 10 n).map Text.asciiByte

theorem decimal_of_lt {n : Nat} (h : n < 10) : decimal n = [UInt8.ofNat (48 + n)] := by
  have hall : ∀ m, m < 10 → decimal m = [UInt8.ofNat (48 + m)] := by decide
  exact hall n h

theorem decimal_step {n : Nat} (h : 10 ≤ n) :
    decimal n = decimal (n / 10) ++ [UInt8.ofNat (48 + n % 10)] := by
  have hd : Nat.toDigits 10 n = Nat.toDigits 10 (n / 10) ++ [Nat.digitChar (n % 10)] :=
    Nat.toDigits_of_base_le (by decide) h
  have hl : decimal (n % 10) = [UInt8.ofNat (48 + n % 10)] := decimal_of_lt (by omega)
  rw [decimal, Nat.toDigits_of_lt_base (by omega : n % 10 < 10)] at hl
  rw [decimal, hd, List.map_append, hl, ← decimal]

namespace Numeral

theorem isDigit_ofNat {d : Nat} (h : d < 10) : isDigit (UInt8.ofNat (48 + d)) = true := by
  have hall : ∀ e, e < 10 → isDigit (UInt8.ofNat (48 + e)) = true := by decide
  exact hall d h

theorem isDigit_decimal (n : Nat) : ∀ b ∈ decimal n, isDigit b = true := by
  induction n using Nat.strongRecOn with
  | _ n ih =>
    by_cases h : n < 10
    · rw [decimal_of_lt h]
      intro b hb
      rw [List.mem_singleton.1 hb]
      exact isDigit_ofNat h
    · rw [decimal_step (by omega)]
      intro b hb
      rcases List.mem_append.1 hb with hb | hb
      · exact ih (n / 10) (by omega) b hb
      · rw [List.mem_singleton.1 hb]
        exact isDigit_ofNat (by omega)

/-- The values of the decimal digits of a number. -/
def digitValues (n : Nat) : List Nat := (decimal n).map fun b => b.toNat - 48

theorem digitValues_of_lt {n : Nat} (h : n < 10) : digitValues n = [n] := by
  rw [digitValues, decimal_of_lt h, List.map_singleton, UInt8.toNat_ofNat',
    Nat.mod_eq_of_lt (by omega), Nat.add_sub_cancel_left]

theorem digitValues_step {n : Nat} (h : 10 ≤ n) :
    digitValues n = digitValues (n / 10) ++ [n % 10] := by
  rw [digitValues, decimal_step h, List.map_append, List.map_singleton, UInt8.toNat_ofNat',
    Nat.mod_eq_of_lt (by omega), Nat.add_sub_cancel_left, ← digitValues]

theorem digitValues_ne_nil (n : Nat) : digitValues n ≠ [] := by
  by_cases h : n < 10
  · rw [digitValues_of_lt h]
    exact List.cons_ne_nil _ _
  · rw [digitValues_step (by omega)]
    exact List.append_ne_nil_of_right_ne_nil _ (List.cons_ne_nil _ _)

theorem decimal_ne_nil (n : Nat) : decimal n ≠ [] :=
  fun h => digitValues_ne_nil n (by rw [digitValues, h, List.map_nil])

/-- Only the number zero starts with the digit zero. -/
theorem head_digitValues {n : Nat} (h : 0 < n) : (digitValues n).head? ≠ some 0 := by
  induction n using Nat.strongRecOn with
  | _ n ih =>
    by_cases hn : n < 10
    · rw [digitValues_of_lt hn, List.head?_cons]
      simp only [ne_eq, Option.some.injEq]
      omega
    · -- The first digit stays the first one when another one is put behind it.
      rw [digitValues_step (by omega), List.head?_append_of_ne_nil _ (digitValues_ne_nil _)]
      exact ih (n / 10) (by omega) (by omega)

theorem gather_append_digit {start n d : Nat} {digits : List Nat}
    (h : gather start digits = (n, 0)) (hn : n * 10 + d < UInt64.size) :
    gather start (digits ++ [d]) = (n * 10 + d, 0) := by
  induction digits generalizing start with
  | nil =>
      simp only [gather, Prod.mk.injEq, and_true] at h
      subst h
      simp only [List.nil_append, gather, if_pos hn]
  | cons e rest ih =>
      simp only [gather] at h
      -- Where a digit does not fit, the rest is left over, so nothing was left over before.
      split at h
      · next hlt =>
        rw [List.cons_append, gather]
        simp only [if_pos hlt]
        exact ih h
      · simp only [Prod.mk.injEq, Nat.add_eq_zero_iff, Nat.one_ne_zero, and_false] at h

theorem gather_digitValues {n : Nat} (h : n < UInt64.size) : gather 0 (digitValues n) = (n, 0) := by
  induction n using Nat.strongRecOn with
  | _ n ih =>
    by_cases hn : n < 10
    · rw [digitValues_of_lt hn]
      simp only [gather, Nat.zero_mul, Nat.zero_add, if_pos h]
    · -- The number without its last digit fits as well.
      have hstep := gather_append_digit (d := n % 10) (ih (n / 10) (by omega) (by omega))
        (by omega)
      rw [digitValues_step (by omega), hstep]
      congr 1
      omega

theorem takeDigits_decimal (n : Nat) : takeDigits (decimal n) = (digitValues n, []) := by
  have ht : (decimal n).takeWhile isDigit = decimal n :=
    List.takeWhile_eq_self_iff.2 (isDigit_decimal n)
  have hd : (decimal n).dropWhile isDigit = [] :=
    List.dropWhile_eq_nil_iff.2 (isDigit_decimal n)
  rw [takeDigits, ht, hd, digitValues]

theorem ofBytes?_decimal (n : Nat) :
    ofBytes? (decimal n) = some ⟨false, digitValues n, [], none⟩ := by
  -- There is no sign in front, and no zero that another digit follows.
  have hsign : ∀ rest : Bytes, decimal n ≠ 45 :: rest := by
    intro rest hc
    have hm := isDigit_decimal n 45 (by rw [hc]; exact List.mem_cons_self ..)
    exact absurd hm (by decide)
  have hzero : ∀ d rest, digitValues n ≠ 0 :: d :: rest := by
    intro d rest hc
    rcases Nat.eq_zero_or_pos n with rfl | hn
    · rw [digitValues_of_lt (by decide)] at hc
      simp only [List.cons.injEq, reduceCtorEq, and_false] at hc
    · exact head_digitValues hn (by rw [hc, List.head?_cons])
  unfold ofBytes?
  split
  next negative text hm =>
    split at hm
    · next rest hc => exact absurd hc (hsign rest)
    · obtain ⟨rfl, rfl⟩ := Prod.mk.inj hm
      rw [takeDigits_decimal]
      split
      · next hc => exact absurd (congrArg Prod.fst hc) (digitValues_ne_nil n)
      · next hc => exact absurd (congrArg Prod.fst hc) (hzero _ _)
      · next hc => exact absurd (congrArg Prod.snd hc) (by simp)
      · next hc =>
          obtain ⟨rfl, rfl⟩ := Prod.mk.inj hc
          rfl

theorem number?_decimal {n : Nat} (h : n < UInt64.size) :
    number? ⟨false, digitValues n, [], none⟩ = some (.integer n) := by
  simp only [number?, gather_digitValues h, List.isEmpty_nil, Option.isNone_none,
    Bool.and_self, decide_true, Bool.not_false, if_true]

end Numeral

end Gatehouse
