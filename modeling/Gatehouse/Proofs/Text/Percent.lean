import Gatehouse.Proofs.Text.Utf8
import Gatehouse.Text.Form

/-!
# Percent coding taken apart

A byte that is neither a percent sign nor a hexadecimal digit takes no part in an escape.
Decoding can be done on both sides of it apart, such a byte may be spelled out in front of
decoding without a difference, and replacing it by another one replaces it in what is
decoded. Bytes can be coded in many ways, and all of them are decoded to these bytes.

## Main definitions

* `isNeutral`: The bytes that take no part in an escape.
* `spellBytes`: The bytes of a set spelled out.
* `CodesFor`: The ways of percent-coding bytes.

## Theorems

* `length_percentDecode_le`, `percentDecode_eq_self_of_length`: Decoding makes nothing longer, and
  only escapes shorter.
* `CodesFor.percentDecode_eq`: Coded bytes are decoded.
* `percentDecode_split`: Decoding on both sides of a neutral byte.
* `percentDecode_spellBytes`: Decoding what was spelled out.
* `count_percentDecode_map`: Replacing a neutral byte.
-/

namespace Gatehouse.Text

/-- Whether a byte takes no part in an escape. -/
def isNeutral (b : UInt8) : Prop := b ≠ 37 ∧ hexValue? b = none

/-- The bytes of a set spelled out, the others as they are. -/
def spellBytes (coded : UInt8 → Bool) (bytes : Bytes) : Bytes :=
  bytes.flatMap fun b => if coded b then percentByte b else [b]

/-- Bytes that do not start with two hexadecimal digits. -/
def NoDigits (bytes : Bytes) : Prop :=
  ∀ c d rest, bytes = c :: d :: rest → hexValue? c = none ∨ hexValue? d = none

theorem percentDecode_escape {c d high low : UInt8} (hc : hexValue? c = some high)
    (hd : hexValue? d = some low) (rest : Bytes) :
    percentDecode (37 :: c :: d :: rest) = (high * 16 + low) :: percentDecode rest := by
  rw [percentDecode, if_pos rfl, hc, hd]

/-- Any byte but a percent sign with two digits behind it stands for itself. -/
theorem percentDecode_plain {b : UInt8} {rest : Bytes} (h : b = 37 → NoDigits rest) :
    percentDecode (b :: rest) = b :: percentDecode rest := by
  match rest, h with
  | [], _ => rfl
  | [c], _ => rfl
  | c :: d :: rest, h =>
      rw [percentDecode]
      by_cases hb : b = 37
      · -- Decoding gives up at the first byte that is no digit.
        rw [if_pos hb]
        rcases h hb c d rest rfl with hc | hd
        · rw [hc]
        · rw [hd]
          cases hexValue? c <;> rfl
      · rw [if_neg hb]

theorem escape_or_plain (b : UInt8) (rest : Bytes) :
    (b = 37 ∧ ∃ c d high low more, rest = c :: d :: more ∧ hexValue? c = some high ∧
      hexValue? d = some low) ∨ (b = 37 → NoDigits rest) := by
  match rest with
  | [] => exact .inr fun _ _ _ _ h => nomatch h
  | [c] => exact .inr fun _ _ _ _ h => nomatch (List.cons.inj h).2
  | c :: d :: more =>
      -- One of the two that is no digit is enough.
      have hnone (h : hexValue? c = none ∨ hexValue? d = none) : NoDigits (c :: d :: more) := by
        intro c' d' more' heq
        obtain ⟨rfl, hrest⟩ := List.cons.inj heq
        obtain ⟨rfl, -⟩ := List.cons.inj hrest
        exact h
      by_cases hb : b = 37
      · cases hc : hexValue? c with
        | none => exact .inr fun _ => hnone (.inl hc)
        | some high =>
            cases hd : hexValue? d with
            | none => exact .inr fun _ => hnone (.inr hd)
            | some low => exact .inl ⟨hb, c, d, high, low, more, rfl, hc, hd⟩
      · exact .inr fun h => absurd h hb

/-- Bytes taken apart as decoding does it: an escape, or a byte that stands for itself. -/
theorem percent_induction {motive : Bytes → Prop} (nil : motive [])
    (escape : ∀ c d high low rest, hexValue? c = some high → hexValue? d = some low →
      motive rest → motive (37 :: c :: d :: rest))
    (plain : ∀ b rest, (b = 37 → NoDigits rest) → motive rest → motive (b :: rest))
    (bytes : Bytes) : motive bytes := by
  -- An escape takes three bytes at once, so the induction is on the number of bytes.
  induction hn : bytes.length using Nat.strongRecOn generalizing bytes with
  | _ n ih =>
    subst hn
    cases bytes with
    | nil => exact nil
    | cons b rest =>
        rcases escape_or_plain b rest with ⟨rfl, c, d, high, low, more, rfl, hc, hd⟩ | h
        · refine escape c d high low more hc hd (ih _ ?_ more rfl)
          simp only [List.length_cons]
          omega
        · exact plain b rest h (ih _ (Nat.lt_succ_self _) rest rfl)

/-- Decoding makes nothing longer. -/
theorem length_percentDecode_le (bytes : Bytes) : (percentDecode bytes).length ≤ bytes.length := by
  induction bytes using percent_induction with
  | nil => exact Nat.le_refl _
  | escape c d high low rest hc hd ih =>
      rw [percentDecode_escape hc hd]
      simp only [List.length_cons]
      omega
  | plain b rest hplain ih =>
      rw [percentDecode_plain hplain]
      exact Nat.succ_le_succ ih

/-- What is not shorter when it is decoded has no escapes. -/
theorem percentDecode_eq_self_of_length {bytes : Bytes}
    (h : bytes.length ≤ (percentDecode bytes).length) : percentDecode bytes = bytes := by
  induction bytes using percent_induction with
  | nil => rfl
  | escape c d high low rest hc hd _ =>
      rw [percentDecode_escape hc hd] at h
      have hrest := length_percentDecode_le rest
      simp only [List.length_cons] at h
      omega
  | plain b rest hplain ih =>
      rw [percentDecode_plain hplain] at h ⊢
      rw [ih (Nat.le_of_succ_le_succ h)]

/-- Bytes without percent signs stand for themselves. -/
theorem percentDecode_eq_self {bytes : Bytes} (h : 37 ∉ bytes) : percentDecode bytes = bytes := by
  induction bytes with
  | nil => rfl
  | cons b rest ih =>
      rw [List.mem_cons, not_or] at h
      rw [percentDecode_plain fun hb => absurd hb.symm h.1, ih h.2]

theorem hexValue?_hexDigit {n : UInt8} (h : n < 16) : hexValue? (hexDigit n) = some n := by
  have hall : ∀ k : Fin 16, hexValue? (hexDigit (UInt8.ofNat k)) = some (UInt8.ofNat k) := by
    decide
  have hn := hall ⟨n.toNat, UInt8.lt_iff_toNat_lt.1 h⟩
  rwa [UInt8.ofNat_toNat] at hn

/-- A byte that is spelled out is spelled by two digits, the two halves of it. -/
theorem percentByte_eq (b : UInt8) : ∃ c d high low, percentByte b = [37, c, d] ∧
    hexValue? c = some high ∧ hexValue? d = some low ∧ high * 16 + low = b := by
  have hlt := b.toNat_lt
  have hhigh : b / 16 < 16 := by
    rw [UInt8.lt_iff_toNat_lt, UInt8.toNat_div]
    change b.toNat / 16 < 16
    omega
  have hlow : b % 16 < 16 := by
    rw [UInt8.lt_iff_toNat_lt, UInt8.toNat_mod]
    change b.toNat % 16 < 16
    omega
  have hvalue : b / 16 * 16 + b % 16 = b := by
    rw [← UInt8.toNat_inj, UInt8.toNat_add, UInt8.toNat_mul, UInt8.toNat_div, UInt8.toNat_mod]
    change (b.toNat / 16 * 16 % 256 + b.toNat % 16) % 256 = b.toNat
    omega
  exact ⟨_, _, _, _, rfl, hexValue?_hexDigit hhigh, hexValue?_hexDigit hlow, hvalue⟩

theorem percentDecode_percentByte (b : UInt8) (rest : Bytes) :
    percentDecode (percentByte b ++ rest) = b :: percentDecode rest := by
  rcases percentByte_eq b with ⟨c, d, high, low, hcoded, hc, hd, hvalue⟩
  rw [hcoded, List.cons_append, List.cons_append, List.cons_append, List.nil_append,
    percentDecode_escape hc hd, hvalue]

/-- The ways of percent-coding bytes: a percent sign is always spelled out, and any other byte may
be; the digits may be of either case. -/
inductive CodesFor : Bytes → Bytes → Prop
  | nil : CodesFor [] []
  | plain {b : UInt8} (hb : b ≠ 37) {coded bytes : Bytes} (rest : CodesFor coded bytes) :
      CodesFor (b :: coded) (b :: bytes)
  | escape {c d high low : UInt8} (hc : hexValue? c = some high) (hd : hexValue? d = some low)
      {coded bytes : Bytes} (rest : CodesFor coded bytes) :
      CodesFor (37 :: c :: d :: coded) ((high * 16 + low) :: bytes)

namespace CodesFor

variable {coded bytes : Bytes}

/-- Coded bytes are decoded. -/
theorem percentDecode_eq (h : CodesFor coded bytes) : percentDecode coded = bytes := by
  induction h with
  | nil => rfl
  | plain hb _ ih => rw [percentDecode_plain fun h => absurd h hb, ih]
  | escape hc hd _ ih => rw [percentDecode_escape hc hd, ih]

/-- A byte that takes no part in an escape stands for itself wherever it stands. -/
theorem mem_of_isNeutral (h : CodesFor coded bytes) {b : UInt8} (hb : isNeutral b)
    (hmem : b ∈ coded) : b ∈ bytes := by
  have hdigit {c value : UInt8} (hc : hexValue? c = some value) : b ≠ c := by
    rintro rfl
    rw [hb.2] at hc
    exact nomatch hc
  induction h with
  | nil => exact hmem
  | plain _ _ ih =>
      rcases List.mem_cons.1 hmem with rfl | hrest
      · exact List.mem_cons_self
      · exact List.mem_cons_of_mem _ (ih hrest)
  | escape hc hd _ ih =>
      -- The three bytes of an escape are others.
      rcases List.mem_cons.1 hmem with hpercent | hmem
      · exact absurd hpercent hb.1
      rcases List.mem_cons.1 hmem with hfirst | hmem
      · exact absurd hfirst (hdigit hc)
      rcases List.mem_cons.1 hmem with hsecond | hrest
      · exact absurd hsecond (hdigit hd)
      · exact List.mem_cons_of_mem _ (ih hrest)

/-- Coded bytes may stand side by side. -/
theorem append (h : CodesFor coded bytes) {more rest : Bytes} (hmore : CodesFor more rest) :
    CodesFor (coded ++ more) (bytes ++ rest) := by
  induction h with
  | nil => exact hmore
  | plain hb _ ih => exact .plain hb ih
  | escape hc hd _ ih => exact .escape hc hd ih

/-- Bytes without percent signs may stand for themselves. -/
theorem self (h : 37 ∉ bytes) : CodesFor bytes bytes := by
  induction bytes with
  | nil => exact .nil
  | cons b rest ih =>
      rw [List.mem_cons, not_or] at h
      exact .plain (Ne.symm h.1) (ih h.2)

/-- Any byte may be spelled out. -/
theorem percentByte (b : UInt8) : CodesFor (percentByte b) [b] := by
  rcases percentByte_eq b with ⟨c, d, high, low, hcoded, hc, hd, rfl⟩
  rw [hcoded]
  exact .escape hc hd .nil

end CodesFor

theorem NoDigits.append_neutral {b : UInt8} (hb : isNeutral b) {xs : Bytes} (h : NoDigits xs)
    (ys : Bytes) : NoDigits (xs ++ b :: ys) := by
  -- The neutral byte is one of the first two, or these were in front of it all along.
  intro c d rest heq
  match xs, h, heq with
  | [], _, heq =>
      obtain ⟨rfl, -⟩ := List.cons.inj heq
      exact .inl hb.2
  | [x], _, heq =>
      obtain ⟨-, htail⟩ := List.cons.inj heq
      obtain ⟨rfl, -⟩ := List.cons.inj htail
      exact .inr hb.2
  | x :: y :: xs, h, heq =>
      obtain ⟨rfl, htail⟩ := List.cons.inj heq
      obtain ⟨rfl, -⟩ := List.cons.inj htail
      exact h x y xs rfl

/-- Decoding can be done on both sides of a neutral byte. -/
theorem percentDecode_split {b : UInt8} (hb : isNeutral b) (xs ys : Bytes) :
    percentDecode (xs ++ b :: ys) = percentDecode xs ++ b :: percentDecode ys := by
  induction xs using percent_induction with
  | nil => exact percentDecode_plain fun h => absurd h hb.1
  | escape c d high low rest hc hd ih =>
      rw [List.cons_append, List.cons_append, List.cons_append, percentDecode_escape hc hd,
        percentDecode_escape hc hd, ih, List.cons_append]
  | plain a rest hplain ih =>
      rw [List.cons_append, percentDecode_plain hplain, List.cons_append, ← ih]
      -- With two digits behind it the byte would have started an escape before.
      exact percentDecode_plain fun ha => (hplain ha).append_neutral hb ys

section Spelled

variable {coded : UInt8 → Bool}

theorem spellBytes_cons_coded {b : UInt8} (h : coded b = true) (rest : Bytes) :
    spellBytes coded (b :: rest) = percentByte b ++ spellBytes coded rest := by
  rw [spellBytes, List.flatMap_cons, if_pos h, spellBytes]

theorem spellBytes_cons_plain {b : UInt8} (h : coded b = false) (rest : Bytes) :
    spellBytes coded (b :: rest) = b :: spellBytes coded rest := by
  rw [spellBytes, List.flatMap_cons, if_neg (by rw [h]; exact Bool.false_ne_true), spellBytes,
    List.singleton_append]

theorem spellBytes_of_forall {bytes : Bytes} (h : ∀ b ∈ bytes, coded b = true) :
    spellBytes coded bytes = bytes.flatMap percentByte := by
  induction bytes with
  | nil => rfl
  | cons b rest ih =>
      rw [spellBytes_cons_coded (h b List.mem_cons_self),
        ih fun x hx => h x (List.mem_cons_of_mem _ hx), List.flatMap_cons]

theorem NoDigits.spellBytes {bytes : Bytes} (h : NoDigits bytes) :
    NoDigits (spellBytes coded bytes) := by
  -- What is spelled out starts with a percent sign, and that is no digit either.
  intro c d rest heq
  cases bytes with
  | nil => exact nomatch heq
  | cons x xs =>
      cases hx : coded x with
      | true =>
          rw [spellBytes_cons_coded hx] at heq
          obtain ⟨rfl, -⟩ := List.cons.inj heq
          exact .inl rfl
      | false =>
          rw [spellBytes_cons_plain hx] at heq
          obtain ⟨rfl, htail⟩ := List.cons.inj heq
          cases xs with
          | nil => exact nomatch htail
          | cons y ys =>
              cases hy : coded y with
              | true =>
                  rw [spellBytes_cons_coded hy] at htail
                  obtain ⟨rfl, -⟩ := List.cons.inj htail
                  exact .inr rfl
              | false =>
                  rw [spellBytes_cons_plain hy] at htail
                  obtain ⟨rfl, -⟩ := List.cons.inj htail
                  exact h x y ys rfl

/-- Spelling out neutral bytes makes no difference to what is decoded. -/
theorem percentDecode_spellBytes (hcoded : ∀ b, coded b = true → isNeutral b) (bytes : Bytes) :
    percentDecode (spellBytes coded bytes) = percentDecode bytes := by
  -- The bytes of an escape are not neutral, so all three stay as they are.
  have hdigit {c high : UInt8} (hc : hexValue? c = some high) : coded c = false := by
    rw [← Bool.not_eq_true]
    intro h
    rw [(hcoded c h).2] at hc
    exact nomatch hc
  have hpercent : coded 37 = false := by
    rw [← Bool.not_eq_true]
    exact fun h => (hcoded 37 h).1 rfl
  induction bytes using percent_induction with
  | nil => rfl
  | escape c d high low rest hc hd ih =>
      rw [spellBytes_cons_plain hpercent, spellBytes_cons_plain (hdigit hc),
        spellBytes_cons_plain (hdigit hd), percentDecode_escape hc hd,
        percentDecode_escape hc hd, ih]
  | plain b rest hplain ih =>
      rw [percentDecode_plain hplain, ← ih]
      cases hb : coded b with
      | true => rw [spellBytes_cons_coded hb, percentDecode_percentByte]
      | false =>
          rw [spellBytes_cons_plain hb]
          exact percentDecode_plain fun h => (hplain h).spellBytes

end Spelled

/-- A byte replaced wherever it stands. -/
def replaceByte (b e x : UInt8) : UInt8 := if x = b then e else x

theorem hexValue?_replaceByte {b e : UInt8} (hb : isNeutral b) (he : isNeutral e) (x : UInt8) :
    hexValue? (replaceByte b e x) = hexValue? x := by
  by_cases hx : x = b
  · rw [replaceByte, if_pos hx, hx, hb.2, he.2]
  · rw [replaceByte, if_neg hx]

theorem NoDigits.map {f : UInt8 → UInt8} (hf : ∀ x, hexValue? (f x) = hexValue? x)
    {bytes : Bytes} (h : NoDigits bytes) : NoDigits (bytes.map f) := by
  intro c d rest heq
  match bytes, h, heq with
  | x :: y :: more, h, heq =>
      obtain ⟨rfl, htail⟩ := List.cons.inj heq
      obtain ⟨rfl, -⟩ := List.cons.inj htail
      rw [hf, hf]
      exact h x y more rfl

/-- A neutral byte that is replaced by another one is replaced where it stood for itself, and
nowhere else. -/
theorem count_percentDecode_map {b e : UInt8} (hb : isNeutral b) (he : isNeutral e)
    (hne : e ≠ b) (bytes : Bytes) : (percentDecode bytes).count b =
      (percentDecode (bytes.map (replaceByte b e))).count b + bytes.count b := by
  have hhex := hexValue?_replaceByte hb he
  have hkeep {x : UInt8} (hx : x ≠ b) : replaceByte b e x = x := if_neg hx
  -- The bytes of an escape are none of those that are replaced.
  have hdigit {c high : UInt8} (hc : hexValue? c = some high) : c ≠ b := by
    rintro rfl
    rw [hb.2] at hc
    exact nomatch hc
  induction bytes using percent_induction with
  | nil => rfl
  | escape c d high low rest hc hd ih =>
      rw [List.map_cons, List.map_cons, List.map_cons, hkeep hb.1.symm, hkeep (hdigit hc),
        hkeep (hdigit hd), percentDecode_escape hc hd, percentDecode_escape hc hd,
        List.count_cons, List.count_cons, List.count_cons_of_ne hb.1.symm,
        List.count_cons_of_ne (hdigit hc), List.count_cons_of_ne (hdigit hd), ih]
      omega
  | plain x rest hplain ih =>
      -- The new byte starts no escape either, and no digits come or go.
      have hmapped : replaceByte b e x = 37 → NoDigits (rest.map (replaceByte b e)) := by
        intro h
        by_cases hx : x = b
        · rw [replaceByte, if_pos hx] at h
          exact absurd h he.1
        · rw [hkeep hx] at h
          exact (hplain h).map hhex
      rw [List.map_cons, percentDecode_plain hplain, percentDecode_plain hmapped,
        List.count_cons, List.count_cons, List.count_cons, ih]
      by_cases hx : x = b
      · have hx' : ¬ (replaceByte b e x == b) = true := by
          rw [replaceByte, if_pos hx, beq_iff_eq]
          exact hne
        rw [if_neg hx', Nat.add_zero, Nat.add_assoc]
      · have hx' : ¬ (x == b) = true := by
          rw [beq_iff_eq]
          exact hx
        rw [hkeep hx, if_neg hx']
        omega

end Gatehouse.Text
