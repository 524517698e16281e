import Gatehouse.Proofs.Text.Split
import Gatehouse.Text.Base64

/-!
# Base64 both ways

Decoding inverts encoding for bytes of every length. The decoder treats the last group of
four characters apart from the others, because only that one may be padded, so the
induction goes three bytes at a time and asks in each round whether bytes are left: with
some left the next group is not empty and the current one is not the last.

## Theorems

* `base64Value?_base64Digit`: The alphabet read back.
* `base64Value?_group`, `ofNat_group`: Three bytes put together again from four digits.
* `base64Decode?_base64Encode`: Decoding inverts encoding.
* `base64Decode?_eq_some_iff`: Nothing else is decoded.
* `trim_base64Encode`: A written form has no blanks at its ends.
-/

namespace Gatehouse.Text

theorem base64Value?_base64Digit {n : Nat} (h : n < 64) :
    base64Value? (base64Digit n) = some n := by
  have hall : ∀ m, m < 64 → base64Value? (base64Digit m) = some m := by decide
  exact hall n h

theorem base64Digit_ne_pad {n : Nat} (h : n < 64) : base64Digit n ≠ '=' := by
  have hall : ∀ m, m < 64 → base64Digit m ≠ '=' := by decide
  exact hall n h

theorem isBlank_base64Digit {n : Nat} (h : n < 64) : isBlank (base64Digit n) = false := by
  have hall : ∀ m, m < 64 → isBlank (base64Digit m) = false := by decide
  exact hall n h

/-- The first of three bytes is put together from two digits, with the bits of the second one
in the way. -/
theorem ofNat_first (b : UInt8) {low : Nat} (h : low < 16) :
    UInt8.ofNat (b.toNat / 4 * 4 + (b.toNat % 4 * 16 + low) / 16) = b := by
  have hb : b.toNat / 4 * 4 + (b.toNat % 4 * 16 + low) / 16 = b.toNat := by omega
  rw [hb, UInt8.ofNat_toNat]

/-- The second byte, with the bits of both others in the way. -/
theorem ofNat_second (b : UInt8) (high : Nat) {low : Nat} (h : low < 4) :
    UInt8.ofNat ((high * 16 + b.toNat / 16) % 16 * 16 + (b.toNat % 16 * 4 + low) / 4) = b := by
  have hlt := b.toNat_lt
  have hb : (high * 16 + b.toNat / 16) % 16 * 16 + (b.toNat % 16 * 4 + low) / 4 = b.toNat := by
    omega
  rw [hb, UInt8.ofNat_toNat]

theorem ofNat_third (b : UInt8) (high : Nat) :
    UInt8.ofNat ((high * 4 + b.toNat / 64) % 4 * 64 + b.toNat % 64) = b := by
  have hlt := b.toNat_lt
  have hb : (high * 4 + b.toNat / 64) % 4 * 64 + b.toNat % 64 = b.toNat := by omega
  rw [hb, UInt8.ofNat_toNat]

/-- The four digits of three bytes are read back. -/
theorem base64Value?_group (a b c : UInt8) :
    base64Value? (base64Digit (a.toNat / 4)) = some (a.toNat / 4) ∧
      base64Value? (base64Digit (a.toNat % 4 * 16 + b.toNat / 16)) =
        some (a.toNat % 4 * 16 + b.toNat / 16) ∧
      base64Value? (base64Digit (b.toNat % 16 * 4 + c.toNat / 64)) =
        some (b.toNat % 16 * 4 + c.toNat / 64) ∧
      base64Value? (base64Digit (c.toNat % 64)) = some (c.toNat % 64) := by
  have ha := a.toNat_lt
  have hb := b.toNat_lt
  have hc := c.toNat_lt
  exact ⟨base64Value?_base64Digit (by omega), base64Value?_base64Digit (by omega),
    base64Value?_base64Digit (by omega), base64Value?_base64Digit (by omega)⟩

/-- The three bytes that the values of four digits make. -/
theorem ofNat_group (a b c : UInt8) :
    UInt8.ofNat (a.toNat / 4 * 4 + (a.toNat % 4 * 16 + b.toNat / 16) / 16) = a ∧
      UInt8.ofNat ((a.toNat % 4 * 16 + b.toNat / 16) % 16 * 16 +
        (b.toNat % 16 * 4 + c.toNat / 64) / 4) = b ∧
      UInt8.ofNat ((b.toNat % 16 * 4 + c.toNat / 64) % 4 * 64 + c.toNat % 64) = c := by
  have hb := b.toNat_lt
  have hc := c.toNat_lt
  exact ⟨ofNat_first a (by omega), ofNat_second b _ (by omega), ofNat_third c _⟩

theorem base64Last?_full (a b c : UInt8) :
    base64Last? (base64Digit (a.toNat / 4)) (base64Digit (a.toNat % 4 * 16 + b.toNat / 16))
      (base64Digit (b.toNat % 16 * 4 + c.toNat / 64)) (base64Digit (c.toNat % 64)) =
      some [a, b, c] := by
  have hpad : base64Digit (c.toNat % 64) ≠ '=' := base64Digit_ne_pad (by omega)
  obtain ⟨v1, v2, v3, v4⟩ := base64Value?_group a b c
  obtain ⟨e1, e2, e3⟩ := ofNat_group a b c
  simp only [base64Last?, if_neg hpad, v1, v2, v3, v4, Option.bind_eq_bind, Option.bind_some,
    e1, e2, e3]

/-- Two bytes leave two bits of the third digit empty, and the decoder asks for that. -/
theorem base64Last?_two (a b : UInt8) :
    base64Last? (base64Digit (a.toNat / 4)) (base64Digit (a.toNat % 4 * 16 + b.toNat / 16))
      (base64Digit (b.toNat % 16 * 4)) '=' = some [a, b] := by
  have hpad : base64Digit (b.toNat % 16 * 4) ≠ '=' := base64Digit_ne_pad (by omega)
  have hzero : b.toNat % 16 * 4 % 4 = 0 := by omega
  -- The missing byte is taken for a zero, which leaves the third digit as it is.
  have hnone : (0 : UInt8).toNat / 64 = 0 := rfl
  obtain ⟨v1, v2, v3, -⟩ := base64Value?_group a b 0
  obtain ⟨e1, e2, -⟩ := ofNat_group a b 0
  rw [hnone, Nat.add_zero] at v3 e2
  simp only [base64Last?, if_true, if_neg hpad, hzero, v1, v2, v3, Option.bind_eq_bind,
    Option.bind_some, e1, e2]

theorem base64Last?_one (a : UInt8) :
    base64Last? (base64Digit (a.toNat / 4)) (base64Digit (a.toNat % 4 * 16)) '=' '=' =
      some [a] := by
  have hzero : a.toNat % 4 * 16 % 16 = 0 := by omega
  -- The same with two missing bytes and the second digit.
  have hnone : (0 : UInt8).toNat / 16 = 0 := rfl
  obtain ⟨v1, v2, -, -⟩ := base64Value?_group a 0 0
  obtain ⟨e1, -, -⟩ := ofNat_group a 0 0
  rw [hnone, Nat.add_zero] at v2 e1
  simp only [base64Last?, if_true, hzero, v1, v2, Option.bind_eq_bind, Option.bind_some, e1]

theorem base64Encode_ne_nil {bytes : Bytes} (h : bytes ≠ []) : base64Encode bytes ≠ [] := by
  match bytes with
  | [] => exact absurd rfl h
  | [_] => simp [base64Encode]
  | [_, _] => simp [base64Encode]
  | _ :: _ :: _ :: _ => simp [base64Encode]

theorem base64Decode?_base64Encode (bytes : Bytes) :
    base64Decode? (base64Encode bytes) = some bytes := by
  match bytes with
  | [] => rfl
  | [a] => exact base64Last?_one a
  | [a, b] => exact base64Last?_two a b
  | [a, b, c] => exact base64Last?_full a b c
  | a :: b :: c :: d :: rest =>
      have ih := base64Decode?_base64Encode (d :: rest)
      obtain ⟨v1, v2, v3, v4⟩ := base64Value?_group a b c
      obtain ⟨e1, e2, e3⟩ := ofNat_group a b c
      -- More groups follow, so the first one is read by the general case.
      rcases hmore : base64Encode (d :: rest) with _ | ⟨p, more⟩
      · exact absurd hmore (base64Encode_ne_nil (by simp))
      · rw [hmore] at ih
        simp only [base64Encode, hmore, base64Decode?, v1, v2, v3, v4, ih, Option.bind_eq_bind,
          Option.bind_some, e1, e2, e3]

/-- A character of the alphabet is the digit for its value. -/
theorem base64Digit_of_value? {c : Char} {n : Nat} (h : base64Value? c = some n) :
    n < 64 ∧ base64Digit n = c := by
  unfold base64Value? at h
  simp only [Bool.and_eq_true, decide_eq_true_eq] at h
  -- One case for each range of the alphabet.
  split at h
  · next hupper =>
    have hn := Option.some.inj h
    have hback : 65 + n = c.toNat := by omega
    refine ⟨by omega, ?_⟩
    rw [base64Digit, if_pos (by omega), hback, Char.ofNat_toNat]
  · split at h
    · next hlower =>
      have hn := Option.some.inj h
      have hback : 97 + (n - 26) = c.toNat := by omega
      refine ⟨by omega, ?_⟩
      rw [base64Digit, if_neg (by omega), if_pos (by omega), hback, Char.ofNat_toNat]
    · split at h
      · next hnumeral =>
        have hn := Option.some.inj h
        have hback : 48 + (n - 52) = c.toNat := by omega
        refine ⟨by omega, ?_⟩
        rw [base64Digit, if_neg (by omega), if_neg (by omega), if_pos (by omega), hback,
          Char.ofNat_toNat]
      · split at h
        · next hplus =>
          rw [← Option.some.inj h, hplus]
          exact ⟨by decide, rfl⟩
        · split at h
          · next hslash =>
            rw [← Option.some.inj h, hslash]
            exact ⟨by decide, rfl⟩
          · exact nomatch h

/-- The three bytes of four values have these values as their digits. -/
theorem toNat_group {a b c d : Nat} (ha : a < 64) (hb : b < 64) (hc : c < 64) (hd : d < 64) :
    (UInt8.ofNat (a * 4 + b / 16)).toNat = a * 4 + b / 16 ∧
      (UInt8.ofNat (b % 16 * 16 + c / 4)).toNat = b % 16 * 16 + c / 4 ∧
      (UInt8.ofNat (c % 4 * 64 + d)).toNat = c % 4 * 64 + d := by
  have hsize : UInt8.size = 256 := rfl
  exact ⟨UInt8.toNat_ofNat_of_lt' (by omega), UInt8.toNat_ofNat_of_lt' (by omega),
    UInt8.toNat_ofNat_of_lt' (by omega)⟩

/-- The bytes of four values are written as the digits of these. -/
theorem base64Encode_group {a b c d : Nat} (ha : a < 64) (hb : b < 64) (hc : c < 64)
    (hd : d < 64) (rest : Bytes) :
    base64Encode (UInt8.ofNat (a * 4 + b / 16) :: UInt8.ofNat (b % 16 * 16 + c / 4) ::
      UInt8.ofNat (c % 4 * 64 + d) :: rest) =
      base64Digit a :: base64Digit b :: base64Digit c :: base64Digit d :: base64Encode rest := by
  rcases toNat_group ha hb hc hd with ⟨hx, hy, hz⟩
  have h1 : (a * 4 + b / 16) / 4 = a := by omega
  have h2 : (a * 4 + b / 16) % 4 * 16 + (b % 16 * 16 + c / 4) / 16 = b := by omega
  have h3 : (b % 16 * 16 + c / 4) % 16 * 4 + (c % 4 * 64 + d) / 64 = c := by omega
  have h4 : (c % 4 * 64 + d) % 64 = d := by omega
  rw [base64Encode, hx, hy, hz, h1, h2, h3, h4]

/-- A last group that is read is the written form of what it is read as. -/
theorem base64Encode_last? {p q r s : Char} {bytes : Bytes}
    (h : base64Last? p q r s = some bytes) : base64Encode bytes = [p, q, r, s] := by
  unfold base64Last? at h
  rcases Option.bind_eq_some_iff.1 h with ⟨a, hp, hleft⟩
  rcases Option.bind_eq_some_iff.1 hleft with ⟨b, hq, htail⟩
  rcases base64Digit_of_value? hp with ⟨ha, rfl⟩
  rcases base64Digit_of_value? hq with ⟨hb, rfl⟩
  -- The bits that padding leaves over are zero, so they are not lost.
  split at htail
  · next hs =>
    split at htail
    · next hr =>
      split at htail
      · next hzero =>
        rcases toNat_group ha hb hb hb with ⟨hx, -⟩
        have h1 : (a * 4 + b / 16) / 4 = a := by omega
        have h2 : (a * 4 + b / 16) % 4 * 16 = b := by omega
        rw [← Option.some.inj htail, base64Encode, hx, h1, h2, hr, hs]
      · exact nomatch htail
    · rcases Option.bind_eq_some_iff.1 htail with ⟨c, hr, hsome⟩
      rcases base64Digit_of_value? hr with ⟨hc, rfl⟩
      split at hsome
      · next hzero =>
        rcases toNat_group ha hb hc hb with ⟨hx, hy, -⟩
        have h1 : (a * 4 + b / 16) / 4 = a := by omega
        have h2 : (a * 4 + b / 16) % 4 * 16 + (b % 16 * 16 + c / 4) / 16 = b := by omega
        have h3 : (b % 16 * 16 + c / 4) % 16 * 4 = c := by omega
        rw [← Option.some.inj hsome, base64Encode, hx, hy, h1, h2, h3, hs]
      · exact nomatch hsome
  · rcases Option.bind_eq_some_iff.1 htail with ⟨c, hr, hlast⟩
    rcases Option.bind_eq_some_iff.1 hlast with ⟨d, hs, hsome⟩
    rcases base64Digit_of_value? hr with ⟨hc, rfl⟩
    rcases base64Digit_of_value? hs with ⟨hd, rfl⟩
    rw [← Option.some.inj hsome]
    exact base64Encode_group ha hb hc hd []

/-- What is decoded is the written form of what it is decoded to. -/
theorem base64Encode_of_decode? (cs : List Char) {bytes : Bytes}
    (h : base64Decode? cs = some bytes) : base64Encode bytes = cs := by
  induction cs using base64Decode?.induct generalizing bytes with
  | case1 =>
      rw [← Option.some.inj h]
      rfl
  | case2 p q r s => exact base64Encode_last? h
  | case3 p q r s rest hlast ih =>
      rw [base64Decode?.eq_3 p q r s rest hlast] at h
      rcases Option.bind_eq_some_iff.1 h with ⟨a, hp, hleft⟩
      rcases Option.bind_eq_some_iff.1 hleft with ⟨b, hq, htail⟩
      rcases Option.bind_eq_some_iff.1 htail with ⟨c, hr, hthird⟩
      rcases Option.bind_eq_some_iff.1 hthird with ⟨d, hs, hfourth⟩
      rcases Option.bind_eq_some_iff.1 hfourth with ⟨more, hmore, hsome⟩
      -- Each letter is the digit of its value, so the four of a group are written again.
      rcases base64Digit_of_value? hp with ⟨ha, rfl⟩
      rcases base64Digit_of_value? hq with ⟨hb, rfl⟩
      rcases base64Digit_of_value? hr with ⟨hc, rfl⟩
      rcases base64Digit_of_value? hs with ⟨hd, rfl⟩
      rw [← Option.some.inj hsome, base64Encode_group ha hb hc hd, ih hmore]
  | case4 cs h1 h2 h3 =>
      rw [base64Decode?.eq_4 cs h1 h2 h3] at h
      exact nomatch h

theorem base64Decode?_eq_some_iff {cs : List Char} {bytes : Bytes} :
    base64Decode? cs = some bytes ↔ cs = base64Encode bytes := by
  constructor
  · intro h
    exact (base64Encode_of_decode? cs h).symm
  · rintro rfl
    exact base64Decode?_base64Encode bytes

/-- A written form consists of digits and of what it is filled up with. -/
theorem forall_mem_base64Encode {P : Char → Prop} (hdigit : ∀ n, n < 64 → P (base64Digit n))
    (hpad : P '=') (bytes : Bytes) : ∀ c ∈ base64Encode bytes, P c := by
  match bytes with
  | [] =>
      intro c hc
      exact nomatch hc
  | [a] =>
      have ha := a.toNat_lt
      rw [base64Encode]
      simp only [List.forall_mem_cons]
      exact ⟨hdigit _ (by omega), hdigit _ (by omega), hpad, hpad, fun c hc => nomatch hc⟩
  | [a, b] =>
      have ha := a.toNat_lt
      have hb := b.toNat_lt
      rw [base64Encode]
      simp only [List.forall_mem_cons]
      exact ⟨hdigit _ (by omega), hdigit _ (by omega), hdigit _ (by omega), hpad,
        fun c hc => nomatch hc⟩
  | a :: b :: c :: rest =>
      have ha := a.toNat_lt
      have hb := b.toNat_lt
      have hc := c.toNat_lt
      rw [base64Encode]
      simp only [List.forall_mem_cons]
      exact ⟨hdigit _ (by omega), hdigit _ (by omega), hdigit _ (by omega), hdigit _ (by omega),
        forall_mem_base64Encode hdigit hpad rest⟩

theorem isBlank_of_mem_base64Encode (bytes : Bytes) :
    ∀ c ∈ base64Encode bytes, isBlank c = false :=
  forall_mem_base64Encode (fun _ h => isBlank_base64Digit h) (by decide) bytes

theorem trim_base64Encode (bytes : Bytes) :
    trim (String.ofList (base64Encode bytes)) = String.ofList (base64Encode bytes) := by
  rw [trim, String.toList_ofList, trimList_eq_self (isBlank_of_mem_base64Encode bytes)]

end Gatehouse.Text
