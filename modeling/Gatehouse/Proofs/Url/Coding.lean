import Gatehouse.Proofs.Text.Percent
import Gatehouse.Url.Coding

/-!
# Coding of paths taken apart

What is written for a text in a path: the characters that may stand there and escapes of the
bytes of the others. None of the characters of a set is left, a text without such characters
stays as it is, and what is decoded from a spelled text is what is decoded from the text.

## Main definitions

* `Url.isEscapeChar`: The characters of escapes.
* `Url.isCodedByte`: The bytes that are spelled out in a path.

## Theorems

* `Url.mem_spell`: The characters of a spelled text.
* `Url.spell_eq_self`: A text that stays as it is.
* `Url.percentDecode_spell`: What is decoded from a spelled text.
-/

namespace Gatehouse.Url

open Text

/-- The characters that escapes consist of. -/
def isEscapeChar (c : Char) : Bool := "%0123456789ABCDEF".toList.contains c

theorem isEscapeChar_of_mem {b x : UInt8} (h : x ∈ percentByte b) :
    x.toNat < 128 ∧ isEscapeChar (asciiChar x) = true := by
  have hall : ∀ k : Fin 16, (hexDigit (UInt8.ofNat k)).toNat < 128 ∧
      isEscapeChar (asciiChar (hexDigit (UInt8.ofNat k))) = true := by decide
  have hdigit {n : UInt8} (hn : n.toNat < 16) : (hexDigit n).toNat < 128 ∧
      isEscapeChar (asciiChar (hexDigit n)) = true := by
    have hk := hall ⟨n.toNat, hn⟩
    rwa [UInt8.ofNat_toNat] at hk
  have hlt := b.toNat_lt
  simp only [percentByte, List.mem_cons, List.not_mem_nil, or_false] at h
  -- A percent sign, and the digits of the two halves.
  rcases h with rfl | rfl | rfl
  · decide
  · refine hdigit ?_
    rw [UInt8.toNat_div]
    change b.toNat / 16 < 16
    omega
  · refine hdigit ?_
    rw [UInt8.toNat_mod]
    change b.toNat % 16 < 16
    omega

theorem mem_spellChar {needsCoding : Char → Bool} {c d : Char}
    (h : d ∈ spellChar needsCoding c) :
    (d = c ∧ needsCoding c = false) ∨ isEscapeChar d = true := by
  unfold spellChar at h
  split at h
  · obtain ⟨b, -, hd⟩ := List.mem_flatMap.1 h
    obtain ⟨x, hx, rfl⟩ := List.mem_map.1 hd
    exact .inr (isEscapeChar_of_mem hx).2
  · next hc => exact .inl ⟨List.mem_singleton.1 h, Bool.eq_false_iff.2 hc⟩

/-- A character of a spelled text was there and is not in the set, or belongs to an escape. -/
theorem mem_spell {needsCoding : Char → Bool} {text : List Char} {d : Char}
    (h : d ∈ spell needsCoding text) :
    (d ∈ text ∧ needsCoding d = false) ∨ isEscapeChar d = true := by
  obtain ⟨c, hc, hd⟩ := List.mem_flatMap.1 h
  rcases mem_spellChar hd with ⟨rfl, hplain⟩ | hescape
  · exact .inl ⟨hc, hplain⟩
  · exact .inr hescape

/-- A character in a set is not one outside it. -/
theorem ne_of_apply {p : Char → Bool} {c d : Char} (hc : p c = true) (hd : p d = false) :
    c ≠ d := by
  rintro rfl
  rw [hc] at hd
  exact nomatch hd

theorem needsCodingInPath_of_isEscapeChar {c : Char} (h : isEscapeChar c = true) :
    needsCodingInPath c = false := by
  have hall : "%0123456789ABCDEF".toList.all (!needsCodingInPath ·) = true := by decide
  have hc := List.all_eq_true.1 hall c (List.contains_iff_mem.1 h)
  rwa [Bool.not_eq_true'] at hc

theorem visible_of_needsCodingInPath {c : Char} (h : needsCodingInPath c = false) :
    0x20 < c.toNat ∧ c ≠ '?' ∧ c ≠ '#' := by
  have hne {d : Char} (hd : needsCodingInPath d = true) : c ≠ d := (ne_of_apply hd h).symm
  -- The blank and all that is below it are spelled out.
  refine ⟨Nat.lt_of_not_le fun hle => ?_, hne (by decide), hne (by decide)⟩
  rcases Nat.lt_or_eq_of_le hle with hlt | heq
  · have hlow : needsCodingInPath c = true := by
      simp only [needsCodingInPath, needsCodingInQuery, isUnprintable, hlt, decide_true,
        Bool.true_or]
    rw [h] at hlow
    exact nomatch hlow
  · have hblank : c = ' ' := Char.toNat_inj.1 heq
    exact absurd hblank (hne (by decide))

theorem spell_eq_self {needsCoding : Char → Bool} {text : List Char}
    (h : ∀ c ∈ text, needsCoding c = false) : spell needsCoding text = text := by
  induction text with
  | nil => rfl
  | cons c rest ih =>
      have hc : spellChar needsCoding c = [c] := by
        rw [spellChar, h c List.mem_cons_self]
        rfl
      have hrest := ih fun d hd => h d (List.mem_cons_of_mem _ hd)
      rw [spell] at hrest
      rw [spell, List.flatMap_cons, hc, hrest, List.singleton_append]

theorem needsCodingInPath_high {c : Char} (h : 128 ≤ c.toNat) : needsCodingInPath c = true := by
  have hlt : 0x7E < c.toNat := by omega
  simp only [needsCodingInPath, needsCodingInQuery, isUnprintable, hlt, decide_true,
    Bool.or_true, Bool.true_or]

/-- Whether a byte is spelled out in a path. -/
def isCodedByte (b : UInt8) : Bool := needsCodingInPath (asciiChar b)

theorem isNeutral_of_isCodedByte {b : UInt8} (h : isCodedByte b = true) : isNeutral b := by
  -- All bytes are tried: letters, digits and the percent sign stay as they are.
  have hall : ∀ n : Fin 256, isCodedByte (UInt8.ofNat n) = true →
      UInt8.ofNat n ≠ 37 ∧ hexValue? (UInt8.ofNat n) = none := by decide +kernel
  have hb := hall ⟨b.toNat, b.toNat_lt⟩
  rw [UInt8.ofNat_toNat] at hb
  exact hb h

/-- The bytes of a character that is spelled out are spelled out. -/
theorem isCodedByte_of_mem {c : Char} (h : needsCodingInPath c = true) {b : UInt8}
    (hb : b ∈ String.utf8EncodeChar c) : isCodedByte b = true := by
  -- Beyond ASCII every character is spelled out, and so is every high byte.
  by_cases hc : c.toNat < 128
  · rw [utf8EncodeChar_ascii hc, List.mem_singleton] at hb
    rw [hb, isCodedByte, asciiChar_asciiByte hc, h]
  · refine needsCodingInPath_high ?_
    rw [toNat_asciiChar]
    exact utf8EncodeChar_high (Nat.le_of_not_lt hc) b hb

theorem charBytes_escapes (bytes : Bytes) :
    charBytes (bytes.flatMap fun b => (percentByte b).map asciiChar) =
      bytes.flatMap percentByte := by
  induction bytes with
  | nil => rfl
  | cons b rest ih =>
      rw [List.flatMap_cons, List.flatMap_cons, charBytes_append, ih,
        charBytes_asciiChars fun x hx => (isEscapeChar_of_mem hx).1]

theorem utf8_singleton (c : Char) : utf8 (String.singleton c) = String.utf8EncodeChar c := by
  rw [utf8_eq_charBytes, String.toList_singleton, charBytes_cons]
  exact List.append_nil _

theorem charBytes_spellChar (c : Char) : charBytes (spellChar needsCodingInPath c) =
    spellBytes isCodedByte (String.utf8EncodeChar c) := by
  cases hc : needsCodingInPath c with
  | true =>
      rw [spellChar, if_pos hc, utf8_singleton, charBytes_escapes,
        spellBytes_of_forall fun b hb => isCodedByte_of_mem hc hb]
  | false =>
      -- Beyond ASCII all characters are spelled out, so this one is a single byte.
      have hascii : c.toNat < 128 := by
        refine Nat.lt_of_not_le fun h => ?_
        rw [needsCodingInPath_high h] at hc
        exact nomatch hc
      have hbyte : isCodedByte (asciiByte c) = false := by
        rw [isCodedByte, asciiChar_asciiByte hascii, hc]
      rw [spellChar, hc, utf8EncodeChar_ascii hascii, spellBytes_cons_plain hbyte]
      exact charBytes_cons_ascii hascii []

theorem charBytes_spell (text : List Char) : charBytes (spell needsCodingInPath text) =
    spellBytes isCodedByte (charBytes text) := by
  induction text with
  | nil => rfl
  | cons c rest ih =>
      rw [spell] at ih
      rw [spell, List.flatMap_cons, charBytes_append, charBytes_cons, charBytes_spellChar, ih,
        spellBytes, spellBytes, spellBytes, List.flatMap_append]

/-- What is decoded from a spelled text is what is decoded from the text. -/
theorem percentDecode_spell (text : List Char) :
    percentDecode (charBytes (spell needsCodingInPath text)) =
      percentDecode (charBytes text) := by
  rw [charBytes_spell, percentDecode_spellBytes fun _ => isNeutral_of_isCodedByte]

end Gatehouse.Url
