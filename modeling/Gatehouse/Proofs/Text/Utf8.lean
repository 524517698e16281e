import Gatehouse.Text.Percent

/-!
# Bytes of characters

What the bytes of a text look like character by character. An ASCII character is the one
byte with its code, and every byte of any other character is 128 or more, so a reader that
only looks for ASCII bytes never stops inside a character.

## Main definitions

* `charBytes`: The bytes of characters in turn.

## Theorems

* `utf8_ofList`: The bytes of a text are those of its characters in turn.
* `ofUtf8?_eq_some_iff`, `utf8_injective`: The bytes of a text are read as that text only.
* `utf8EncodeChar_ascii`: An ASCII character is one byte.
* `utf8EncodeChar_high`: The bytes of any other character are no ASCII bytes.
* `mem_charBytes_ascii`: ASCII bytes belong to their own characters only.
* `charBytes_ascii`, `charBytes_asciiChars`: The bytes of characters in ASCII, both ways.
* `length_charBytes_le`, `eq_of_length_charBytes`: What is left out of a text takes bytes with it.
-/

namespace Gatehouse.Text

/-- The bytes of characters in turn. -/
def charBytes (cs : List Char) : Bytes := cs.flatMap String.utf8EncodeChar

theorem charBytes_append (cs ds : List Char) :
    charBytes (cs ++ ds) = charBytes cs ++ charBytes ds := List.flatMap_append

theorem charBytes_cons (c : Char) (cs : List Char) :
    charBytes (c :: cs) = String.utf8EncodeChar c ++ charBytes cs := List.flatMap_cons

theorem utf8_ofList (cs : List Char) : utf8 (String.ofList cs) = charBytes cs := by
  simp only [utf8, String.toUTF8_eq_toByteArray, String.toByteArray_ofList, List.utf8Encode,
    List.toList_data_toByteArray, charBytes]

theorem utf8_eq_charBytes (s : String) : utf8 s = charBytes s.toList := by
  rw [← utf8_ofList, String.ofList_toList]

/-- Bytes are read as a text exactly where they are the bytes of it. -/
theorem ofUtf8?_eq_some_iff {bytes : Bytes} {s : String} :
    ofUtf8? bytes = some s ↔ bytes = utf8 s := by
  constructor
  · intro h
    unfold ofUtf8? String.fromUTF8? at h
    split at h
    · rw [← Option.some.inj h]
      rfl
    · exact nomatch h
  · rintro rfl
    exact ofUtf8?_utf8 s

theorem utf8_injective : Function.Injective utf8 := by
  intro s t h
  have hread := ofUtf8?_utf8 s
  rw [h, ofUtf8?_utf8] at hread
  exact (Option.some.inj hread).symm

theorem toNat_asciiByte {c : Char} (h : c.toNat < 128) : (asciiByte c).toNat = c.toNat := by
  rw [asciiByte, UInt8.toNat_ofNat', Nat.mod_eq_of_lt (by omega)]

theorem toNat_asciiChar (b : UInt8) : (asciiChar b).toNat = b.toNat := by
  have hlt := b.toNat_lt
  have hvalid : b.toNat.isValidChar := .inl (by omega)
  rw [asciiChar, Char.ofNat, dif_pos hvalid]
  exact UInt32.toNat_ofNatLT

theorem asciiByte_asciiChar (b : UInt8) : asciiByte (asciiChar b) = b := by
  rw [asciiByte, toNat_asciiChar, UInt8.ofNat_toNat]

theorem asciiChar_asciiByte {c : Char} (h : c.toNat < 128) : asciiChar (asciiByte c) = c := by
  rw [asciiChar, toNat_asciiByte h, Char.ofNat_toNat]

theorem asciiByte_inj {c d : Char} (hc : c.toNat < 128) (hd : d.toNat < 128)
    (h : asciiByte c = asciiByte d) : c = d := by
  have hn : c.toNat = d.toNat := by
    rw [← toNat_asciiByte hc, ← toNat_asciiByte hd, h]
  rw [← Char.ofNat_toNat c, ← Char.ofNat_toNat d, hn]

theorem utf8EncodeChar_ascii {c : Char} (h : c.toNat < 128) :
    String.utf8EncodeChar c = [asciiByte c] := by
  have hv : c.val.toNat ≤ 0x7f := Nat.le_of_lt_succ h
  simp only [String.utf8EncodeChar]
  rw [if_pos hv]
  rfl

theorem utf8EncodeChar_high {c : Char} (h : 128 ≤ c.toNat) :
    ∀ b ∈ String.utf8EncodeChar c, 128 ≤ b.toNat := by
  have hv : ¬ c.val.toNat ≤ 0x7f := by
    have : c.val.toNat = c.toNat := rfl
    omega
  intro b hb
  simp only [String.utf8EncodeChar, if_neg hv] at hb
  -- Two, three or four bytes, each a remainder with a mark of at least 128 on top.
  split at hb
  · simp only [List.mem_cons, List.not_mem_nil, or_false] at hb
    rcases hb with rfl | rfl <;> simp only [UInt8.toNat_ofNat'] <;> omega
  · split at hb
    · simp only [List.mem_cons, List.not_mem_nil, or_false] at hb
      rcases hb with rfl | rfl | rfl <;> simp only [UInt8.toNat_ofNat'] <;> omega
    · simp only [List.mem_cons, List.not_mem_nil, or_false] at hb
      rcases hb with rfl | rfl | rfl | rfl <;> simp only [UInt8.toNat_ofNat'] <;> omega

/-- An ASCII byte belongs to no character but its own. -/
theorem eq_of_asciiByte_mem {c d : Char} (hd : d.toNat < 128)
    (h : asciiByte d ∈ String.utf8EncodeChar c) : c = d := by
  -- Beyond ASCII all bytes are high, and an ASCII byte is not.
  by_cases hc : c.toNat < 128
  · rw [utf8EncodeChar_ascii hc, List.mem_singleton] at h
    exact asciiByte_inj hc hd h.symm
  · have hhigh := utf8EncodeChar_high (Nat.le_of_not_lt hc) _ h
    rw [toNat_asciiByte hd] at hhigh
    omega

theorem mem_charBytes_ascii {cs : List Char} {d : Char} (hd : d.toNat < 128) :
    asciiByte d ∈ charBytes cs ↔ d ∈ cs := by
  constructor
  · intro h
    obtain ⟨c, hc, hbyte⟩ := List.mem_flatMap.1 h
    exact eq_of_asciiByte_mem hd hbyte ▸ hc
  · intro h
    refine List.mem_flatMap.2 ⟨d, h, ?_⟩
    rw [utf8EncodeChar_ascii hd]
    exact List.mem_singleton_self _

theorem charBytes_cons_ascii {c : Char} (h : c.toNat < 128) (cs : List Char) :
    charBytes (c :: cs) = asciiByte c :: charBytes cs := by
  rw [charBytes_cons, utf8EncodeChar_ascii h, List.singleton_append]

theorem charBytes_ascii {cs : List Char} (h : ∀ c ∈ cs, c.toNat < 128) :
    charBytes cs = cs.map asciiByte := by
  induction cs with
  | nil => rfl
  | cons c rest ih =>
      rw [charBytes_cons_ascii (h c (List.mem_cons_self ..)), List.map_cons,
        ih (fun d hd => h d (List.mem_cons_of_mem _ hd))]

/-- Bytes in ASCII are those of their characters. -/
theorem charBytes_asciiChars {bytes : Bytes} (h : ∀ b ∈ bytes, b.toNat < 128) :
    charBytes (bytes.map asciiChar) = bytes := by
  induction bytes with
  | nil => rfl
  | cons b rest ih =>
      have hb := h b List.mem_cons_self
      have hchar : (asciiChar b).toNat < 128 := by rwa [toNat_asciiChar]
      rw [List.map_cons, charBytes_cons_ascii hchar, asciiByte_asciiChar,
        ih fun x hx => h x (List.mem_cons_of_mem _ hx)]

theorem length_charBytes_le {cs ds : List Char} (h : cs.Sublist ds) :
    (charBytes cs).length ≤ (charBytes ds).length := by
  induction h with
  | slnil => exact Nat.le_refl _
  | cons d _ ih =>
      rw [charBytes_cons, List.length_append]
      omega
  | cons_cons d _ ih =>
      rw [charBytes_cons, charBytes_cons, List.length_append, List.length_append]
      omega

/-- Whatever is left out of a text takes bytes with it. -/
theorem eq_of_length_charBytes {cs ds : List Char} (h : cs.Sublist ds)
    (hlength : (charBytes ds).length ≤ (charBytes cs).length) : cs = ds := by
  induction h with
  | slnil => rfl
  | @cons cs ds d hrest _ =>
      have hle := length_charBytes_le hrest
      have hpos := List.length_pos_iff.2 (String.utf8EncodeChar_ne_nil (c := d))
      rw [charBytes_cons, List.length_append] at hlength
      omega
  | cons_cons d _ ih =>
      rw [charBytes_cons, charBytes_cons, List.length_append, List.length_append] at hlength
      rw [ih (by omega)]

end Gatehouse.Text
