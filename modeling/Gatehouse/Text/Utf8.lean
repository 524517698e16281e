/-!
# UTF-8

Bytes are lists of octets. A text is written as its UTF-8 bytes and read back from
them; bytes that are no UTF-8 can still be shown, each longest ill-formed piece as
one replacement character.

## Main definitions

* `utf8`: The bytes of a text.
* `ofUtf8?`: The text that bytes spell, if they spell one.
* `ofUtf8Lossy`: The text that bytes spell, ill-formed pieces replaced.

## Theorems

* `ofUtf8?_utf8`: Reading inverts writing.
* `ofUtf8Lossy_utf8`: Nothing is replaced in well-formed bytes.
-/

namespace Gatehouse

/-- Octets in the order in which they travel. -/
abbrev Bytes := List UInt8

namespace Text

/-- The UTF-8 bytes of a text. -/
def utf8 (s : String) : Bytes :=
  s.toUTF8.data.toList

/-- The text that the bytes spell, or nothing when they are not UTF-8. -/
def ofUtf8? (b : Bytes) : Option String :=
  String.fromUTF8? ⟨b.toArray⟩

/-- A character under way: how many continuation bytes are still owed, the range that
the next one must lie in, and the code point so far. -/
structure Partial where
  owed : Nat
  low : UInt8
  high : UInt8
  code : Nat

/-- The character shown in place of an ill-formed piece. -/
def replacement : Char := '\uFFFD'

/-- The effect of a byte that starts a character. -/
def leadByte (b : UInt8) : List Char × Option Partial :=
  if b < 0x80 then ([Char.ofNat b.toNat], none)
  else if 0xC2 ≤ b && b ≤ 0xDF then ([], some ⟨1, 0x80, 0xBF, b.toNat % 32⟩)
  -- The second byte is confined: no form is too long, no surrogate, and none beyond the last
  -- character.
  else if b = 0xE0 then ([], some ⟨2, 0xA0, 0xBF, 0⟩)
  else if b = 0xED then ([], some ⟨2, 0x80, 0x9F, 13⟩)
  else if 0xE1 ≤ b && b ≤ 0xEF then ([], some ⟨2, 0x80, 0xBF, b.toNat % 16⟩)
  else if b = 0xF0 then ([], some ⟨3, 0x90, 0xBF, 0⟩)
  else if b = 0xF4 then ([], some ⟨3, 0x80, 0x8F, 4⟩)
  else if 0xF1 ≤ b && b ≤ 0xF3 then ([], some ⟨3, 0x80, 0xBF, b.toNat % 8⟩)
  else ([replacement], none)

/-- The effect of one byte on the character under way: a byte out of range ends it as
one ill-formed piece and starts afresh. -/
def nextByte : Option Partial → UInt8 → List Char × Option Partial
  | none, b => leadByte b
  | some p, b =>
    if p.low ≤ b && b ≤ p.high then
      let code := p.code * 64 + b.toNat % 64
      if p.owed ≤ 1 then ([Char.ofNat code], none)
      else ([], some ⟨p.owed - 1, 0x80, 0xBF, code⟩)
    else
      let (shown, state) := leadByte b
      (replacement :: shown, state)

/-- The characters that the bytes show, one replacement for each ill-formed piece. -/
def repair : Option Partial → Bytes → List Char
  | none, [] => []
  | some _, [] => [replacement]
  | state, b :: rest =>
    let (shown, state) := nextByte state b
    shown ++ repair state rest

/-- The text that the bytes spell, with a replacement character for each longest
ill-formed piece. -/
def ofUtf8Lossy (b : Bytes) : String :=
  match ofUtf8? b with
  | some s => s
  | none => String.ofList (repair none b)

theorem ofUtf8?_utf8 (s : String) : ofUtf8? (utf8 s) = some s := by
  have h : (⟨(utf8 s).toArray⟩ : ByteArray) = s.toByteArray := by
    simp [utf8, String.toUTF8_eq_toByteArray]
  rw [ofUtf8?, h, String.fromUTF8?, dif_pos s.isValidUTF8]
  rfl

theorem ofUtf8Lossy_utf8 (s : String) : ofUtf8Lossy (utf8 s) = s := by
  simp [ofUtf8Lossy, ofUtf8?_utf8]

end Text

end Gatehouse
