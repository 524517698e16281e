import Gatehouse.Json.Number

/-!
# Lexemes of a document

A document is a sequence of lexemes: brackets, commas and colons, the three words,
numerals and texts. The bytes are read one at a time; what is under way is the only
state. A numeral out of range and a text that is no Unicode are lexemes still, without a
value, because a reader that skips them need not mind.

## Main definitions

* `Lexeme`: The lexemes.
* `Piece`, `pieceBytes?`: What a text is put together from, and the bytes it spells.
* `Lexer.step`: The effect of one byte.
* `Lexeme.ofBytes?`: The lexemes of a text.
-/

namespace Gatehouse

/-- A lexeme of a document. -/
inductive Lexeme where
  | openArray
  | closeArray
  | openObject
  | closeObject
  | comma
  | colon
  | null
  | bool (b : Bool)
  | number (n : Option Number)
  | string (s : Option String)

/-- A part of a text between quotes: a byte that stands there, or a 16-bit unit that is
spelled out. -/
inductive Piece where
  | byte (b : UInt8)
  | unit (n : Nat)

/-- Whether a 16-bit unit is the first half of a pair. -/
def isHighUnit (n : Nat) : Bool := 0xD800 ≤ n && n < 0xDC00

/-- Whether a 16-bit unit is the second half of a pair. -/
def isLowUnit (n : Nat) : Bool := 0xDC00 ≤ n && n < 0xE000

/-- The bytes that the pieces spell, or nothing when a unit is half of a pair without its
other half. -/
def pieceBytes? : List Piece → Option Bytes
  | [] => some []
  | .byte b :: rest => (pieceBytes? rest).map (b :: ·)
  | .unit n :: rest =>
    if isHighUnit n then
      match rest with
      | .unit m :: rest =>
        if isLowUnit m then
          let c := Char.ofNat (0x10000 + (n - 0xD800) * 0x400 + (m - 0xDC00))
          (pieceBytes? rest).map (Text.utf8 (String.singleton c) ++ ·)
        else none
      | _ => none
    else if isLowUnit n then none
    else (pieceBytes? rest).map (Text.utf8 (String.singleton (Char.ofNat n)) ++ ·)

/-- The text that the pieces spell. -/
def pieceText? (pieces : List Piece) : Option String :=
  (pieceBytes? pieces).bind Text.ofUtf8?

/-- What is under way between two bytes; what has been gathered is in reverse. -/
inductive Lexer where
  | blank
  | word (letters : Bytes)
  | numeral (text : Bytes)
  | string (pieces : List Piece)
  | escape (pieces : List Piece)
  | hex (pieces : List Piece) (owed value : Nat)

namespace Lexer

/-- Bytes that may stand between lexemes. -/
def isSpace (b : UInt8) : Bool := b == 32 || b == 9 || b == 10 || b == 13

/-- Lower-case letters, from which the words are made. -/
def isLetter (b : UInt8) : Bool := 97 ≤ b && b ≤ 122

/-- Bytes that occur in numerals. -/
def isNumeralByte (b : UInt8) : Bool :=
  Numeral.isDigit b || b == 43 || b == 45 || b == 46 || b == 69 || b == 101

/-- The lexeme that a word is. -/
def wordLexeme? (letters : Bytes) : Option Lexeme :=
  if letters = [110, 117, 108, 108] then some .null
  else if letters = [116, 114, 117, 101] then some (.bool true)
  else if letters = [102, 97, 108, 115, 101] then some (.bool false)
  else none

/-- The lexeme that a numeral is. -/
def numeralLexeme? (text : Bytes) : Option Lexeme :=
  (Numeral.ofBytes? text).map fun n => .number n.number?

/-- The byte that a one-letter escape stands for. -/
def escaped? (b : UInt8) : Option UInt8 :=
  if b = 34 || b = 92 || b = 47 then some b
  else if b = 98 then some 8
  else if b = 102 then some 12
  else if b = 110 then some 10
  else if b = 114 then some 13
  else if b = 116 then some 9
  else none

/-- The value of a hexadecimal digit. -/
def hexDigit? (b : UInt8) : Option Nat :=
  if 48 ≤ b && b ≤ 57 then some (b.toNat - 48)
  else if 65 ≤ b && b ≤ 70 then some (b.toNat - 55)
  else if 97 ≤ b && b ≤ 102 then some (b.toNat - 87)
  else none

/-- The effect of a byte that starts a lexeme or stands between two. -/
def start (b : UInt8) : Option (Lexer × List Lexeme) :=
  if isSpace b then some (blank, [])
  else if b = 91 then some (blank, [.openArray])
  else if b = 93 then some (blank, [.closeArray])
  else if b = 123 then some (blank, [.openObject])
  else if b = 125 then some (blank, [.closeObject])
  else if b = 44 then some (blank, [.comma])
  else if b = 58 then some (blank, [.colon])
  else if b = 34 then some (string [], [])
  else if isLetter b then some (word [b], [])
  else if isNumeralByte b then some (numeral [b], [])
  else none

/-- The effect of one byte: what is under way after it and the lexemes that it ends. -/
def step : Lexer → UInt8 → Option (Lexer × List Lexeme)
  | blank, b => start b
  | word letters, b =>
    if isLetter b then some (word (b :: letters), [])
    else do
      -- The byte that ends a word may begin what comes next.
      let lexeme ← wordLexeme? letters.reverse
      let (next, more) ← start b
      some (next, lexeme :: more)
  | numeral text, b =>
    if isNumeralByte b then some (numeral (b :: text), [])
    else do
      let lexeme ← numeralLexeme? text.reverse
      let (next, more) ← start b
      some (next, lexeme :: more)
  | string pieces, b =>
    -- A quotation mark ends the text, a backslash begins an escape, and control bytes must be
    -- escaped.
    if b = 34 then some (blank, [.string (pieceText? pieces.reverse)])
    else if b = 92 then some (escape pieces, [])
    else if b < 32 then none
    else some (string (.byte b :: pieces), [])
  | escape pieces, b =>
    -- Four digits follow the letter u.
    if b = 117 then some (hex pieces 4 0, [])
    else (escaped? b).map fun c => (string (.byte c :: pieces), [])
  | hex pieces owed value, b =>
    (hexDigit? b).map fun d =>
      let value := value * 16 + d
      if owed ≤ 1 then (string (.unit value :: pieces), [])
      else (hex pieces (owed - 1) value, [])

/-- The lexemes of what is left to read. -/
def run : Lexer → Bytes → Option (List Lexeme)
  | blank, [] => some []
  | word letters, [] => (wordLexeme? letters.reverse).map ([·])
  | numeral text, [] => (numeralLexeme? text.reverse).map ([·])
  | _, [] => none
  | lexer, b :: rest => do
    let (next, lexemes) ← step lexer b
    let more ← run next rest
    some (lexemes ++ more)

end Lexer

/-- The lexemes of a text, or nothing when a piece of it is none. -/
def Lexeme.ofBytes? (text : Bytes) : Option (List Lexeme) :=
  Lexer.blank.run text

end Gatehouse
