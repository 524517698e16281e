import Gatehouse.Json.Printer
import Gatehouse.Json.Record
import Gatehouse.Proofs.Json.Numeral

/-!
# Lexemes of written documents

The bytes of a written document are cut into exactly the lexemes that make it up. Words
and numerals have no end of their own: they end with the byte after them, which is read
again as the start of the next lexeme. The statements are therefore about a document with
any bytes behind it, under the condition that these end a word or a numeral.

Numbers are limited to words of 64 bits here, the only ones that cursors and requests to
the tracking server hold.

## Main definitions

* `Json.lexemes`: The lexemes of a document.
* `Json.HasWords`: All numbers in a document are words of 64 bits.
* `Lexer.Ends`: Bytes that end a word or a numeral before them.
* `Lexer.piecesOf`: The pieces that a character of a written text is read as.

## Theorems

* `Lexer.pieceText?_pieces`: The pieces of a written text spell it.
* `Lexer.run_quoted`: A written text is read as one lexeme.
* `Lexer.run_chars`: A written document is read as its lexemes.
-/

namespace Gatehouse

open Text

namespace Json

mutual

/-- The lexemes of a document. -/
def lexemes : Json → List Lexeme
  | null => [.null]
  | bool b => [.bool b]
  | number n => [.number (some n)]
  | string s => [.string (some s)]
  | array items => .openArray :: itemLexemes items
  | object members => .openObject :: memberLexemes members

/-- The lexemes of the items of a list and of its end. -/
def itemLexemes : List Json → List Lexeme
  | [] => [.closeArray]
  | [value] => lexemes value ++ [.closeArray]
  | value :: rest => lexemes value ++ .comma :: itemLexemes rest

/-- The lexemes of the members of an object and of its end. -/
def memberLexemes : List (String × Json) → List Lexeme
  | [] => [.closeObject]
  | [(name, value)] => .string (some name) :: .colon :: (lexemes value ++ [.closeObject])
  | (name, value) :: rest =>
    .string (some name) :: .colon :: (lexemes value ++ .comma :: memberLexemes rest)

end

theorem itemLexemes_cons (value next : Json) (rest : List Json) :
    itemLexemes (value :: next :: rest) =
      lexemes value ++ .comma :: itemLexemes (next :: rest) := rfl

theorem memberLexemes_cons (name : String) (value : Json) (next : String × Json)
    (rest : List (String × Json)) :
    memberLexemes ((name, value) :: next :: rest) =
      .string (some name) :: .colon :: (lexemes value ++ .comma :: memberLexemes (next :: rest)) :=
  rfl

mutual

/-- All numbers in a document are words of 64 bits. -/
def HasWords : Json → Prop
  | number n => ∃ word, n = .ofUInt64 word
  | array items => ItemsHaveWords items
  | object members => MembersHaveWords members
  | _ => True

/-- All numbers in some documents are words of 64 bits. -/
def ItemsHaveWords : List Json → Prop
  | [] => True
  | value :: rest => HasWords value ∧ ItemsHaveWords rest

/-- All numbers in some named documents are words of 64 bits. -/
def MembersHaveWords : List (String × Json) → Prop
  | [] => True
  | (_, value) :: rest => HasWords value ∧ MembersHaveWords rest

end

end Json

namespace Lexer

theorem run_cons (lexer : Lexer) (b : UInt8) (rest : Bytes) :
    run lexer (b :: rest) =
      (step lexer b).bind fun r => (run r.1 rest).map (r.2 ++ ·) := by
  rw [run]
  cases hs : step lexer b with
  | none => rfl
  | some r =>
      obtain ⟨next, lexemes⟩ := r
      simp only [Option.bind_eq_bind, Option.bind_some]
      cases run next rest <;> rfl

/-- A byte that ends no lexeme. -/
theorem run_silent {lexer n : Lexer} {b : UInt8} (h : step lexer b = some (n, []))
    (rest : Bytes) : run lexer (b :: rest) = run n rest := by
  rw [run_cons, h, Option.bind_some]
  simp only [List.nil_append, Option.map_id']

/-- A byte that is a lexeme by itself. -/
theorem run_mark {b : UInt8} {l : Lexeme} (h : start b = some (blank, [l]))
    (rest : Bytes) : run blank (b :: rest) = (run blank rest).map (l :: ·) := by
  rw [run_cons, step, h, Option.bind_some]
  rfl

/-- Bytes that end a word or a numeral before them. -/
def Ends (rest : Bytes) : Prop :=
  ∀ b more, rest = b :: more → isLetter b = false ∧ isNumeralByte b = false

theorem ends_nil : Ends [] := fun _ _ h => by simp at h

theorem ends_cons {b : UInt8} (hl : isLetter b = false) (hn : isNumeralByte b = false)
    (rest : Bytes) : Ends (b :: rest) := by
  intro c more h
  obtain ⟨rfl, rfl⟩ := List.cons.inj h
  exact ⟨hl, hn⟩

/-- What ends a lexeme under way is read as if that lexeme had been complete. -/
theorem run_end {lexer : Lexer} {lexeme : Lexeme} (hnil : run lexer [] = some [lexeme])
    {rest : Bytes} (hcons : ∀ b more, rest = b :: more →
      step lexer b = (start b).map fun r => (r.1, lexeme :: r.2)) :
    run lexer rest = (run blank rest).map (lexeme :: ·) := by
  cases rest with
  | nil => rw [hnil]; rfl
  | cons b more =>
      rw [run_cons, run_cons, hcons b more rfl, step]
      cases hs : start b with
      | none => rfl
      | some r =>
          simp only [Option.map_some, Option.bind_some, Option.map_map]
          rfl

theorem run_word_end {letters : Bytes} {lexeme : Lexeme}
    (hw : wordLexeme? letters.reverse = some lexeme) {rest : Bytes} (hr : Ends rest) :
    run (word letters) rest = (run blank rest).map (lexeme :: ·) := by
  refine run_end (by simp only [run, hw, Option.map_some]) (fun b more hb => ?_)
  simp only [step, (hr b more hb).1, hw]
  cases start b <;> rfl

theorem run_numeral_end {text : Bytes} {lexeme : Lexeme}
    (hw : numeralLexeme? text.reverse = some lexeme) {rest : Bytes} (hr : Ends rest) :
    run (numeral text) rest = (run blank rest).map (lexeme :: ·) := by
  refine run_end (by simp only [run, hw, Option.map_some]) (fun b more hb => ?_)
  simp only [step, (hr b more hb).2, hw]
  cases start b <;> rfl

/-- The bytes of a numeral gather until it ends. -/
theorem run_numeral_append {digits : Bytes} (h : ∀ b ∈ digits, Numeral.isDigit b = true)
    (text rest : Bytes) :
    run (numeral text) (digits ++ rest) = run (numeral (digits.reverse ++ text)) rest := by
  -- They are kept in reverse, so each one goes in front of those before it.
  induction digits generalizing text with
  | nil => rfl
  | cons b more ih =>
      have hb : isNumeralByte b = true := by
        simp only [isNumeralByte, h b (List.mem_cons_self ..), Bool.true_or]
      rw [List.cons_append, run_silent (n := numeral (b :: text)) (by simp only [step, hb,
        if_true]), ih (fun c hc => h c (List.mem_cons_of_mem _ hc)), List.reverse_cons,
        List.append_assoc, List.singleton_append]

theorem start_digit {b : UInt8} (h : Numeral.isDigit b = true) :
    start b = some (numeral [b], []) := by
  -- A digit is none of the bytes that are read before digits are looked for.
  have hall : ∀ n, n < 10 → (isSpace (UInt8.ofNat (48 + n)) ||
      [91, 93, 123, 125, 44, 58, 34].contains (UInt8.ofNat (48 + n)) ||
        isLetter (UInt8.ofNat (48 + n))) = false := by decide
  have hb : (48 : UInt8) ≤ b ∧ b ≤ 57 := by
    simpa only [Numeral.isDigit, Bool.and_eq_true, decide_eq_true_eq] using h
  have hlow : 48 ≤ b.toNat := hb.1
  have hhigh : b.toNat ≤ 57 := hb.2
  have hs := hall (b.toNat - 48) (by omega)
  rw [Nat.add_sub_cancel' hlow, UInt8.ofNat_toNat] at hs
  simp only [List.contains_cons, List.contains_nil, Bool.or_eq_false_iff, beq_eq_false_iff_ne]
    at hs
  have hn : isNumeralByte b = true := by simp only [isNumeralByte, h, Bool.true_or]
  simp only [start, hs, hn, if_true, if_false, Bool.false_eq_true]

/-- The digits of a word of 64 bits are read as one lexeme. -/
theorem run_decimal {n : Nat} (hn : n < UInt64.size) {rest : Bytes} (hr : Ends rest) :
    run blank (decimal n ++ rest) =
      (run blank rest).map (.number (some (.integer n)) :: ·) := by
  have hdigits := Numeral.isDigit_decimal n
  have hlex : numeralLexeme? (decimal n) = some (.number (some (.integer n))) := by
    rw [numeralLexeme?, Numeral.ofBytes?_decimal, Option.map_some, Numeral.number?_decimal hn]
  -- The first digit starts a numeral, and the others gather in it.
  cases hd : decimal n with
  | nil => exact absurd hd (Numeral.decimal_ne_nil n)
  | cons b more =>
      rw [hd] at hdigits hlex
      rw [List.cons_append, run_silent (by rw [step]; exact start_digit (hdigits b
        (List.mem_cons_self ..))), run_numeral_append (fun c hc => hdigits c
        (List.mem_cons_of_mem _ hc))]
      exact run_numeral_end (by rw [List.reverse_append, List.reverse_reverse]; exact hlex) hr

/-- Whether a character is written by its code. -/
def isCoded (c : Char) : Bool := c.toNat < 32 && !([8, 9, 10, 12, 13].contains c.toNat)

/-- The pieces that a character of a written text is read as. -/
def piecesOf (c : Char) : List Piece :=
  if isCoded c then [.unit c.toNat] else (String.utf8EncodeChar c).map .byte

theorem pieceBytes?_bytes (bytes : Bytes) (pieces : List Piece) :
    pieceBytes? (bytes.map .byte ++ pieces) = (pieceBytes? pieces).map (bytes ++ ·) := by
  induction bytes with
  | nil => simp only [List.map_nil, List.nil_append, Option.map_id']
  | cons b rest ih =>
      simp only [List.map_cons, List.cons_append, pieceBytes?, ih, Option.map_map]
      rfl

theorem pieceBytes?_piecesOf (c : Char) (pieces : List Piece) :
    pieceBytes? (piecesOf c ++ pieces) =
      (pieceBytes? pieces).map (String.utf8EncodeChar c ++ ·) := by
  unfold piecesOf
  split
  · next h =>
    simp only [isCoded, Bool.and_eq_true, decide_eq_true_eq] at h
    -- The code of a control character is no half of a pair.
    have hh : isHighUnit c.toNat = false := by
      simp only [isHighUnit, Bool.and_eq_false_iff, decide_eq_false_iff_not]
      omega
    have hl : isLowUnit c.toNat = false := by
      simp only [isLowUnit, Bool.and_eq_false_iff, decide_eq_false_iff_not]
      omega
    have hb : utf8 (String.singleton (Char.ofNat c.toNat)) = String.utf8EncodeChar c := by
      rw [Char.ofNat_toNat, utf8_eq_charBytes, String.toList_singleton, charBytes_cons]
      exact List.append_nil _
    rw [List.singleton_append, pieceBytes?.eq_def]
    simp only [hh, hl, hb, Bool.false_eq_true, if_false]
  · exact pieceBytes?_bytes _ _

/-- The pieces of a written text spell it. -/
theorem pieceText?_pieces (s : String) :
    pieceText? (s.toList.flatMap piecesOf) = some s := by
  -- The pieces are taken character by character, since a pair of units is one character.
  have hb : ∀ cs : List Char, pieceBytes? (cs.flatMap piecesOf) = some (charBytes cs) := by
    intro cs
    induction cs with
    | nil => rfl
    | cons c rest ih =>
        rw [List.flatMap_cons, pieceBytes?_piecesOf, ih, Option.map_some, charBytes_cons]
  rw [pieceText?, hb, Option.bind_some, ← utf8_eq_charBytes, ofUtf8?_utf8]

/-- Bytes that stand for themselves in a text. -/
theorem run_plain {bytes : Bytes} (h : ∀ b ∈ bytes, b ≠ 34 ∧ b ≠ 92 ∧ ¬ b < 32)
    (pieces : List Piece) (rest : Bytes) :
    run (string pieces) (bytes ++ rest) =
      run (string ((bytes.map .byte).reverse ++ pieces)) rest := by
  induction bytes generalizing pieces with
  | nil => rfl
  | cons b more ih =>
      obtain ⟨hq, hs, hc⟩ := h b (List.mem_cons_self ..)
      have hstep : step (string pieces) b = some (string (.byte b :: pieces), []) := by
        simp only [step, if_neg hq, if_neg hs, if_neg hc]
      rw [List.cons_append, run_silent hstep, ih (fun c hm => h c (List.mem_cons_of_mem _ hm)),
        List.map_cons, List.reverse_cons, List.append_assoc, List.singleton_append]

/-- A letter after a backslash. -/
theorem run_short {l b : UInt8} (h : escaped? l = some b) (pieces : List Piece)
    (rest : Bytes) :
    run (string pieces) (92 :: l :: rest) = run (string (.byte b :: pieces)) rest := by
  -- The letter that starts a code stands for no byte.
  have hu : l ≠ 117 := by
    rintro rfl
    rw [show escaped? 117 = none from rfl] at h
    simp only [reduceCtorEq] at h
  have hback : step (string pieces) 92 = some (escape pieces, []) := rfl
  have hletter : step (escape pieces) l = some (string (.byte b :: pieces), []) := by
    simp only [step, if_neg hu, h, Option.map_some]
  rw [run_silent hback, run_silent hletter]

theorem hexDigit?_digitChar {n : Nat} (h : n < 16) :
    hexDigit? (asciiByte (Nat.digitChar n)) = some n := by
  have hall : ∀ m, m < 16 → hexDigit? (asciiByte (Nat.digitChar m)) = some m := by decide
  exact hall n h

/-- The code of a control character after a backslash. -/
theorem run_code {n : Nat} (h : n < 32) (pieces : List Piece) (rest : Bytes) :
    run (string pieces) (92 :: 117 :: 48 :: 48 :: asciiByte (Nat.digitChar (n / 16)) ::
      asciiByte (Nat.digitChar (n % 16)) :: rest) = run (string (.unit n :: pieces)) rest := by
  -- The digits are counted down, and only the last one hands over a unit.
  have hback : step (string pieces) 92 = some (escape pieces, []) := rfl
  have hu : step (escape pieces) 117 = some (hex pieces 4 0, []) := rfl
  have h4 : step (hex pieces 4 0) 48 = some (hex pieces 3 0, []) := rfl
  have h3 : step (hex pieces 3 0) 48 = some (hex pieces 2 0, []) := rfl
  have h2 : step (hex pieces 2 0) (asciiByte (Nat.digitChar (n / 16))) =
      some (hex pieces 1 (n / 16), []) := by
    simp only [step, hexDigit?_digitChar (n := n / 16) (by omega), Option.map_some,
      Nat.zero_mul, Nat.zero_add, Nat.reduceLeDiff, if_false, Nat.reduceSub]
  have h1 : step (hex pieces 1 (n / 16)) (asciiByte (Nat.digitChar (n % 16))) =
      some (string (.unit n :: pieces), []) := by
    simp only [step, hexDigit?_digitChar (n := n % 16) (by omega), Option.map_some,
      Nat.le_refl, if_true, Nat.div_add_mod']
  rw [run_silent hback, run_silent hu, run_silent h4, run_silent h3, run_silent h2,
    run_silent h1]

/-- A control character without a letter of its own is written by its code. -/
theorem run_coded {c : Char} (hcoded : isCoded c = true) (pieces : List Piece) (rest : Bytes) :
    run (string pieces) (charBytes ['\\', 'u', '0', '0', Nat.digitChar (c.toNat / 16),
      Nat.digitChar (c.toNat % 16)] ++ rest) =
        run (string ((piecesOf c).reverse ++ pieces)) rest := by
  have hlow : c.toNat < 32 := by
    rw [isCoded, Bool.and_eq_true, decide_eq_true_eq] at hcoded
    exact hcoded.1
  -- Each of the six characters is one byte.
  have hbytes : charBytes ['\\', 'u', '0', '0', Nat.digitChar (c.toNat / 16),
      Nat.digitChar (c.toNat % 16)] = 92 :: 117 :: 48 :: 48 ::
        asciiByte (Nat.digitChar (c.toNat / 16)) ::
          [asciiByte (Nat.digitChar (c.toNat % 16))] := by
    have hdigit : ∀ n, n < 16 → (Nat.digitChar n).toNat < 128 := by decide
    rw [charBytes_cons_ascii (by decide), charBytes_cons_ascii (by decide),
      charBytes_cons_ascii (by decide), charBytes_cons_ascii (by decide),
      charBytes_cons_ascii (hdigit _ (by omega)), charBytes_cons_ascii (hdigit _ (by omega))]
    rfl
  rw [hbytes, piecesOf, if_pos hcoded]
  exact run_code hlow pieces rest

/-- Any other character that needs no backslash stands for itself. -/
theorem run_itself {c : Char} (hquote : c ≠ '"') (hback : c ≠ '\\') (hlow : ¬ c.toNat < 32)
    (pieces : List Piece) (rest : Bytes) :
    run (string pieces) (charBytes [c] ++ rest) =
      run (string ((piecesOf c).reverse ++ pieces)) rest := by
  have hcoded : ¬ isCoded c = true := by
    simp only [isCoded, hlow, decide_false, Bool.false_and, Bool.false_eq_true,
      not_false_eq_true]
  rw [piecesOf, if_neg hcoded, charBytes_cons, show charBytes [] = [] from rfl,
    List.append_nil]
  refine run_plain (fun b hb => ?_) pieces rest
  -- The bytes of a character beyond ASCII are none of the bytes that mean something here.
  rcases Nat.lt_or_ge c.toNat 128 with hascii | hhigh
  · rw [utf8EncodeChar_ascii hascii, List.mem_singleton] at hb
    subst hb
    refine ⟨fun h => hquote (asciiByte_inj hascii (by decide) h),
      fun h => hback (asciiByte_inj hascii (by decide) h), fun h => hlow ?_⟩
    have hn : (asciiByte c).toNat < 32 := h
    rwa [toNat_asciiByte hascii] at hn
  · have hn := utf8EncodeChar_high hhigh b hb
    refine ⟨?_, ?_, fun h => ?_⟩
    · rintro rfl
      exact absurd hn (by decide)
    · rintro rfl
      exact absurd hn (by decide)
    · have : b.toNat < 32 := h
      omega

/-- What is written for a character is read as its pieces. -/
theorem run_escape (c : Char) (pieces : List Piece) (rest : Bytes) :
    run (string pieces) (charBytes (Json.escape c) ++ rest) =
      run (string ((piecesOf c).reverse ++ pieces)) rest := by
  -- The control characters that have a letter are told by their numbers.
  have hchar {n : Nat} (h : c.toNat = n) : c = Char.ofNat n := by rw [← h, Char.ofNat_toNat]
  unfold Json.escape
  split
  · next h => subst h; exact run_short (l := 34) rfl pieces rest
  split
  · next h => subst h; exact run_short (l := 92) rfl pieces rest
  split
  · next h => rw [hchar h]; exact run_short (l := 98) rfl pieces rest
  split
  · next h => rw [hchar h]; exact run_short (l := 116) rfl pieces rest
  split
  · next h => rw [hchar h]; exact run_short (l := 110) rfl pieces rest
  split
  · next h => rw [hchar h]; exact run_short (l := 102) rfl pieces rest
  split
  · next h => rw [hchar h]; exact run_short (l := 114) rfl pieces rest
  split
  · next h8 h9 h10 h12 h13 hlow =>
    have hcoded : isCoded c = true := by
      simp [isCoded, hlow, h8, h9, h10, h12, h13]
    exact run_coded hcoded pieces rest
  · next hquote hback h8 h9 h10 h12 h13 hlow =>
    exact run_itself hquote hback hlow pieces rest

theorem run_escapes (cs : List Char) (pieces : List Piece) (rest : Bytes) :
    run (string pieces) (charBytes (cs.flatMap Json.escape) ++ rest) =
      run (string ((cs.flatMap piecesOf).reverse ++ pieces)) rest := by
  induction cs generalizing pieces with
  | nil => rfl
  | cons c more ih =>
      rw [List.flatMap_cons, charBytes_append, List.append_assoc, run_escape, ih,
        List.flatMap_cons, List.reverse_append, List.append_assoc]

/-- A written text is read as one lexeme, whatever follows it. -/
theorem run_quoted (s : String) (rest : Bytes) :
    run blank (charBytes (Json.quoted s) ++ rest) =
      (run blank rest).map (.string (some s) :: ·) := by
  -- The mark that closes the text is the only byte that hands over a lexeme.
  have hopen : step blank 34 = some (string [], []) := rfl
  have hclose : ∀ pieces, step (string pieces) 34 =
      some (blank, [.string (pieceText? pieces.reverse)]) := fun _ => rfl
  rw [Json.quoted, charBytes_cons_ascii (by decide), charBytes_append, List.cons_append,
    List.append_assoc, show asciiByte '"' = 34 from rfl, run_silent hopen, run_escapes,
    List.append_nil, show charBytes ['"'] = [34] from rfl, List.singleton_append, run_cons,
    hclose, Option.bind_some, List.reverse_reverse, pieceText?_pieces]
  rfl

/-- The letters of a word gather until it ends. -/
theorem run_word_append {more : Bytes} (h : ∀ b ∈ more, isLetter b = true)
    (letters rest : Bytes) :
    run (word letters) (more ++ rest) = run (word (more.reverse ++ letters)) rest := by
  induction more generalizing letters with
  | nil => rfl
  | cons b tail ih =>
      have hstep : step (word letters) b = some (word (b :: letters), []) := by
        simp only [step, h b (List.mem_cons_self ..), if_true]
      rw [List.cons_append, run_silent hstep, ih (fun c hc => h c (List.mem_cons_of_mem _ hc)),
        List.reverse_cons, List.append_assoc, List.singleton_append]

theorem run_word {b : UInt8} {m : Bytes} {lexeme : Lexeme}
    (hb : start b = some (word [b], [])) (hm : m.all isLetter = true)
    (hw : wordLexeme? (b :: m) = some lexeme) {rest : Bytes} (hr : Ends rest) :
    run blank (b :: m ++ rest) = (run blank rest).map (lexeme :: ·) := by
  rw [List.cons_append, run_silent (by rw [step]; exact hb), run_word_append (List.all_eq_true.1 hm)]
  exact run_word_end (by rw [List.reverse_append, List.reverse_reverse]; exact hw) hr

theorem charBytes_text_ofUInt64 (word : UInt64) :
    charBytes (Number.ofUInt64 word).text.toList = decimal word.toNat := by
  -- Whole numbers have no sign, point or exponent here, only digits.
  have hs : (Number.ofUInt64 word).text.toList = Nat.toDigits 10 word.toNat := by
    rw [Number.ofUInt64, Number.text, ← Nat.toList_repr]
    rfl
  have hascii : ∀ c ∈ Nat.toDigits 10 word.toNat, c.toNat < 128 := by
    intro c hc
    have hd := Nat.isDigit_of_mem_toDigits (by decide) (by decide) hc
    simp only [Char.isDigit, Bool.and_eq_true, decide_eq_true_eq] at hd
    have hle : c.toNat ≤ 57 := hd.2
    omega
  rw [hs, charBytes_ascii hascii, decimal]

theorem ends_mark {b : UInt8} (h : b = 44 ∨ b = 93 ∨ b = 125) (rest : Bytes) :
    Ends (b :: rest) := by
  rcases h with rfl | rfl | rfl <;> exact ends_cons (by decide) (by decide) rest

mutual

/-- A written document is read as its lexemes, whatever ends it. -/
theorem run_chars (v : Json) (h : v.HasWords) {rest : Bytes} (hr : Ends rest) :
    run blank (charBytes v.chars ++ rest) = (run blank rest).map (v.lexemes ++ ·) := by
  cases v with
  | null => exact run_word (b := 110) (m := [117, 108, 108]) rfl (by decide) rfl hr
  | bool b =>
      cases b with
      | true => exact run_word (b := 116) (m := [114, 117, 101]) rfl (by decide) rfl hr
      | false => exact run_word (b := 102) (m := [97, 108, 115, 101]) rfl (by decide) rfl hr
  | number n =>
      -- A number ends only with the byte behind it, so what follows has to end it.
      obtain ⟨word, rfl⟩ := h
      rw [Json.chars, charBytes_text_ofUInt64]
      exact run_decimal word.toNat_lt hr
  | string s => exact run_quoted s rest
  | array items =>
      -- The mark in front is a lexeme of its own; the items are read up to the other one.
      rw [Json.chars, charBytes_cons_ascii (by decide), List.cons_append,
        run_mark (l := .openArray) rfl, run_itemChars items h, Option.map_map]
      rfl
  | object members =>
      rw [Json.chars, charBytes_cons_ascii (by decide), List.cons_append,
        run_mark (l := .openObject) rfl, run_memberChars members h, Option.map_map]
      rfl

/-- The items of a list are read up to its end. -/
theorem run_itemChars (items : List Json) (h : Json.ItemsHaveWords items) (rest : Bytes) :
    run blank (charBytes (Json.itemChars items) ++ rest) =
      (run blank rest).map (Json.itemLexemes items ++ ·) := by
  match items with
  | [] => exact run_mark rfl rest
  | [value] =>
      -- The mark that closes the list also ends its last item.
      rw [Json.itemChars, charBytes_append, List.append_assoc,
        show charBytes [']'] ++ rest = 93 :: rest from rfl,
        run_chars value h.1 (ends_mark (.inr (.inl rfl)) rest),
        run_mark (l := .closeArray) rfl, Option.map_map, Json.itemLexemes]
      simp only [Function.comp_def, List.append_assoc, List.singleton_append]
  | value :: next :: more =>
      -- A comma ends the item, and the rest of the list is read like a list.
      rw [Json.itemChars, charBytes_append, List.append_assoc, charBytes_cons_ascii (by decide),
        List.cons_append, show asciiByte ',' = 44 from rfl,
        run_chars value h.1 (ends_mark (.inl rfl) _), run_mark (l := .comma) rfl,
        run_itemChars (next :: more) h.2, Option.map_map,
        Option.map_map, Json.itemLexemes_cons]
      · simp only [Function.comp_def, List.append_assoc, List.cons_append]
      · exact fun hc => absurd hc (List.cons_ne_nil _ _)

/-- The members of an object are read up to its end. -/
theorem run_memberChars (members : List (String × Json)) (h : Json.MembersHaveWords members)
    (rest : Bytes) :
    run blank (charBytes (Json.memberChars members) ++ rest) =
      (run blank rest).map (Json.memberLexemes members ++ ·) := by
  match members with
  | [] => exact run_mark rfl rest
  | [(name, value)] =>
      rw [Json.memberChars, charBytes_append, List.append_assoc, run_quoted,
        charBytes_cons_ascii (by decide), List.cons_append, run_mark (l := .colon) rfl,
        charBytes_append, List.append_assoc,
        show charBytes [Json.closeBrace] ++ rest = 125 :: rest from rfl,
        run_chars value h.1 (ends_mark (.inr (.inr rfl)) rest),
        run_mark (l := .closeObject) rfl, Option.map_map, Option.map_map, Option.map_map,
        Json.memberLexemes]
      simp only [Function.comp_def, List.cons_append, List.append_assoc, List.nil_append]
  | (name, value) :: next :: more =>
      -- The name is over with its closing mark, and the value with the comma.
      rw [Json.memberChars, charBytes_append, List.append_assoc, run_quoted,
        charBytes_cons_ascii (by decide), List.cons_append, run_mark (l := .colon) rfl,
        charBytes_append, List.append_assoc, charBytes_cons_ascii (by decide), List.cons_append,
        show asciiByte ',' = 44 from rfl, run_chars value h.1 (ends_mark (.inl rfl) _),
        run_mark (l := .comma) rfl,
        run_memberChars (next :: more) h.2, Option.map_map, Option.map_map, Option.map_map,
        Option.map_map, Json.memberLexemes_cons]
      · simp only [Function.comp_def, List.cons_append, List.append_assoc]
      · exact fun hc => absurd hc (List.cons_ne_nil _ _)

end

end Lexer

/-- The lexemes of a written document are those that make it up. -/
theorem Lexeme.ofBytes?_bytes (v : Json) (h : v.HasWords) :
    Lexeme.ofBytes? v.bytes = some v.lexemes := by
  have hr := Lexer.run_chars v h Lexer.ends_nil
  rw [List.append_nil] at hr
  rw [Lexeme.ofBytes?, Json.bytes, Json.text, utf8_ofList, hr]
  simp only [Lexer.run, Option.map_some, List.append_nil]

end Gatehouse
