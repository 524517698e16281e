import Gatehouse.Proofs.Text.Percent
import Gatehouse.Proofs.Text.Split
import Mathlib.Data.List.Forall2

/-!
# Forms read back

The pairs of a form are read back from its coded text as they were, in the same order, repeated
names included. No coded name or value holds one of the two marks between them, so the text is
taken apart where it was put together, and a plus sign in it always stands for a blank: one that
was there before is spelled out.

A form can be written in many ways, since senders differ in what they spell out and whether they
write a blank as a plus sign. What is read back is the same for all of them.

## Main definitions

* `Text.formByte`: What is written for one byte.
* `Text.blanked`: A byte with the plus sign taken for a blank.
* `Text.SpellsText`, `Text.SpellsPair`, `Text.SpellsForm`: The ways of writing a form.

## Theorems

* `Text.mem_formEncode`: A coded form is in ASCII.
* `Text.SpellsText.formText_coded`: A coded name or value is read back.
* `Text.SpellsForm.formDecode_eq`: The pairs of a form are read back.
* `Text.spellsForm_formEncode`: One of the ways of writing a form.
-/

namespace Gatehouse.Text

/-- What is written for one byte of a name or value. -/
def formByte (b : UInt8) : Bytes :=
  if isFormPlain b then [b] else if b = 32 then [43] else percentByte b

/-- A byte with the plus sign taken for a blank. -/
def blanked (b : UInt8) : UInt8 := if b = 43 then 32 else b

theorem formText_eq (coded : Bytes) :
    formText coded = ofUtf8Lossy (percentDecode (coded.map blanked)) := rfl

/-- What is written for a byte stands for it, and is none of the marks of a form. -/
theorem formByte_spec (b : UInt8) :
    ((formByte b).map blanked = [b] ∧ b ≠ 37 ∨ (formByte b).map blanked = percentByte b) ∧
      ∀ x ∈ formByte b, x ≠ 38 ∧ x ≠ 61 ∧ x.toNat < 128 := by
  -- All bytes are tried.
  have hall : ∀ n : Fin 256, ((formByte (UInt8.ofNat n)).map blanked = [UInt8.ofNat n] ∧
        UInt8.ofNat n ≠ 37 ∨ (formByte (UInt8.ofNat n)).map blanked = percentByte (UInt8.ofNat n)) ∧
      (formByte (UInt8.ofNat n)).all (fun x => x ≠ 38 ∧ x ≠ 61 ∧ x.toNat < 128) = true := by
    decide +kernel
  have hb := hall ⟨b.toNat, b.toNat_lt⟩
  rw [UInt8.ofNat_toNat] at hb
  exact ⟨hb.1, fun x hx => of_decide_eq_true (List.all_eq_true.1 hb.2 x hx)⟩

theorem mem_formPiece {s : String} {x : UInt8} (h : x ∈ formPiece s) :
    x ≠ 38 ∧ x ≠ 61 ∧ x.toNat < 128 := by
  rcases List.mem_flatMap.1 h with ⟨b, -, hx⟩
  exact (formByte_spec b).2 x hx

/-- The ways of writing a name or a value in a form: percent coding where a plus sign is a blank,
without the mark that stands between pairs. -/
def SpellsText (coded : Bytes) (s : String) : Prop :=
  38 ∉ coded ∧ CodesFor (coded.map blanked) (utf8 s)

/-- The ways of writing a pair: a name that ends at the first `=`, and a value behind it. -/
def SpellsPair (coded : Bytes) (pair : String × String) : Prop :=
  ∃ name value, coded = name ++ 61 :: value ∧ 61 ∉ name ∧ SpellsText name pair.1 ∧
    SpellsText value pair.2

/-- The ways of writing a form: its pairs one after the other with `&` between them. -/
def SpellsForm (coded : Bytes) (pairs : List (String × String)) : Prop :=
  ∃ pieces, coded = joinWith 38 pieces ∧ List.Forall₂ SpellsPair pieces pairs

/-- A name or a value without special characters may be written as it is. -/
theorem SpellsText.self {s : String} (h : ∀ b ∈ utf8 s, b ≠ 37 ∧ b ≠ 38 ∧ b ≠ 43) :
    SpellsText (utf8 s) s := by
  have hblanked : (utf8 s).map blanked = utf8 s :=
    (List.map_congr_left fun b hb => if_neg (h b hb).2.2).trans (List.map_id' _)
  refine ⟨fun hmark => (h 38 hmark).2.1 rfl, ?_⟩
  rw [hblanked]
  exact .self fun hpercent => (h 37 hpercent).1 rfl

/-- A name or a value is read back however it is written. -/
theorem SpellsText.formText_coded {coded : Bytes} {s : String} (h : SpellsText coded s) :
    formText coded = s := by
  rw [formText_eq, h.2.percentDecode_eq, ofUtf8Lossy_utf8]

/-- The pair that a piece of a form stands for. -/
def readPair (piece : Bytes) : String × String :=
  (formText (splitFirst 61 piece).1, formText ((splitFirst 61 piece).2.getD []))

theorem formDecode_eq_map (query : Bytes) :
    formDecode query = ((splitOn 38 query).filter (!·.isEmpty)).map readPair := rfl

namespace SpellsPair

variable {coded : Bytes} {pair : String × String}

/-- A pair is read back however it is written. -/
theorem readPair_eq (h : SpellsPair coded pair) : readPair coded = pair := by
  rcases h with ⟨name, value, rfl, hmark, hname, hvalue⟩
  rw [readPair, splitFirst_append hmark, Option.getD_some, hname.formText_coded,
    hvalue.formText_coded]

/-- What stands for a pair is neither left out nor divided. -/
theorem undivided (h : SpellsPair coded pair) : coded ≠ [] ∧ 38 ∉ coded := by
  rcases h with ⟨name, value, rfl, -, hname, hvalue⟩
  refine ⟨List.append_ne_nil_of_right_ne_nil _ (List.cons_ne_nil _ _), ?_⟩
  rw [List.mem_append, List.mem_cons, not_or, not_or]
  exact ⟨hname.1, by decide, hvalue.1⟩

end SpellsPair

/-- The pieces of a form are read one by one, and no mark between them is in one of them. -/
theorem read_pieces {pieces : List Bytes} {pairs : List (String × String)}
    (h : List.Forall₂ SpellsPair pieces pairs) :
    pieces.map readPair = pairs ∧ ∀ piece ∈ pieces, piece ≠ [] ∧ 38 ∉ piece := by
  induction h with
  | nil => exact ⟨rfl, fun _ hpiece => nomatch hpiece⟩
  | cons hpair _ ih =>
      rw [List.map_cons, hpair.readPair_eq, ih.1]
      exact ⟨rfl, List.forall_mem_cons.2 ⟨hpair.undivided, ih.2⟩⟩

/-- The pairs of a form are read back however it is written. -/
theorem SpellsForm.formDecode_eq {coded : Bytes} {pairs : List (String × String)}
    (h : SpellsForm coded pairs) : formDecode coded = pairs := by
  rcases h with ⟨pieces, rfl, hpieces⟩
  rcases read_pieces hpieces with ⟨hread, hfull⟩
  cases pieces with
  | nil =>
      -- The empty text is one empty piece, which is left out.
      exact hread
  | cons first rest =>
      have hkept : ∀ piece ∈ first :: rest, (!piece.isEmpty) = true := by
        intro piece hpiece
        rw [Bool.not_eq_true', List.isEmpty_eq_false_iff]
        exact (hfull piece hpiece).1
      rw [formDecode_eq_map, splitOn_joinWith (List.cons_ne_nil _ _) fun p hp => (hfull p hp).2,
        List.filter_eq_self.2 hkept, hread]

/-- What is written for bytes percent-codes them, with plus signs for blanks. -/
theorem codesFor_formBytes (bytes : Bytes) :
    CodesFor ((bytes.flatMap formByte).map blanked) bytes := by
  induction bytes with
  | nil => exact .nil
  | cons b rest ih =>
      have hb : CodesFor ((formByte b).map blanked) [b] := by
        rcases (formByte_spec b).1 with ⟨hplain, hpercent⟩ | hcoded
        · rw [hplain]
          exact .plain hpercent .nil
        · rw [hcoded]
          exact .percentByte b
      rw [List.flatMap_cons, List.map_append]
      exact hb.append ih

theorem spellsText_formPiece (s : String) : SpellsText (formPiece s) s :=
  ⟨fun h => (mem_formPiece h).1 rfl, codesFor_formBytes (utf8 s)⟩

/-- A pair with the mark between its name and its value. -/
def formPair (pair : String × String) : Bytes := formPiece pair.1 ++ 61 :: formPiece pair.2

theorem formEncode_eq (pairs : List (String × String)) :
    formEncode pairs = joinWith 38 (pairs.map formPair) := rfl

theorem mem_formPair {pair : String × String} {x : UInt8} (h : x ∈ formPair pair) :
    x.toNat < 128 := by
  rcases List.mem_append.1 h with hname | hrest
  · exact (mem_formPiece hname).2.2
  · rcases List.mem_cons.1 hrest with rfl | hvalue
    · decide
    · exact (mem_formPiece hvalue).2.2

/-- A coded form is in ASCII. -/
theorem mem_formEncode {pairs : List (String × String)} {x : UInt8} (h : x ∈ formEncode pairs) :
    x.toNat < 128 := by
  rcases mem_joinWith h with rfl | ⟨piece, hpiece, hx⟩
  · decide
  · rcases List.mem_map.1 hpiece with ⟨pair, -, rfl⟩
    exact mem_formPair hx

/-- A coded form is a text. -/
theorem utf8_formEncode (pairs : List (String × String)) :
    utf8 (String.ofList ((formEncode pairs).map asciiChar)) = formEncode pairs := by
  rw [utf8_ofList, charBytes_asciiChars fun b hb => mem_formEncode hb]

/-- Writing a form is one of the ways of writing it. -/
theorem spellsForm_formEncode (pairs : List (String × String)) :
    SpellsForm (formEncode pairs) pairs := by
  refine ⟨pairs.map formPair, formEncode_eq pairs, ?_⟩
  rw [List.forall₂_map_left_iff, List.forall₂_same]
  intro pair _
  exact ⟨_, _, rfl, fun h => (mem_formPiece h).2.1 rfl, spellsText_formPiece pair.1,
    spellsText_formPiece pair.2⟩

end Gatehouse.Text
