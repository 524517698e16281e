import Gatehouse.Proofs.Text.Split
import Gatehouse.Proofs.Url.Coding
import Gatehouse.Url.Path
import Mathlib.Algebra.GroupWithZero.Nat

/-!
# Paths of addresses taken apart

How segments are read from a text and what is left of them when dots are followed. Segments
that are no dots stay where they are, and what is left of any others does not have to be
spelled or resolved again.

## Main definitions

* `Url.Path.IsSettled`: A segment that stays as it is when it is read again.
* `Url.Path.slashed`: A separator as a slash.
* `Url.Path.trimmed`: Segments without the empty ones at their end.

## Theorems

* `Url.Path.dropDot_spell`: Spelling makes no dots.
* `Url.Path.resolve_plain`: Segments that are no dots stay where they are.
* `Url.Path.isSettled_resolve`: What is left is settled.
* `Url.Path.sum_resolveFrom_le`: Nothing is added when dots are followed.
* `Url.Path.segments_text`: Written segments are read back.
* `Url.Path.dropWhile_text`: Written segments without the slashes at their end.
-/

namespace Gatehouse.Url.Path

open Text

theorem dropDot_eq_some {text rest : List Char} (h : dropDot text = some rest) :
    text = '.' :: rest ∨ ∃ e, (e = 'e' ∨ e = 'E') ∧ text = '%' :: '2' :: e :: rest := by
  unfold dropDot at h
  split at h
  · exact .inl (congrArg _ (Option.some.inj h))
  · next e more =>
    split at h
    · next he =>
      obtain rfl := Option.some.inj h
      rw [Bool.or_eq_true, decide_eq_true_eq, decide_eq_true_eq] at he
      exact .inr ⟨e, he, rfl⟩
    · exact nomatch h
  · exact nomatch h

/-- What is written for a character is itself or the escape of a byte that is no dot. -/
theorem spellChar_cases (c : Char) : spellChar needsCodingInPath c = [c] ∨
    ∃ b more, b ≠ 46 ∧ spellChar needsCodingInPath c =
      (percentByte b).map asciiChar ++ more := by
  cases hc : needsCodingInPath c with
  | true =>
      obtain ⟨b, bytes, hbytes⟩ :=
        List.exists_cons_of_ne_nil (String.utf8EncodeChar_ne_nil (c := c))
      have hb : isCodedByte b = true :=
        isCodedByte_of_mem hc (hbytes ▸ List.mem_cons_self)
      -- Of the bytes that are spelled out none is a dot, and so the first one is not.
      refine .inr ⟨b, bytes.flatMap fun x => (percentByte x).map asciiChar, ?_, ?_⟩
      · rintro rfl
        exact absurd hb (by decide)
      · rw [spellChar, if_pos hc, utf8_singleton, hbytes, List.flatMap_cons]
  | false => exact .inl (by rw [spellChar, hc]; rfl)

theorem spell_cons (c : Char) (rest : List Char) : spell needsCodingInPath (c :: rest) =
    spellChar needsCodingInPath c ++ spell needsCodingInPath rest := List.flatMap_cons

/-- A spelled text that starts with a character other than a percent sign starts with it
before it is spelled. -/
theorem spell_eq_cons {text rest : List Char} {c : Char} (hc : c ≠ '%')
    (h : spell needsCodingInPath text = c :: rest) :
    ∃ more, text = c :: more ∧ spell needsCodingInPath more = rest := by
  cases text with
  | nil => exact nomatch h
  | cons d more =>
      rw [spell_cons] at h
      rcases spellChar_cases d with hd | ⟨b, tail, -, hd⟩
      · rw [hd, List.singleton_append] at h
        obtain ⟨rfl, hrest⟩ := List.cons.inj h
        exact ⟨more, rfl, hrest⟩
      · rw [hd] at h
        exact absurd (List.cons.inj h).1.symm hc

/-- No escape of any byte but a dot is that of a dot. -/
theorem escape_ne_dot {b : UInt8} (hb : b ≠ 46) {e : Char} (he : e = 'e' ∨ e = 'E')
    {more rest : List Char} :
    (percentByte b).map asciiChar ++ more ≠ '%' :: '2' :: e :: rest := by
  intro h
  -- All bytes are tried.
  have hall : ∀ n : Fin 256, asciiChar (hexDigit (UInt8.ofNat n / 16)) = '2' →
      asciiChar (hexDigit (UInt8.ofNat n % 16)) = 'e' ∨
        asciiChar (hexDigit (UInt8.ofNat n % 16)) = 'E' → UInt8.ofNat n = 46 := by
    decide +kernel
  obtain ⟨-, h⟩ := List.cons.inj h
  obtain ⟨hhigh, h⟩ := List.cons.inj h
  obtain ⟨hlow, -⟩ := List.cons.inj h
  have hdot := hall ⟨b.toNat, b.toNat_lt⟩
  rw [UInt8.ofNat_toNat] at hdot
  exact hb (hdot hhigh (hlow ▸ he))

/-- Spelling makes no dots. -/
theorem dropDot_spell {text rest : List Char}
    (h : dropDot (spell needsCodingInPath text) = some rest) :
    ∃ more, dropDot text = some more ∧ spell needsCodingInPath more = rest := by
  rcases dropDot_eq_some h with hdot | ⟨e, he, hescape⟩
  · obtain ⟨more, rfl, hmore⟩ := spell_eq_cons (by decide) hdot
    exact ⟨more, rfl, hmore⟩
  · cases text with
    | nil => exact nomatch hescape
    | cons c text =>
        rw [spell_cons] at hescape
        rcases spellChar_cases c with hc | ⟨b, tail, hb, hc⟩
        · -- The percent sign was there before, and so were the characters behind it.
          rw [hc, List.singleton_append] at hescape
          obtain ⟨rfl, htwo⟩ := List.cons.inj hescape
          obtain ⟨tail, rfl, hletter⟩ := spell_eq_cons (by decide) htwo
          have hne : e ≠ '%' := by rcases he with rfl | rfl <;> decide
          obtain ⟨more, rfl, hrest⟩ := spell_eq_cons hne hletter
          refine ⟨more, ?_, hrest⟩
          rw [dropDot, if_pos]
          rwa [Bool.or_eq_true, decide_eq_true_eq, decide_eq_true_eq]
        · -- It starts the escape of a character, and that is no dot.
          rw [hc, List.append_assoc] at hescape
          exact absurd hescape (escape_ne_dot hb he)

theorem spell_eq_nil {text : List Char} (h : spell needsCodingInPath text = []) : text = [] := by
  cases text with
  | nil => rfl
  | cons c rest =>
      rw [spell_cons] at h
      rcases spellChar_cases c with hc | ⟨b, more, -, hc⟩
      · rw [hc] at h
        exact nomatch h
      · rw [hc] at h
        exact nomatch h

theorem isHere_spell {segment : List Char} (h : isHere segment = false) :
    isHere (spell needsCodingInPath segment) = false := by
  rw [← Bool.not_eq_true, isHere, decide_eq_true_eq]
  intro hspelled
  obtain ⟨more, hmore, hnil⟩ := dropDot_spell hspelled
  rw [isHere, hmore, spell_eq_nil hnil] at h
  exact absurd h (by decide)

theorem isBack_spell {segment : List Char} (h : isBack segment = false) :
    isBack (spell needsCodingInPath segment) = false := by
  rw [← Bool.not_eq_true, isBack, decide_eq_true_eq]
  intro hspelled
  obtain ⟨first, hfirst, hsecond⟩ := Option.bind_eq_some_iff.1 hspelled
  obtain ⟨more, hmore, rfl⟩ := dropDot_spell hfirst
  obtain ⟨last, hlast, hnil⟩ := dropDot_spell hsecond
  rw [isBack, hmore, Option.bind_some, hlast, spell_eq_nil hnil] at h
  exact absurd h (by decide)

/-- What is decoded from a text that starts with a dot starts with one. -/
theorem percentDecode_dropDot {text rest : List Char} (h : dropDot text = some rest) :
    percentDecode (charBytes text) = 46 :: percentDecode (charBytes rest) := by
  rcases dropDot_eq_some h with rfl | ⟨e, he, rfl⟩
  · rw [charBytes_cons_ascii (by decide)]
    exact percentDecode_plain fun h => absurd h (by decide)
  · -- The digits of the escape are those of a dot, in either case of the letter.
    have hascii : e.toNat < 128 := by rcases he with rfl | rfl <;> decide
    have htwo : hexValue? (asciiByte '2') = some 2 := by decide
    have hvalue : hexValue? (asciiByte e) = some 14 := by rcases he with rfl | rfl <;> decide
    rw [charBytes_cons_ascii (by decide), charBytes_cons_ascii (by decide),
      charBytes_cons_ascii hascii]
    exact percentDecode_escape htwo hvalue _

theorem percentDecode_isHere {segment : List Char} (h : isHere segment = true) :
    percentDecode (charBytes segment) = [46] := by
  rw [isHere, decide_eq_true_eq] at h
  rw [percentDecode_dropDot h]
  rfl

theorem percentDecode_isBack {segment : List Char} (h : isBack segment = true) :
    percentDecode (charBytes segment) = [46, 46] := by
  rw [isBack, decide_eq_true_eq] at h
  obtain ⟨first, hfirst, hsecond⟩ := Option.bind_eq_some_iff.1 h
  rw [percentDecode_dropDot hfirst, percentDecode_dropDot hsecond]
  rfl

/-- A segment that stays as it is when it is read again. -/
structure IsSettled (segment : List Char) : Prop where
  here : isHere segment = false
  back : isBack segment = false
  plain : ∀ c ∈ segment, needsCodingInPath c = false ∧ c ≠ '/' ∧ c ≠ '\\'

theorem isSettled_nil : IsSettled [] where
  here := by decide
  back := by decide
  plain _ h := nomatch h

theorem isSettled_spell {segment : List Char} (hhere : isHere segment = false)
    (hback : isBack segment = false) (hplain : ∀ c ∈ segment, c ≠ '/' ∧ c ≠ '\\') :
    IsSettled (spell needsCodingInPath segment) where
  here := isHere_spell hhere
  back := isBack_spell hback
  plain c hc := by
    rcases mem_spell hc with ⟨hmem, hcoding⟩ | hescape
    · exact ⟨hcoding, hplain c hmem⟩
    · exact ⟨needsCodingInPath_of_isEscapeChar hescape, ne_of_apply hescape (by decide),
        ne_of_apply hescape (by decide)⟩

theorem IsSettled.spell_eq {segment : List Char} (h : IsSettled segment) :
    spell needsCodingInPath segment = segment :=
  spell_eq_self fun c hc => (h.plain c hc).1

theorem map_spell_settled {segments : List (List Char)} (h : ∀ s ∈ segments, IsSettled s) :
    segments.map (spell needsCodingInPath) = segments := by
  induction segments with
  | nil => rfl
  | cons s rest ih =>
      rw [List.map_cons, (h s List.mem_cons_self).spell_eq,
        ih fun t ht => h t (List.mem_cons_of_mem _ ht)]

/-- Segments that are no dots stay where they are. -/
theorem resolveFrom_append {segments : List (List Char)}
    (h : ∀ s ∈ segments, isBack s = false ∧ isHere s = false) (before rest : List (List Char)) :
    resolveFrom before (segments ++ rest) =
      resolveFrom ((segments.map (spell needsCodingInPath)).reverse ++ before) rest := by
  induction segments generalizing before with
  | nil => rfl
  | cons s segments ih =>
      obtain ⟨hback, hhere⟩ := h s List.mem_cons_self
      rw [List.cons_append, resolveFrom, hback, hhere, if_neg Bool.false_ne_true,
        if_neg Bool.false_ne_true, ih fun t ht => h t (List.mem_cons_of_mem _ ht),
        List.map_cons, List.reverse_cons, List.append_assoc, List.singleton_append]

theorem resolve_plain {segments : List (List Char)}
    (h : ∀ s ∈ segments, isBack s = false ∧ isHere s = false) :
    resolve segments = segments.map (spell needsCodingInPath) := by
  have hall := resolveFrom_append h [] []
  rw [List.append_nil, List.append_nil] at hall
  rw [resolve, hall, resolveFrom, List.reverse_reverse]

/-- What is left when dots are followed comes from the segments, and from nothing else. -/
theorem mem_resolveFrom {before segments : List (List Char)} {s : List Char}
    (h : s ∈ resolveFrom before segments) : s ∈ before ∨ s = [] ∨
      ∃ t ∈ segments, isHere t = false ∧ isBack t = false ∧ s = spell needsCodingInPath t := by
  induction segments generalizing before with
  | nil => exact .inl (List.mem_reverse.1 h)
  | cons t rest ih =>
      -- Whatever is held after this segment, the rest comes from it or from later segments.
      have hlater {held : List (List Char)} (hs : s ∈ resolveFrom held rest)
          (hheld : s ∈ held → s ∈ before ∨ s = []) : s ∈ before ∨ s = [] ∨
            ∃ u ∈ t :: rest, isHere u = false ∧ isBack u = false ∧
              s = spell needsCodingInPath u := by
        rcases ih hs with hin | hnil | ⟨u, hu, hplain⟩
        · rcases hheld hin with hbefore | hnil
          · exact .inl hbefore
          · exact .inr (.inl hnil)
        · exact .inr (.inl hnil)
        · exact .inr (.inr ⟨u, List.mem_cons_of_mem _ hu, hplain⟩)
      rw [resolveFrom] at h
      by_cases hback : isBack t = true
      · rw [if_pos hback] at h
        refine hlater h fun hin => ?_
        split at hin
        · rcases List.mem_cons.1 hin with hnil | htail
          · exact .inr hnil
          · exact .inl (List.mem_of_mem_tail htail)
        · exact .inl (List.mem_of_mem_tail hin)
      · rw [if_neg hback] at h
        by_cases hhere : isHere t = true
        · rw [if_pos hhere] at h
          refine hlater h fun hin => ?_
          split at hin
          · exact (List.mem_cons.1 hin).symm
          · exact .inl hin
        · rw [if_neg hhere] at h
          rcases ih h with hin | hnil | ⟨u, hu, hplain⟩
          · rcases List.mem_cons.1 hin with rfl | hbefore
            · exact .inr (.inr ⟨t, List.mem_cons_self, Bool.eq_false_iff.2 hhere,
                Bool.eq_false_iff.2 hback, rfl⟩)
            · exact .inl hbefore
          · exact .inr (.inl hnil)
          · exact .inr (.inr ⟨u, List.mem_cons_of_mem _ hu, hplain⟩)

theorem isSettled_resolve {segments : List (List Char)}
    (h : ∀ t ∈ segments, ∀ c ∈ t, c ≠ '/' ∧ c ≠ '\\') {s : List Char}
    (hs : s ∈ resolve segments) : IsSettled s := by
  rcases mem_resolveFrom hs with hnone | rfl | ⟨t, ht, hhere, hback, rfl⟩
  · exact nomatch hnone
  · exact isSettled_nil
  · exact isSettled_spell hhere hback (h t ht)

/-- Following dots adds nothing: a measure that spelling does not change is at most what it
was. -/
theorem sum_resolveFrom_le {measure : List Char → Nat} (hnil : measure [] = 0)
    (hspell : ∀ t, measure (spell needsCodingInPath t) = measure t)
    (before segments : List (List Char)) :
    ((resolveFrom before segments).map measure).sum ≤
      (before.map measure).sum + (segments.map measure).sum := by
  induction segments generalizing before with
  | nil =>
      rw [resolveFrom, List.map_reverse, List.sum_reverse]
      exact Nat.le_refl _
  | cons t rest ih =>
      -- Going back drops a segment, and the others count as before.
      have htail : (before.tail.map measure).sum ≤ (before.map measure).sum := by
        cases before with
        | nil => exact Nat.le_refl _
        | cons s before => exact Nat.le_add_left _ _
      rw [resolveFrom, List.map_cons, List.sum_cons]
      split
      · refine Nat.le_trans (ih _) ?_
        split
        · rw [List.map_cons, List.sum_cons, hnil]
          omega
        · omega
      · split
        · refine Nat.le_trans (ih _) ?_
          split
          · rw [List.map_cons, List.sum_cons, hnil]
            omega
          · omega
        · refine Nat.le_trans (ih _) ?_
          rw [List.map_cons, List.sum_cons, hspell]
          omega

/-- A separator of the known schemes as a slash. -/
def slashed (c : Char) : Char := if isSeparator true c then '/' else c

theorem slashed_of_ne {c : Char} (hslash : c ≠ '/') (hback : c ≠ '\\') : slashed c = c := by
  rw [slashed, isSeparator, Bool.true_and, beq_false_of_ne hslash, beq_false_of_ne hback]
  rfl

theorem map_slashed {text : List Char} (h : ∀ c ∈ text, c ≠ '\\') : text.map slashed = text := by
  induction text with
  | nil => rfl
  | cons c rest ih =>
      rw [List.map_cons, ih fun d hd => h d (List.mem_cons_of_mem _ hd)]
      by_cases hc : c = '/'
      · rw [hc]
        rfl
      · rw [slashed_of_ne hc (h c List.mem_cons_self)]

theorem slashed_ne (c : Char) : slashed c ≠ '\\' := by
  intro hc
  rw [slashed] at hc
  split at hc
  · exact absurd hc (by decide)
  · next hsep =>
    rw [hc] at hsep
    exact hsep (by decide)

/-- The bytes of a text whose backslashes are slashes. -/
theorem charBytes_slashed (text : List Char) :
    charBytes (text.map slashed) = (charBytes text).map (replaceByte 92 47) := by
  induction text with
  | nil => rfl
  | cons c rest ih =>
      rw [List.map_cons, charBytes_cons, charBytes_cons, List.map_append, ih]
      congr 1
      by_cases hback : c = '\\'
      · rw [hback]
        rfl
      · have hkeep : slashed c = c := by
          by_cases hslash : c = '/'
          · rw [hslash]
            rfl
          · exact slashed_of_ne hslash hback
        -- No other letter has the byte of a backslash in it.
        have hbytes : ∀ b ∈ String.utf8EncodeChar c, replaceByte 92 47 b = b := by
          intro b hb
          refine if_neg ?_
          rintro rfl
          exact hback (eq_of_asciiByte_mem (d := '\\') (by decide) hb)
        rw [hkeep, List.map_congr_left hbytes, List.map_id']

/-- A separator in front is left aside. -/
theorem segments_of_slash {text rest : List Char} (h : text.map slashed = '/' :: rest) :
    segments true text = splitOn '/' rest := by
  have hmap : (text.map fun c => if isSeparator true c then '/' else c) = '/' :: rest := h
  simp only [segments, hmap]

/-- No separator is left in the segments of a text. -/
theorem plain_segments {text segment : List Char} (h : segment ∈ segments true text) {c : Char}
    (hc : c ∈ segment) : c ≠ '/' ∧ c ≠ '\\' := by
  have hpieces {rest : List Char} (hrest : ∀ d ∈ rest, d ∈ text.map slashed)
      (hmem : segment ∈ splitOn '/' rest) : c ≠ '/' ∧ c ≠ '\\' := by
    obtain ⟨hin, hne⟩ := mem_splitOn hmem hc
    obtain ⟨d, -, rfl⟩ := List.mem_map.1 (hrest c hin)
    exact ⟨hne, slashed_ne d⟩
  simp only [segments] at h
  split at h
  · next rest heq =>
    have hslashed : text.map slashed = '/' :: rest := heq
    exact hpieces (fun d hd => hslashed ▸ List.mem_cons_of_mem _ hd) h
  · exact hpieces (fun d hd => hd) h

theorem text_nil : text [] = [] := rfl

theorem text_cons (s : List Char) (rest : List (List Char)) :
    text (s :: rest) = '/' :: (s ++ text rest) := List.flatMap_cons

theorem mem_text {list : List (List Char)} {c : Char} (h : c ∈ text list) :
    c = '/' ∨ ∃ s ∈ list, c ∈ s := by
  obtain ⟨s, hs, hc⟩ := List.mem_flatMap.1 h
  rcases List.mem_cons.1 hc with rfl | hc
  · exact .inl rfl
  · exact .inr ⟨s, hs, hc⟩

theorem splitOn_text {list : List (List Char)} (h : ∀ s ∈ list, '/' ∉ s) (tail : List Char) :
    ∃ rest, text list ++ '/' :: tail = '/' :: rest ∧
      splitOn '/' rest = list ++ splitOn '/' tail := by
  induction list with
  | nil => exact ⟨tail, rfl, rfl⟩
  | cons s list ih =>
      obtain ⟨rest, htext, hsplit⟩ := ih fun t ht => h t (List.mem_cons_of_mem _ ht)
      refine ⟨s ++ '/' :: rest, ?_, ?_⟩
      · rw [text_cons, List.cons_append, List.append_assoc, htext]
      · rw [splitOn_append (h s List.mem_cons_self), hsplit, List.cons_append]

/-- Written segments are read back, with those of what is written behind them. -/
theorem segments_text {list : List (List Char)} (h : ∀ s ∈ list, IsSettled s)
    (tail : List Char) :
    segments true (text list ++ '/' :: tail) = list ++ splitOn '/' (tail.map slashed) := by
  have hslash (s : List Char) (hs : s ∈ list) : '/' ∉ s :=
    fun hc => ((h s hs).plain '/' hc).2.1 rfl
  have hplain : (text list).map slashed = text list := by
    refine map_slashed fun c hc => ?_
    rcases mem_text hc with rfl | ⟨s, hs, hc⟩
    · decide
    · exact ((h s hs).plain c hc).2.2
  obtain ⟨rest, htext, hsplit⟩ := splitOn_text hslash (tail.map slashed)
  -- The list has no backslashes, so only what is behind it is changed.
  have hmapped : (text list ++ '/' :: tail).map slashed = '/' :: rest := by
    rw [List.map_append, hplain, List.map_cons, ← htext]
    rfl
  rw [← hsplit, segments_of_slash hmapped]

/-- Segments without the empty ones at their end. -/
def trimmed (list : List (List Char)) : List (List Char) :=
  (list.reverse.dropWhile (·.isEmpty)).reverse

theorem trimmed_subset {list : List (List Char)} {s : List Char} (h : s ∈ trimmed list) :
    s ∈ list :=
  List.mem_reverse.1 ((List.dropWhile_sublist _).subset (List.mem_reverse.1 h))

theorem trimmed_concat (list : List (List Char)) (s : List Char) :
    trimmed (list ++ [s]) = if s.isEmpty then trimmed list else list ++ [s] := by
  rw [trimmed, List.reverse_append, List.reverse_singleton, List.singleton_append,
    List.dropWhile_cons]
  split
  · rfl
  · rw [List.reverse_cons, List.reverse_reverse]

theorem text_append (list list' : List (List Char)) :
    text (list ++ list') = text list ++ text list' := List.flatMap_append

/-- Dropping slashes at the end of a written path drops empty segments at its end. -/
theorem dropWhile_text {list : List (List Char)} (h : ∀ s ∈ list, '/' ∉ s) (front : List Char)
    {last : Char} (hlast : last ≠ '/') :
    ((front ++ [last] ++ text list).reverse.dropWhile (· == '/')).reverse =
      front ++ [last] ++ text (trimmed list) := by
  have hstop (c : Char) (hc : c ≠ '/') (cs : List Char) :
      ((c :: cs).dropWhile (· == '/')).reverse = cs.reverse ++ [c] := by
    rw [List.dropWhile_cons_of_neg (by rw [beq_iff_eq]; exact hc), List.reverse_cons]
  induction hr : list.reverse generalizing list with
  | nil =>
      obtain rfl := List.reverse_eq_nil_iff.1 hr
      rw [text_nil, List.append_nil, List.reverse_append, List.reverse_singleton,
        List.singleton_append, hstop last hlast, List.reverse_reverse]
      exact (List.append_nil _).symm
  | cons s before ih =>
      obtain rfl : list = before.reverse ++ [s] := by
        rw [← List.reverse_reverse list, hr, List.reverse_cons]
      rw [trimmed_concat]
      -- The slash of an empty segment is dropped; any other segment ends the dropping.
      cases hs : s.reverse with
      | nil =>
          obtain rfl := List.reverse_eq_nil_iff.1 hs
          have hbefore := ih (fun t ht => h t (List.mem_append_left _ ht)) (List.reverse_reverse _)
          rw [text_append, text_cons, text_nil, List.append_nil, ← List.append_assoc,
            List.reverse_append, List.reverse_singleton, List.singleton_append,
            List.dropWhile_cons_of_pos (by decide), hbefore]
          rfl
      | cons c more =>
          obtain rfl : s = more.reverse ++ [c] := by
            rw [← List.reverse_reverse s, hs, List.reverse_cons]
          have hc : c ≠ '/' := by
            rintro rfl
            exact h _ (List.mem_append_right _ (List.mem_singleton_self _))
              (List.mem_append_right _ (List.mem_singleton_self _))
          have hwhole : front ++ [last] ++ text (before.reverse ++ [more.reverse ++ [c]]) =
              (front ++ [last] ++ text before.reverse ++ '/' :: more.reverse) ++ [c] := by
            simp only [text_append, text_cons, text_nil, List.append_assoc, List.cons_append,
              List.append_nil]
          have hne : ¬ (more.reverse ++ [c]).isEmpty = true := by
            rw [List.isEmpty_iff]
            exact List.append_ne_nil_of_right_ne_nil _ (List.cons_ne_nil _ _)
          rw [if_neg hne, hwhole, List.reverse_append, List.reverse_singleton,
            List.singleton_append, hstop c hc, List.reverse_reverse]

end Gatehouse.Url.Path
