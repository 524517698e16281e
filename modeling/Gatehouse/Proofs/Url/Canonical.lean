import Gatehouse.Proofs.Text.Numeral
import Gatehouse.Proofs.Text.Percent
import Gatehouse.Proofs.Text.Split
import Gatehouse.Url.Host
import Mathlib.Data.List.Basic

/-!
# Hosts written and read

What is read under a known scheme is a name in lower case that is no number, a number of 32
bits, or eight pieces of 16 bits, and each of them is a host again where it is written. The
bytes and the pieces of the numbers are read again one by one. Around them only two things can
get in the way: a zero in front of a byte, which would stand for another base, and the gap in a
row of pieces, which must be the first double colon there is.

## Main definitions

* `Url.Host.IsCanonical`: A host as reading leaves it.
* `Url.Host.colons`: What is written for pieces.

## Theorems

* `Url.Host.four?_lt`, `Url.Host.six?_eq_some`: The numbers that texts spell.
* `Url.Host.exists_four?`, `Url.Host.exists_six?`: Numbers are read again.
* `Url.Host.mem_fourText`, `Url.Host.mem_sixText`: What numbers are written with.
* `Url.Host.isCanonical_of_ofText?`: What is read is canonical.
* `Url.Host.IsCanonical.exists_ofText?`: What is canonical is read again.
-/

namespace Gatehouse.Url.Host

open Text

/-- A host of a known scheme as reading leaves it. -/
def IsCanonical : Host → Prop
  | name text => text ≠ [] ∧ (∀ c ∈ text, isForbidden c = false) ∧
      text.map Char.toLower = text ∧ endsInNumber text = false
  | four value => value < 2 ^ 32
  | six pieces => pieces.length = 8 ∧ ∀ p ∈ pieces, p < 16 ^ 4

section Four

theorem foldr_bytes_lt {bytes : List Nat} (h : ∀ p ∈ bytes, p ≤ 255) :
    bytes.foldr (fun p n => n * 256 + p) 0 < 256 ^ bytes.length := by
  induction bytes with
  | nil => exact Nat.one_pos
  | cons p rest ih =>
      have hp := h p List.mem_cons_self
      have hrest := ih fun q hq => h q (List.mem_cons_of_mem p hq)
      rw [List.foldr_cons, List.length_cons, Nat.pow_succ]
      omega

/-- Whatever parts spell a number, it has 32 bits. -/
theorem four?_lt {text : List Char} {value : Nat} (h : four? text = some value) :
    value < 2 ^ 32 := by
  rcases Option.bind_eq_some_iff.1 h with ⟨numbers, -, hvalue⟩
  split at hvalue
  · exact nomatch hvalue
  · next last rest _ =>
    simp only at hvalue
    split at hvalue
    · exact nomatch hvalue
    · next hfits =>
      obtain rfl := Option.some.inj hvalue
      simp only [Bool.or_eq_true, decide_eq_true_eq, List.any_eq_true, not_or, not_exists,
        not_and, Nat.not_lt, Nat.not_le] at hfits
      rcases hfits with ⟨⟨hparts, hbytes⟩, hlast⟩
      have hfront := foldr_bytes_lt hbytes
      rw [List.foldl_reverse]
      rw [Nat.shiftLeft_eq] at hlast ⊢
      -- Each part in front takes a byte from the last one.
      have hlength : rest.length = 0 ∨ rest.length = 1 ∨ rest.length = 2 ∨ rest.length = 3 := by
        omega
      rcases hlength with hk | hk | hk | hk <;> rw [hk] at hfront hlast ⊢ <;> omega

/-- The digits of a number are a part that spells it. -/
theorem part?_toDigits (n : Nat) : part? (Nat.toDigits 10 n) = some n := by
  rcases Nat.eq_zero_or_pos n with rfl | hn
  · rfl
  · -- No zero is in front that would stand for another base.
    have hhead := head_toDigits hn
    have hspelled : number? 10 (Nat.toDigits 10 n) = some n :=
      number?_toDigits (by decide) (by decide) n
    unfold part?
    split
    · next hnil => exact absurd hnil Nat.toDigits_ne_nil
    · next hzero => exact absurd (congrArg List.head? hzero) hhead
    · next hzero => exact absurd (congrArg List.head? hzero) hhead
    · next hzero => exact absurd (congrArg List.head? hzero) hhead
    · next hzero => exact absurd (congrArg List.head? hzero) hhead
    · exact hspelled

theorem not_mem_toDigits {base : Nat} (hbase : 1 < base) (hmax : base ≤ 16) {mark : Char}
    (hmark : ∀ d : Fin 16, Nat.digitChar d ≠ mark) (n : Nat) : mark ∉ Nat.toDigits base n := by
  intro h
  have hne : ∀ c ∈ Nat.toDigits base n, c ≠ mark :=
    mem_toDigits hbase fun d hd => hmark ⟨d, by omega⟩
  exact hne mark h rfl

/-- The parts of numbers with dots between them. -/
theorem parts_toDigits {numbers : List Nat} (h : numbers ≠ []) :
    parts (joinWith '.' (numbers.map (Nat.toDigits 10))) = numbers.map (Nat.toDigits 10) := by
  have hdots : ∀ piece ∈ numbers.map (Nat.toDigits 10), '.' ∉ piece := by
    intro piece hpiece
    rcases List.mem_map.1 hpiece with ⟨n, -, rfl⟩
    exact not_mem_toDigits (by decide) (by decide) (by decide) n
  rw [parts, splitOn_joinWith (fun hnil => h (List.map_eq_nil_iff.1 hnil)) hdots]
  split
  · -- Only an empty last part would be left aside, and there is a digit in each.
    next rest hreverse =>
    have hlast : [] ∈ numbers.map (Nat.toDigits 10) := by
      rw [← List.mem_reverse, hreverse]
      exact List.mem_cons_self
    rcases List.mem_map.1 hlast with ⟨n, -, hnil⟩
    exact absurd hnil Nat.toDigits_ne_nil
  · exact List.reverse_reverse _

theorem mapM_part? (numbers : List Nat) :
    (numbers.map (Nat.toDigits 10)).mapM part? = some numbers := by
  induction numbers with
  | nil => rfl
  | cons n rest ih =>
      simp only [List.map_cons, List.mapM_cons, part?_toDigits, ih, Option.bind_eq_bind,
        Option.bind_some, Option.pure_def]

/-- A number of 32 bits is read again from its bytes. -/
theorem exists_four? {value : Nat} (h : value < 2 ^ 32) : ∃ n, four? (fourText value) = some n := by
  have hfirst : value >>> 24 ≤ 255 := by
    rw [Nat.shiftRight_eq_div_pow]
    omega
  rw [four?, fourText, parts_toDigits (List.cons_ne_nil _ _), mapM_part?]
  simp only [Option.bind_eq_bind, Option.bind_some, List.reverse_cons, List.reverse_nil,
    List.nil_append, List.cons_append, List.length_cons, List.length_nil]
  rw [if_neg]
  · exact ⟨_, rfl⟩
  · simp only [List.any_cons, List.any_nil, Bool.or_false, Bool.or_eq_true, decide_eq_true_eq]
    omega

end Four

section Six

theorem piece?_lt {digits : List Char} {n : Nat} (h : piece? digits = some n) : n < 16 ^ 4 := by
  unfold piece? at h
  split at h
  · exact nomatch h
  · next hlength =>
    rw [Bool.or_eq_true, not_or, decide_eq_true_eq, Nat.not_lt] at hlength
    exact Nat.lt_of_lt_of_le (number?_lt h) (Nat.pow_le_pow_right (by decide) hlength.2)

theorem byte?_lt {digits : List Char} {n : Nat} (h : byte? digits = some n) : n < 256 := by
  unfold byte? at h
  split at h
  · exact nomatch h
  · rw [Option.filter_eq_some_iff] at h
    exact of_decide_eq_true h.2

theorem of_mem_mapM {α β : Type} {f : α → Option β} {p : β → Prop}
    (hf : ∀ x y, f x = some y → p y) {xs : List α} {ys : List β} (h : xs.mapM f = some ys) :
    ∀ y ∈ ys, p y := by
  induction xs generalizing ys with
  | nil =>
      obtain rfl := Option.some.inj h
      exact fun y hy => nomatch hy
  | cons x rest ih =>
      rw [List.mapM_cons] at h
      rcases Option.bind_eq_some_iff.1 h with ⟨first, hfirst, hmore⟩
      rcases Option.bind_eq_some_iff.1 hmore with ⟨others, hothers, hsome⟩
      obtain rfl := Option.some.inj hsome
      intro y hy
      rcases List.mem_cons.1 hy with rfl | hy
      · exact hf x _ hfirst
      · exact ih hothers y hy

theorem dotted?_lt {text : List Char} {pieces : List Nat} (h : dotted? text = some pieces) :
    ∀ p ∈ pieces, p < 16 ^ 4 := by
  unfold dotted? at h
  split at h
  · next a b c d hbytes =>
    obtain rfl := Option.some.inj h
    have hlt : ∀ n ∈ [a, b, c, d], n < 256 := of_mem_mapM (fun _ _ => byte?_lt) hbytes
    have ha := hlt a (by simp)
    have hb := hlt b (by simp)
    have hc := hlt c (by simp)
    have hd := hlt d (by simp)
    -- Two bytes make a piece.
    intro p hp
    rcases List.mem_cons.1 hp with rfl | hp
    · omega
    · rw [List.mem_singleton.1 hp]
      omega
  · exact nomatch h

theorem pieces?_lt {texts : List (List Char)} {pieces : List Nat}
    (h : pieces? texts = some pieces) : ∀ p ∈ pieces, p < 16 ^ 4 := by
  -- Only the last text may be bytes with dots between them; all others are pieces.
  fun_induction pieces? texts generalizing pieces with
  | case1 =>
      obtain rfl := Option.some.inj h
      exact fun p hp => nomatch hp
  | case2 last _ => exact dotted?_lt h
  | case3 last _ =>
      rcases Option.map_eq_some_iff.1 h with ⟨n, hn, rfl⟩
      intro p hp
      rw [List.mem_singleton.1 hp]
      exact piece?_lt hn
  | case4 digits rest _ ih =>
      rcases Option.bind_eq_some_iff.1 h with ⟨piece, hpiece, hmore⟩
      rcases Option.bind_eq_some_iff.1 hmore with ⟨others, hothers, hsome⟩
      obtain rfl := Option.some.inj hsome
      intro p hp
      rcases List.mem_cons.1 hp with rfl | hp
      · exact piece?_lt hpiece
      · exact ih hothers p hp

theorem side?_lt {text : List Char} {pieces : List Nat} (h : side? text = some pieces) :
    ∀ p ∈ pieces, p < 16 ^ 4 := by
  unfold side? at h
  split at h
  · obtain rfl := Option.some.inj h
    exact fun p hp => nomatch hp
  · exact pieces?_lt h

/-- Whatever text spells pieces, there are eight of 16 bits. -/
theorem six?_eq_some {text : List Char} {pieces : List Nat} (h : six? text = some pieces) :
    pieces.length = 8 ∧ ∀ p ∈ pieces, p < 16 ^ 4 := by
  unfold six? at h
  split at h
  · -- Without a gap all pieces are spelled, and they are counted.
    rw [Option.filter_eq_some_iff] at h
    exact ⟨of_decide_eq_true h.2, side?_lt h.1⟩
  · -- The gap stands for as many zeros as are missing.
    next before after _ =>
    rcases Option.bind_eq_some_iff.1 h with ⟨first, hfirst, hmore⟩
    rcases Option.bind_eq_some_iff.1 hmore with ⟨last, hlast, hsome⟩
    split at hsome
    · exact nomatch hsome
    · next hroom =>
      obtain rfl := Option.some.inj hsome
      rw [Bool.or_eq_true, not_or, decide_eq_true_eq] at hroom
      constructor
      · rw [List.length_append, List.length_append, List.length_replicate]
        omega
      · intro p hp
        rcases List.mem_append.1 hp with hin | hin
        · rcases List.mem_append.1 hin with hin | hin
          · exact side?_lt hfirst p hin
          · rw [List.eq_of_mem_replicate hin]
            decide
        · exact side?_lt hlast p hin

/-- What is written for pieces, with colons between them. -/
def colons (pieces : List Nat) : List Char := joinWith ':' (pieces.map (Nat.toDigits 16))

theorem piece?_toDigits {n : Nat} (h : n < 16 ^ 4) : piece? (Nat.toDigits 16 n) = some n := by
  have hlength := (Nat.length_toDigits_le_iff (b := 16) (by decide) (by decide)).2 h
  rw [piece?, if_neg, number?_toDigits (by decide) (by decide)]
  rw [Bool.or_eq_true, decide_eq_true_eq, List.isEmpty_iff, not_or]
  exact ⟨Nat.toDigits_ne_nil, Nat.not_lt.2 hlength⟩

theorem not_mem_hex {mark : Char} (hmark : ∀ d : Fin 16, Nat.digitChar d ≠ mark)
    (pieces : List Nat) : ∀ text ∈ pieces.map (Nat.toDigits 16), mark ∉ text := by
  intro text htext
  rcases List.mem_map.1 htext with ⟨n, -, rfl⟩
  exact not_mem_toDigits (by decide) (by decide) hmark n

theorem pieces?_toDigits {pieces : List Nat} (h : ∀ p ∈ pieces, p < 16 ^ 4) :
    pieces? (pieces.map (Nat.toDigits 16)) = some pieces := by
  induction pieces with
  | nil => rfl
  | cons p rest ih =>
      have hp := piece?_toDigits (h p List.mem_cons_self)
      have hrest := ih fun q hq => h q (List.mem_cons_of_mem p hq)
      cases rest with
      | nil =>
          -- The last text is a piece and not bytes, for there is no dot in it.
          have hdot : (Nat.toDigits 16 p).contains '.' = false := by
            rw [← Bool.not_eq_true, List.contains_iff_mem]
            exact not_mem_toDigits (by decide) (by decide) (by decide) p
          rw [List.map_cons, List.map_nil, pieces?, hdot, if_neg Bool.false_ne_true, hp,
            Option.map_some]
      | cons q more =>
          rw [List.map_cons] at hrest
          rw [List.map_cons, List.map_cons, pieces?, hp, hrest]
          · rfl
          · exact List.cons_ne_nil _ _

theorem colons_cons (p q : Nat) (more : List Nat) :
    colons (p :: q :: more) = Nat.toDigits 16 p ++ ':' :: colons (q :: more) := rfl

theorem colons_ne_nil (p : Nat) (rest : List Nat) : colons (p :: rest) ≠ [] := by
  cases rest with
  | nil => exact Nat.toDigits_ne_nil
  | cons q more =>
      rw [colons_cons]
      exact List.append_ne_nil_of_left_ne_nil Nat.toDigits_ne_nil _

/-- Neither end of what is written is a colon. -/
theorem colons_ends (pieces : List Nat) :
    (colons pieces).head? ≠ some ':' ∧ (colons pieces).getLast? ≠ some ':' := by
  have hdigits (n : Nat) : ':' ∉ Nat.toDigits 16 n :=
    not_mem_toDigits (by decide) (by decide) (by decide) n
  induction pieces with
  | nil => decide
  | cons p rest ih =>
      cases rest with
      | nil =>
          exact ⟨fun h => hdigits p (List.mem_of_mem_head? h),
            fun h => hdigits p (List.mem_of_getLast? h)⟩
      | cons q more =>
          -- The first piece has the front, and the last one the end.
          rw [colons_cons, List.head?_append_of_ne_nil _ Nat.toDigits_ne_nil,
            List.getLast?_append_of_ne_nil _ (List.cons_ne_nil _ _)]
          refine ⟨fun h => hdigits p (List.mem_of_mem_head? h), ?_⟩
          rcases List.exists_cons_of_ne_nil (colons_ne_nil q more) with ⟨c, text, htext⟩
          rw [htext, List.getLast?_cons_cons, ← htext]
          exact ih.2

/-- Pieces are read again, whether they are all that there are or not. -/
theorem side?_colons {pieces : List Nat} (h : ∀ p ∈ pieces, p < 16 ^ 4) :
    side? (colons pieces) = some pieces := by
  cases pieces with
  | nil => rfl
  | cons p rest =>
      have hne : ¬ (colons (p :: rest)).isEmpty = true := by
        rw [List.isEmpty_iff]
        exact colons_ne_nil p rest
      have hsplit : splitOn ':' (colons (p :: rest)) = (p :: rest).map (Nat.toDigits 16) :=
        splitOn_joinWith (List.cons_ne_nil _ _) (not_mem_hex (by decide) _)
      rw [side?, if_neg hne, hsplit, pieces?_toDigits h]

theorem splitGap_cons {c : Char} {rest : List Char} (h : c = ':' → rest.head? ≠ some ':') :
    splitGap (c :: rest) =
      (splitGap rest).map fun (before, after) => (c :: before, after) := by
  rw [splitGap]
  intro more hc hrest
  exact h hc (by rw [hrest]; rfl)

/-- A double colon is found behind a text without one that does not end in a colon. -/
theorem splitGap_append {front : List Char} (h : splitGap front = none)
    (hlast : front.getLast? ≠ some ':') (rest : List Char) :
    splitGap (front ++ ':' :: ':' :: rest) = some (front, rest) := by
  induction front with
  | nil => rfl
  | cons c front ih =>
      -- A colon is not followed by another one here, or there would be a gap before.
      have hnext : c = ':' → front.head? ≠ some ':' := by
        rintro rfl hhead
        rcases List.head?_eq_some_iff.1 hhead with ⟨more, rfl⟩
        exact nomatch h
      rw [splitGap_cons hnext, Option.map_eq_none_iff] at h
      cases front with
      | nil =>
          -- The front has come to its end, which is no colon.
          have hc : c ≠ ':' := fun hc => hlast (by rw [hc]; rfl)
          rw [List.singleton_append, splitGap_cons fun h => absurd h hc]
          rfl
      | cons d front =>
          rw [List.getLast?_cons_cons] at hlast
          have hmore : c = ':' → (d :: front ++ ':' :: ':' :: rest).head? ≠ some ':' := hnext
          rw [List.cons_append, splitGap_cons hmore, ih h hlast, Option.map_some]

theorem splitGap_plain {piece rest : List Char} (h : ':' ∉ piece) (hrest : splitGap rest = none) :
    splitGap (piece ++ rest) = none := by
  induction piece with
  | nil => exact hrest
  | cons c piece ih =>
      rw [List.mem_cons, not_or] at h
      rw [List.cons_append, splitGap_cons fun hc => absurd hc.symm h.1, ih h.2, Option.map_none]

/-- There is no double colon among the colons between pieces. -/
theorem splitGap_colons (pieces : List Nat) : splitGap (colons pieces) = none := by
  have hdigits (n : Nat) : ':' ∉ Nat.toDigits 16 n :=
    not_mem_toDigits (by decide) (by decide) (by decide) n
  induction pieces with
  | nil => rfl
  | cons p rest ih =>
      cases rest with
      | nil =>
          have hall : splitGap (Nat.toDigits 16 p ++ []) = none := splitGap_plain (hdigits p) rfl
          rwa [List.append_nil] at hall
      | cons q more =>
          rw [colons_cons]
          -- Behind every colon there is a digit.
          refine splitGap_plain (hdigits p) ?_
          rw [splitGap_cons fun _ => (colons_ends (q :: more)).1, ih, Option.map_none]

theorem length_zeroRuns (pieces : List Nat) : (zeroRuns pieces).length = pieces.length := by
  induction pieces with
  | nil => rfl
  | cons p rest ih => rw [zeroRuns, List.length_cons, List.length_cons, ih]

theorem foldl_max_mem (runs : List Nat) (n : Nat) :
    runs.foldl max n = n ∨ runs.foldl max n ∈ runs := by
  induction runs generalizing n with
  | nil => exact .inl rfl
  | cons run rest ih =>
      rw [List.foldl_cons, List.mem_cons]
      rcases ih (max n run) with h | h
      · rw [h]
        omega
      · exact .inr (.inr h)

theorem sixText_eq (pieces : List Nat) : sixText pieces =
    if (zeroRuns pieces).foldl max 0 < 2 then colons pieces
    else colons (pieces.take ((zeroRuns pieces).findIdx (· = (zeroRuns pieces).foldl max 0))) ++
      [':', ':'] ++ colons (pieces.drop
        ((zeroRuns pieces).findIdx (· = (zeroRuns pieces).foldl max 0) +
          (zeroRuns pieces).foldl max 0)) := rfl

/-- The pieces are read again, with or without a gap. -/
theorem exists_six? {pieces : List Nat} (hlength : pieces.length = 8)
    (h : ∀ p ∈ pieces, p < 16 ^ 4) : ∃ again, six? (sixText pieces) = some again := by
  have hside {side : List Nat} (hsub : ∀ p ∈ side, p ∈ pieces) :
      side? (colons side) = some side := side?_colons fun p hp => h p (hsub p hp)
  rw [sixText_eq]
  split
  · -- No run of zeros is left out, and there are no other double colons.
    rw [six?, splitGap_colons, hside fun p hp => hp, Option.filter_some,
      if_pos (decide_eq_true hlength)]
    exact ⟨pieces, rfl⟩
  · next hgap =>
    generalize hlongest : (zeroRuns pieces).foldl max 0 = longest at hgap
    -- The longest run starts at one of the pieces, so at most seven are in front of it.
    have hfirst : (zeroRuns pieces).findIdx (· = longest) < 8 := by
      have hmem : longest ∈ zeroRuns pieces := by
        rcases foldl_max_mem (zeroRuns pieces) 0 with hzero | hmem
        · omega
        · exact hlongest ▸ hmem
      have hfound := List.findIdx_lt_length_of_exists (p := fun run => decide (run = longest))
        ⟨longest, hmem, decide_eq_true rfl⟩
      rwa [length_zeroRuns, hlength] at hfound
    generalize (zeroRuns pieces).findIdx (· = longest) = first at hfirst
    -- Bytes with dots are not allowed in front of the gap, and there is no dot at all.
    have hdot : (colons (pieces.take first)).contains '.' = false := by
      rw [← Bool.not_eq_true, List.contains_iff_mem]
      intro hin
      rcases mem_joinWith hin with heq | ⟨text, htext, hc⟩
      · exact absurd heq (by decide)
      · exact not_mem_hex (by decide) _ text htext hc
    have hroom : ¬ 7 < (pieces.take first).length + (pieces.drop (first + longest)).length := by
      rw [List.length_take, List.length_drop]
      omega
    rw [List.append_assoc, List.cons_append, List.singleton_append, six?,
      splitGap_append (splitGap_colons _) (colons_ends _).2]
    simp only [hside fun p hp => List.mem_of_mem_take hp, hside fun p hp => List.mem_of_mem_drop hp,
      Option.bind_eq_bind, Option.bind_some, hdot, Bool.false_or, decide_eq_true_eq]
    rw [if_neg hroom]
    exact ⟨_, rfl⟩

end Six

theorem toLower_toLower (c : Char) : c.toLower.toLower = c.toLower := by
  by_cases h : c.val ≥ 'A'.val ∧ c.val ≤ 'Z'.val
  · -- The capitals are tried.
    have hall : ∀ k : Fin 128, (Char.ofNat k).toLower.toLower = (Char.ofNat k).toLower := by
      decide
    have hlt : c.toNat < 128 := Nat.lt_of_le_of_lt (UInt32.le_iff_toNat_le.1 h.2) (by decide)
    have hc := hall ⟨c.toNat, hlt⟩
    rwa [Char.ofNat_toNat] at hc
  · have hkeep : c.toLower = c := dif_neg h
    rw [hkeep, hkeep]

/-- What is read of a name that is decoded and in lower case. -/
theorem known?_eq {text : List Char} (hpercent : '%' ∉ text)
    (hlower : text.map Char.toLower = text) : known? text =
      if text.isEmpty || text.any isForbidden then none
      else if endsInNumber text then (four? text).map four
      else some (.name text) := by
  have hbytes : (37 : UInt8) ∉ utf8 (String.ofList text) := by
    rw [utf8_ofList]
    exact fun h => hpercent ((mem_charBytes_ascii (d := '%') (by decide)).1 h)
  rw [known?, percentDecode_eq_self hbytes, ofUtf8Lossy_utf8, String.toList_ofList]
  simp only [hlower]

/-- What is read under a known scheme. -/
theorem isCanonical_of_ofText? {text : List Char} {host : Host}
    (h : ofText? true text = some host) : host.IsCanonical := by
  -- A name is kept in lower case without forbidden characters, unless its last label is a number:
  -- then it is an address of four bytes.
  have hknown (hk : known? text = some host) : host.IsCanonical := by
    unfold known? at hk
    simp only at hk
    split at hk
    · exact nomatch hk
    · next hname =>
      rw [Bool.or_eq_true, not_or, List.isEmpty_iff, List.any_eq_true, not_exists] at hname
      split at hk
      · rcases Option.map_eq_some_iff.1 hk with ⟨value, hvalue, rfl⟩
        exact four?_lt hvalue
      · next hnumber =>
        obtain rfl := Option.some.inj hk
        refine ⟨hname.1, ?_, ?_, Bool.eq_false_iff.2 hnumber⟩
        · intro c hc
          exact Bool.eq_false_iff.2 fun hforbidden => hname.2 c ⟨hc, hforbidden⟩
        · rw [List.map_map]
          exact List.map_congr_left fun c _ => toLower_toLower c
  -- Brackets hold the pieces of an address, and there is nothing else in brackets.
  unfold ofText? at h
  split at h
  · split at h
    · rcases Option.map_eq_some_iff.1 h with ⟨pieces, hpieces, rfl⟩
      exact six?_eq_some hpieces
    · exact nomatch h
  · exact hknown h

theorem not_mem_of_isForbidden {text : List Char} (h : ∀ c ∈ text, isForbidden c = false)
    {mark : Char} (hmark : isForbidden mark = true) : mark ∉ text := by
  intro hin
  rw [h mark hin] at hmark
  exact nomatch hmark

/-- What holds for a mark and for digits holds for numbers with the mark between them. -/
theorem mem_numbers {p : Char → Prop} {base : Nat} {mark : Char} (hbase : 1 < base)
    (hmark : p mark) (hdigit : ∀ d, d < base → p (Nat.digitChar d)) (numbers : List Nat) :
    ∀ c ∈ joinWith mark (numbers.map (Nat.toDigits base)), p c := by
  intro c hc
  rcases mem_joinWith hc with rfl | ⟨piece, hpiece, hin⟩
  · exact hmark
  · rcases List.mem_map.1 hpiece with ⟨n, -, rfl⟩
    exact mem_toDigits hbase hdigit c hin

theorem mem_fourText {p : Char → Prop} (hdot : p '.') (hdigit : ∀ d : Fin 10, p (Nat.digitChar d))
    (value : Nat) : ∀ c ∈ fourText value, p c :=
  mem_numbers (by decide) hdot (fun d hd => hdigit ⟨d, hd⟩) _

theorem mem_sixText {p : Char → Prop} (hcolon : p ':') (hdigit : ∀ d : Fin 16, p (Nat.digitChar d))
    (pieces : List Nat) : ∀ c ∈ sixText pieces, p c := by
  have hcolons (side : List Nat) : ∀ c ∈ colons side, p c :=
    mem_numbers (by decide) hcolon (fun d hd => hdigit ⟨d, hd⟩) side
  intro c hc
  rw [sixText_eq] at hc
  split at hc
  · exact hcolons _ c hc
  · -- The gap is one more pair of colons.
    rcases List.mem_append.1 hc with hin | hin
    · rcases List.mem_append.1 hin with hin | hin
      · exact hcolons _ c hin
      · obtain rfl : c = ':' := by simpa using hin
        exact hcolon
    · exact hcolons _ c hin

theorem fourText_ne_nil (value : Nat) : fourText value ≠ [] := by
  -- There are dots between the bytes.
  intro hnil
  rcases List.append_eq_nil_iff.1 hnil with ⟨-, hdots⟩
  exact nomatch hdots

theorem ofText?_plain {text : List Char} (h : '[' ∉ text) : ofText? true text = known? text := by
  unfold ofText?
  split
  · exact absurd List.mem_cons_self h
  · rfl

/-- The written form of a host is read again. -/
theorem IsCanonical.exists_ofText? {host : Host} (h : host.IsCanonical) :
    ∃ again, ofText? true host.text = some again := by
  cases host with
  | name text =>
      -- Nothing in a canonical name is coded, in capitals or forbidden, so it is read as it stands.
      rcases h with ⟨hne, hplain, hlower, hnumber⟩
      have hwhole : ¬ (text.isEmpty || text.any isForbidden) = true := by
        rw [Bool.or_eq_true, not_or, List.isEmpty_iff, List.any_eq_true]
        exact ⟨hne, fun ⟨c, hc, hforbidden⟩ => not_mem_of_isForbidden hplain hforbidden hc⟩
      refine ⟨name text, ?_⟩
      rw [Host.text, ofText?_plain (not_mem_of_isForbidden hplain (by decide)),
        known?_eq (not_mem_of_isForbidden hplain (by decide)) hlower, if_neg hwhole, hnumber]
      rfl
  | four value =>
      -- Nor is anything in digits with dots between them. As a number or as a name, it is read
      -- again.
      have hplain : ∀ c ∈ fourText value, isForbidden c = false :=
        mem_fourText (by decide) (by decide) value
      have hlower : (fourText value).map Char.toLower = fourText value := by
        refine (List.map_congr_left ?_).trans (List.map_id _)
        exact mem_fourText (p := fun c => c.toLower = id c) (by decide) (by decide) value
      have hwhole : ¬ ((fourText value).isEmpty || (fourText value).any isForbidden) = true := by
        rw [Bool.or_eq_true, not_or, List.isEmpty_iff, List.any_eq_true]
        exact ⟨fourText_ne_nil value,
          fun ⟨c, hc, hforbidden⟩ => not_mem_of_isForbidden hplain hforbidden hc⟩
      rcases exists_four? h with ⟨n, hn⟩
      rw [Host.text, ofText?_plain (not_mem_of_isForbidden hplain (by decide)),
        known?_eq (not_mem_of_isForbidden hplain (by decide)) hlower, if_neg hwhole, hn]
      split
      · exact ⟨four n, rfl⟩
      · exact ⟨name (fourText value), rfl⟩
  | six pieces =>
      rcases exists_six? h.1 h.2 with ⟨again, hagain⟩
      refine ⟨six again, ?_⟩
      rw [Host.text, ofText?, if_pos List.getLast?_concat, List.dropLast_concat, hagain]
      rfl

end Gatehouse.Url.Host
