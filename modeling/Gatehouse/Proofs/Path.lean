import Gatehouse.Path
import Gatehouse.Proofs.Text.Percent
import Gatehouse.Proofs.Text.Split
import Mathlib.Algebra.GroupWithZero.Nat

/-!
# Request paths decoded

A path that is decoded is decoded segment by segment, and no segment of it decodes to a dot or
to two. Decoding makes no backslashes but those that are spelled in a segment, so they can be
counted in the segments, in the whole of them, and in what they decode to.

## Main definitions

* `Path.decodeSegment?`: What one segment decodes to.
* `Path.backslashes`: How many backslashes a segment decodes to.

## Theorems

* `Path.decodeSegment_eq_ok_iff`: Which segments are decoded, and to what.
* `Path.decode_eq_ok`: What decoding does with the segments.
* `Path.decodeSegments_of_decode`: The segments of a decoded path.
* `Path.decode_eq_self`: Paths that decode to themselves.
* `Path.count_decoded`: The backslashes in what segments decode to.
* `Path.backslashes_splitOn`: The backslashes in the segments and in the whole of them.
-/

namespace Gatehouse.Path

open Text

/-- What one segment decodes to, if to any text. -/
def decodeSegment? (segment : List Char) : Option String :=
  ofUtf8? (percentDecode (utf8 (String.ofList segment)))

/-- How many backslashes a segment decodes to. -/
def backslashes (segment : List Char) : Nat := (percentDecode (charBytes segment)).count 92

/-- A segment is decoded to the text that its bytes spell, if that keeps its place. -/
theorem decodeSegment_eq_ok_iff {raw coded decoded : String} :
    decodeSegment raw coded = .ok decoded ↔
      ofUtf8? (percentDecode (utf8 coded)) = some decoded ∧ isPlain decoded = true := by
  rw [decodeSegment]
  cases ofUtf8? (percentDecode (utf8 coded)) with
  | none => simp only [reduceCtorEq, false_and]
  | some found =>
      -- Bytes that spell a text may still spell one that would not stay in its place.
      by_cases hplain : isPlain found = true
      · simp only [hplain, if_true, Except.ok.injEq, Option.some.injEq]
        constructor
        · rintro rfl
          exact ⟨rfl, hplain⟩
        · exact And.left
      · simp only [hplain, Bool.false_eq_true, if_false, reduceCtorEq, Option.some.injEq, false_iff]
        rintro ⟨rfl, hfound⟩
        exact hplain hfound

theorem mapM_decodeSegment_eq_ok {raw : String} {pieces : List (List Char)}
    {decoded : List String}
    (h : (pieces.map String.ofList).mapM (decodeSegment raw) = .ok decoded) :
    pieces.mapM decodeSegment? = some decoded ∧ ∀ s ∈ decoded, isPlain s = true := by
  induction pieces generalizing decoded with
  | nil =>
      obtain rfl := Except.ok.inj h
      exact ⟨rfl, fun _ hs => nomatch hs⟩
  | cons piece rest ih =>
      rw [List.map_cons, List.mapM_cons] at h
      obtain ⟨first, hfirst, hmore⟩ := Error.bind_eq_ok_iff.1 h
      obtain ⟨others, hothers, hok⟩ := Error.bind_eq_ok_iff.1 hmore
      obtain rfl := Except.ok.inj hok
      -- One segment, and then the others.
      obtain ⟨hpiece, hplain⟩ := decodeSegment_eq_ok_iff.1 hfirst
      obtain ⟨hrest, hall⟩ := ih hothers
      have hpiece' : decodeSegment? piece = some first := hpiece
      refine ⟨by rw [List.mapM_cons, hpiece', hrest]; rfl, fun s hs => ?_⟩
      rcases List.mem_cons.1 hs with rfl | hs
      · exact hplain
      · exact hall s hs

/-- A path is decoded when each of its segments decodes to a text that keeps its place. -/
theorem decode_eq_ok {raw d : String} (h : decode raw = .ok d) : ∃ decoded,
    (splitOn '/' raw.toList).mapM decodeSegment? = some decoded ∧
      (∀ s ∈ decoded, isPlain s = true) ∧ d = join decoded := by
  unfold decode at h
  cases hs : decodeSegments raw with
  | error e =>
      rw [hs] at h
      exact nomatch h
  | ok decoded =>
      rw [hs] at h
      obtain ⟨hmap, hplain⟩ := mapM_decodeSegment_eq_ok hs
      exact ⟨decoded, hmap, hplain, (Except.ok.inj h).symm⟩

theorem isPlain_iff {segment : String} :
    isPlain segment = true ↔ '/' ∉ segment.toList ∧ segment ≠ "." ∧ segment ≠ ".." := by
  simp only [isPlain, Bool.and_eq_true, Bool.not_eq_true', List.contains_eq_mem,
    decide_eq_false_iff_not, decide_eq_true_eq, ne_eq, and_assoc]

/-- Segments without slashes are found again in the path that they make. -/
theorem segments_join {parts : List String} (hne : parts ≠ [])
    (h : ∀ s ∈ parts, '/' ∉ s.toList) : segments (join parts) = parts := by
  have hpieces : splitOn '/' (joinWith '/' (parts.map String.toList)) =
      parts.map String.toList := by
    refine splitOn_joinWith ?_ ?_
    · intro hnil
      exact hne (List.map_eq_nil_iff.1 hnil)
    · intro piece hpiece
      rcases List.mem_map.1 hpiece with ⟨s, hs, rfl⟩
      exact h s hs
  rw [segments, join, String.toList_ofList, hpieces, List.map_map]
  refine List.map_id'' ?_ parts
  intro s
  exact String.ofList_toList

/-- A path consists of the segments that it was decoded to. -/
theorem decodeSegments_of_decode {raw d : String} (h : decode raw = .ok d) :
    decodeSegments raw = .ok (segments d) := by
  unfold decode at h
  cases hs : decodeSegments raw with
  | error e =>
      rw [hs] at h
      exact nomatch h
  | ok decoded =>
      rw [hs] at h
      rcases mapM_decodeSegment_eq_ok hs with ⟨hmap, hplain⟩
      -- A path has one segment at least, and each is decoded to one.
      have hne : decoded ≠ [] := by
        rintro rfl
        rcases List.exists_cons_of_ne_nil (splitOn_ne_nil '/' raw.toList) with
          ⟨first, rest, hsplit⟩
        rw [hsplit, List.mapM_cons] at hmap
        rcases Option.bind_eq_some_iff.1 hmap with ⟨s, -, hmore⟩
        rcases Option.bind_eq_some_iff.1 hmore with ⟨others, -, hsome⟩
        exact nomatch hsome
      rw [← Except.ok.inj h, segments_join hne fun s hs => (isPlain_iff.1 (hplain s hs)).1]

/-- A path without escapes and dot segments decodes to itself. -/
theorem decode_eq_self {path : String} (hescape : '%' ∉ path.toList)
    (hdots : ∀ piece ∈ splitOn '/' path.toList, piece ≠ ['.'] ∧ piece ≠ ['.', '.']) :
    decode path = .ok path := by
  have hsegment : ∀ s ∈ segments path, decodeSegment path s = .ok s := by
    intro s hs
    rcases List.mem_map.1 hs with ⟨piece, hpiece, rfl⟩
    -- Without a percent sign the bytes of a segment stand for themselves.
    have hpercent : (37 : UInt8) ∉ utf8 (String.ofList piece) := by
      rw [utf8_ofList]
      intro hmem
      have hin : '%' ∈ piece := (mem_charBytes_ascii (d := '%') (by decide)).1 hmem
      exact hescape (mem_splitOn hpiece hin).1
    -- A segment has no slash, and it is none of the two steps.
    have hplain : isPlain (String.ofList piece) = true := by
      have hslash : '/' ∉ piece := fun hin => (mem_splitOn hpiece hin).2 rfl
      have hdot : String.ofList piece ≠ "." := by
        intro heq
        exact (hdots piece hpiece).1 (String.ofList_injective heq)
      have htwo : String.ofList piece ≠ ".." := by
        intro heq
        exact (hdots piece hpiece).2 (String.ofList_injective heq)
      simp [isPlain, hslash, hdot, htwo]
    refine decodeSegment_eq_ok_iff.2 ⟨?_, hplain⟩
    rw [percentDecode_eq_self hpercent, ofUtf8?_utf8]
  have hall : decodeSegments path = .ok (segments path) := by
    rw [decodeSegments, Error.mapM_eq_map (g := id) hsegment, List.map_id]
  rw [decode, hall]
  exact congrArg Except.ok (join_segments path)

theorem exists_decoded {pieces : List (List Char)} {decoded : List String}
    (h : pieces.mapM decodeSegment? = some decoded) {piece : List Char} (hpiece : piece ∈ pieces) :
    ∃ s ∈ decoded, decodeSegment? piece = some s := by
  induction pieces generalizing decoded with
  | nil => exact nomatch hpiece
  | cons first rest ih =>
      rw [List.mapM_cons] at h
      obtain ⟨s, hs, hmore⟩ := Option.bind_eq_some_iff.1 h
      obtain ⟨others, hothers, hsome⟩ := Option.bind_eq_some_iff.1 hmore
      obtain rfl := Option.some.inj hsome
      rcases List.mem_cons.1 hpiece with rfl | hin
      · exact ⟨s, List.mem_cons_self, hs⟩
      · obtain ⟨t, ht, hdecodes⟩ := ih hothers hin
        exact ⟨t, List.mem_cons_of_mem _ ht, hdecodes⟩

theorem count_decodeSegment? {segment : List Char} {s : String}
    (h : decodeSegment? segment = some s) : (utf8 s).count 92 = backslashes segment := by
  rw [decodeSegment?, utf8_ofList] at h
  rw [← ofUtf8?_eq_some_iff.1 h, backslashes]

theorem count_join (decoded : List String) : (utf8 (join decoded)).count 92 =
    (decoded.map fun s => (utf8 s).count 92).sum := by
  rw [join, utf8_ofList]
  induction decoded with
  | nil => rfl
  | cons s rest ih =>
      cases rest with
      | nil =>
          rw [List.map_singleton, List.map_singleton, List.sum_singleton, joinWith,
            utf8_eq_charBytes]
      | cons t rest =>
          -- Only slashes are put between the texts.
          have hslash : (String.utf8EncodeChar '/').count 92 = 0 := by decide
          have hjoin : joinWith '/' ((s :: t :: rest).map String.toList) =
              s.toList ++ '/' :: joinWith '/' ((t :: rest).map String.toList) := rfl
          rw [hjoin, charBytes_append, charBytes_cons, List.count_append, List.count_append,
            hslash, Nat.zero_add, ih, ← utf8_eq_charBytes, List.map_cons (a := s), List.sum_cons]

/-- The backslashes in what segments decode to are those that the segments decode to. -/
theorem count_decoded {pieces : List (List Char)} {decoded : List String}
    (h : pieces.mapM decodeSegment? = some decoded) :
    (utf8 (join decoded)).count 92 = (pieces.map backslashes).sum := by
  rw [count_join]
  -- Segment by segment; the slashes between them are no backslashes.
  induction pieces generalizing decoded with
  | nil =>
      obtain rfl := Option.some.inj h
      rfl
  | cons piece rest ih =>
      rw [List.mapM_cons] at h
      obtain ⟨first, hfirst, hmore⟩ := Option.bind_eq_some_iff.1 h
      obtain ⟨others, hothers, hsome⟩ := Option.bind_eq_some_iff.1 hmore
      obtain rfl := Option.some.inj hsome
      rw [List.map_cons, List.map_cons, List.sum_cons, List.sum_cons,
        count_decodeSegment? hfirst, ih hothers]

/-- A slash takes no part in an escape, so none of the backslashes is lost or made where texts
are put together. -/
theorem backslashes_joinWith (pieces : List (List Char)) :
    backslashes (joinWith '/' pieces) = (pieces.map backslashes).sum := by
  -- A slash is neither a percent sign nor a digit.
  have hslash : isNeutral 47 := ⟨by decide, rfl⟩
  have hbyte : String.utf8EncodeChar '/' = [47] := by decide
  induction pieces with
  | nil => rfl
  | cons piece rest ih =>
      cases rest with
      | nil => rw [List.map_singleton, List.sum_singleton, joinWith]
      | cons next rest =>
          have hjoin : joinWith '/' (piece :: next :: rest) =
              piece ++ '/' :: joinWith '/' (next :: rest) := rfl
          have hcount : (47 :: percentDecode (charBytes (joinWith '/' (next :: rest)))).count 92 =
              backslashes (joinWith '/' (next :: rest)) := List.count_cons_of_ne (by decide)
          rw [hjoin, backslashes, charBytes_append, charBytes_cons, hbyte, List.singleton_append,
            percentDecode_split hslash, List.count_append, hcount, ih, List.map_cons (a := piece),
            List.sum_cons]
          rfl

theorem backslashes_splitOn (text : List Char) :
    ((splitOn '/' text).map backslashes).sum = backslashes text := by
  rw [← backslashes_joinWith, joinWith_splitOn]

end Gatehouse.Path
