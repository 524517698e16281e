import Gatehouse.Proofs.Path
import Gatehouse.Route
import Mathlib.Data.List.Forall2

/-!
# Spellings of paths

One path can be sent in many ways: any character of a segment may be percent-coded, in upper or in
lower case, or stand for itself. A raw path spells a path when both have the same segments, each of
the one percent-decoding to that of the other. Decoding finds the path that is spelled and refuses
nothing but steps to this or to the enclosing level, and segments that do not decode to a text or
that fall apart when they are decoded. So what a request is taken to be for does not depend on the
spelling of its path.

## Main definitions

* `Path.Spells`: A raw path that spells a path.
* `Path.IsStep`: The segments that lead to this or to the enclosing level.
* `Route.classify`: What a raw path and a method are taken for.

## Theorems

* `Path.decodeSegment_iff_spells`: Which segments are decoded, and to what they spell.
* `Path.decode_eq_ok_iff`: Which paths are decoded, and to what.
* `Path.Spells.of_codesFor`: Coded segments spell a path.
* `Path.decoded_as_spelled`: All of these at once.
-/

namespace Gatehouse

section Pairs

variable {α β : Type} {R : α → β → Prop} {xs : List α} {ys : List β}

theorem forall₂_and_right {p : β → Prop} : List.Forall₂ (fun a b => R a b ∧ p b) xs ys ↔
    List.Forall₂ R xs ys ∧ ∀ b ∈ ys, p b := by
  constructor
  · intro h
    induction h with
    | nil => exact ⟨.nil, fun _ hb => nomatch hb⟩
    | cons hab _ ih => exact ⟨.cons hab.1 ih.1, List.forall_mem_cons.2 ⟨hab.2, ih.2⟩⟩
  · rintro ⟨h, hp⟩
    induction h with
    | nil => exact .nil
    | cons hab _ ih =>
        rw [List.forall_mem_cons] at hp
        exact .cons ⟨hab, hp.1⟩ (ih hp.2)

theorem exists_of_forall₂ (h : List.Forall₂ R xs ys) {a : α} (ha : a ∈ xs) : ∃ b, R a b := by
  induction h with
  | nil => exact nomatch ha
  | cons hab _ ih =>
      rcases List.mem_cons.1 ha with rfl | hrest
      · exact ⟨_, hab⟩
      · exact ih hrest

theorem exists_forall₂ (h : ∀ a ∈ xs, ∃ b, R a b) : ∃ ys, List.Forall₂ R xs ys := by
  induction xs with
  | nil => exact ⟨[], .nil⟩
  | cons a rest ih =>
      rw [List.forall_mem_cons] at h
      rcases h.1 with ⟨b, hb⟩
      rcases ih h.2 with ⟨others, hothers⟩
      exact ⟨b :: others, .cons hb hothers⟩

end Pairs

/-- Steps succeed for all items in turn with what they give for each of them. -/
theorem Error.mapM_eq_ok_iff {ε α β : Type} {f : α → Except ε β} {items : List α}
    {results : List β} : items.mapM f = .ok results ↔
      List.Forall₂ (fun item result => f item = .ok result) items results := by
  induction items generalizing results with
  | nil =>
      rw [List.forall₂_nil_left_iff, List.mapM_nil]
      constructor
      · intro h
        exact (Except.ok.inj h).symm
      · rintro rfl
        rfl
  | cons item rest ih =>
      rw [List.forall₂_cons_left_iff, List.mapM_cons, bind_eq_ok_iff]
      constructor
      · rintro ⟨first, hfirst, hmore⟩
        rcases bind_eq_ok_iff.1 hmore with ⟨others, hothers, hall⟩
        exact ⟨first, others, hfirst, ih.1 hothers, (Except.ok.inj hall).symm⟩
      · rintro ⟨first, others, hfirst, hothers, rfl⟩
        exact ⟨first, hfirst, bind_eq_ok_iff.2 ⟨others, ih.2 hothers, rfl⟩⟩

namespace Path

open Text

/-- Whether a segment leads to this or to the enclosing level. -/
def IsStep (segment : String) : Prop := segment = "." ∨ segment = ".."

/-- A raw path spells a path when it percent-decodes to it segment by segment. -/
def Spells (raw path : String) : Prop :=
  List.Forall₂ (fun coded segment => percentDecode (utf8 coded) = utf8 segment)
    (segments raw) (segments path)

/-- The segments of a path are not divided. -/
theorem slash_notMem_of_mem {path segment : String} (h : segment ∈ segments path) :
    '/' ∉ segment.toList := by
  rcases List.mem_map.1 h with ⟨piece, hpiece, rfl⟩
  rw [String.toList_ofList]
  intro hslash
  exact (mem_splitOn hpiece hslash).2 rfl

/-- A segment is decoded to what it spells, if that is not divided and no step. -/
theorem decodeSegment_iff_spells {raw coded segment : String} :
    decodeSegment raw coded = .ok segment ↔
      percentDecode (utf8 coded) = utf8 segment ∧ '/' ∉ segment.toList ∧ ¬ IsStep segment := by
  rw [decodeSegment_eq_ok_iff, ofUtf8?_eq_some_iff, isPlain_iff, IsStep, not_or]

/-- A path is decoded to the path whose segments its segments are decoded to. -/
theorem decode_eq_ok_iff_decodeSegments {raw path : String} :
    decode raw = .ok path ↔ decodeSegments raw = .ok (segments path) := by
  refine ⟨decodeSegments_of_decode, ?_⟩
  intro h
  rw [decode, h]
  exact congrArg Except.ok (join_segments path)

/-- A path is decoded to the path that it spells, if there are no steps in that. -/
theorem decode_eq_ok_iff {raw path : String} :
    decode raw = .ok path ↔ Spells raw path ∧ ∀ s ∈ segments path, ¬ IsStep s := by
  rw [decode_eq_ok_iff_decodeSegments, decodeSegments, Error.mapM_eq_ok_iff]
  simp only [decodeSegment_iff_spells]
  rw [forall₂_and_right, Spells]
  refine and_congr_right fun _ => forall₂_congr fun s hs => ?_
  exact and_iff_right (slash_notMem_of_mem hs)

/-- A path is decoded if each of its segments is decoded to a text that keeps its place. -/
theorem exists_decode_iff {raw : String} : (∃ path, decode raw = .ok path) ↔
    ∀ coded ∈ segments raw, ∃ s, percentDecode (utf8 coded) = utf8 s ∧
      '/' ∉ s.toList ∧ ¬ IsStep s := by
  constructor
  · rintro ⟨path, h⟩ coded hcoded
    have hall := Error.mapM_eq_ok_iff.1 (decode_eq_ok_iff_decodeSegments.1 h)
    rcases exists_of_forall₂ hall hcoded with ⟨s, hs⟩
    exact ⟨s, decodeSegment_iff_spells.1 hs⟩
  · intro h
    -- The segments are chosen one by one, and then joined.
    have hall : ∀ coded ∈ segments raw, ∃ s, decodeSegment raw coded = .ok s := by
      intro coded hcoded
      rcases h coded hcoded with ⟨s, hs⟩
      exact ⟨s, decodeSegment_iff_spells.2 hs⟩
    rcases exists_forall₂ hall with ⟨decoded, hdecoded⟩
    refine ⟨join decoded, ?_⟩
    rw [decode, decodeSegments, Error.mapM_eq_ok_iff.2 hdecoded]
    rfl

/-- A raw path spells one path at most. -/
theorem Spells.unique {raw path other : String} (h : Spells raw path) (hother : Spells raw other) :
    path = other := by
  have honce : Relator.RightUnique
      fun coded segment => percentDecode (utf8 coded) = utf8 segment := by
    intro coded s t hs ht
    exact utf8_injective (hs.symm.trans ht)
  rw [← join_segments path, honce.forall₂ h hother, join_segments]

/-- What spells a text without slashes has none either. -/
theorem slash_notMem_of_codesFor {coded plain : String} (h : CodesFor (utf8 coded) (utf8 plain))
    (hplain : '/' ∉ plain.toList) : '/' ∉ coded.toList := by
  have hbyte {s : String} : 47 ∈ utf8 s ↔ '/' ∈ s.toList := by
    rw [utf8_eq_charBytes]
    exact mem_charBytes_ascii (d := '/') (by decide)
  intro hcoded
  -- A slash is neither a percent sign nor a digit.
  exact hplain (hbyte.1 (h.mem_of_isNeutral ⟨by decide, rfl⟩ (hbyte.2 hcoded)))

/-- Coded segments spell the path of what they code for. -/
theorem Spells.of_codesFor {coded plain : List String}
    (h : List.Forall₂ (fun c s => CodesFor (utf8 c) (utf8 s)) coded plain)
    (hplain : ∀ s ∈ plain, '/' ∉ s.toList) : Spells (join coded) (join plain) := by
  have hcoded : ∀ c ∈ coded, '/' ∉ c.toList := by
    intro c hc
    have hpairs := forall₂_and_right.2 ⟨h, hplain⟩
    rcases exists_of_forall₂ hpairs hc with ⟨s, hcodes, hs⟩
    exact slash_notMem_of_codesFor hcodes hs
  have hdecodes := h.imp fun c s hcodes => hcodes.percentDecode_eq
  cases hdecodes with
  | nil =>
      -- No segments make the same path as one empty segment.
      exact .cons rfl .nil
  | cons hfirst hrest =>
      rw [Spells, segments_join (List.cons_ne_nil _ _) hcoded,
        segments_join (List.cons_ne_nil _ _) hplain]
      exact .cons hfirst hrest

/-- Raw paths that spell one path are decoded alike. -/
theorem Spells.decode_iff {raw other path : String} (h : Spells raw path)
    (hother : Spells other path) (decoded : String) :
    decode raw = .ok decoded ↔ decode other = .ok decoded := by
  rw [decode_eq_ok_iff, decode_eq_ok_iff]
  refine and_congr_left fun _ => ?_
  constructor
  · intro hspells
    rw [← h.unique hspells]
    exact hother
  · intro hspells
    rw [← hother.unique hspells]
    exact h

end Path

/-- What a raw path and a method are taken for, if the path is decoded: whether credentials are
asked for, which operation is named, and what is checked of an artifact. -/
def Route.classify (raw : String) (method : Http.Method) :
    Option (Bool × Option Found × Option Check) :=
  match Path.decode raw with
  | .ok path => some (Path.isOpen path, find? path method, artifactCheck? path method)
  | .error _ => none

namespace Path

open Text

/-- A path is decoded exactly if each of its segments decodes to a text that has no slash and is no
step, and then it is decoded to the path with these segments. So segments that keep their place are
found again however they are coded, and one path is taken for the same in all its spellings. -/
theorem decoded_as_spelled :
    (∀ raw, (∃ path, decode raw = .ok path) ↔ ∀ coded ∈ segments raw, ∃ s,
      percentDecode (utf8 coded) = utf8 s ∧ '/' ∉ s.toList ∧ ¬ IsStep s) ∧
    (∀ raw path, decode raw = .ok path → Spells raw path) ∧
    (∀ coded plain : List String,
      List.Forall₂ (fun c s => CodesFor (utf8 c) (utf8 s)) coded plain →
      (∀ s ∈ plain, '/' ∉ s.toList ∧ ¬ IsStep s) → decode (join coded) = .ok (join plain)) ∧
    ∀ raw other path, Spells raw path → Spells other path →
      (∀ decoded, decode raw = .ok decoded ↔ decode other = .ok decoded) ∧
      ∀ method, Route.classify raw method = Route.classify other method := by
  refine ⟨fun raw => exists_decode_iff, fun raw path h => (decode_eq_ok_iff.1 h).1, ?_, ?_⟩
  · intro coded plain hcodes hplain
    rw [decode_eq_ok_iff]
    refine ⟨.of_codesFor hcodes fun s hs => (hplain s hs).1, ?_⟩
    intro s hs
    cases plain with
    | nil =>
        -- The one segment of the empty path is empty.
        obtain rfl : s = "" := List.mem_singleton.1 hs
        rintro (h | h)
        · exact nomatch h
        · exact nomatch h
    | cons first rest =>
        rw [segments_join (List.cons_ne_nil first rest) fun s hs => (hplain s hs).1] at hs
        exact (hplain s hs).2
  · intro raw other path hraw hother
    have hdecoded := hraw.decode_iff hother
    refine ⟨hdecoded, ?_⟩
    intro method
    rw [Route.classify, Route.classify]
    cases hfirst : decode raw with
    | ok decoded => rw [(hdecoded decoded).1 hfirst]
    | error _ =>
        cases hsecond : decode other with
        | ok decoded =>
            rw [(hdecoded decoded).2 hsecond] at hfirst
            exact nomatch hfirst
        | error _ => rfl

/-- A letter of two bytes is coded with digits of either case and a percent sign by itself; two dots
are a step however they are coded. -/
theorem decoded_as_spelled_mixed :
    decode "/%c3%A9/b%25" = .ok "/é/b%" ∧ ∀ path, decode "/a/%2e%2E" ≠ .ok path := by
  constructor
  · have hcoded : "/%c3%A9/b%25" = join ["", "%c3%A9", "b%25"] := by decide +kernel
    have hplain : "/é/b%" = join ["", "é", "b%"] := by decide +kernel
    have hc3 : hexValue? 99 = some 12 ∧ hexValue? 51 = some 3 := ⟨rfl, rfl⟩
    have ha9 : hexValue? 65 = some 10 ∧ hexValue? 57 = some 9 := ⟨rfl, rfl⟩
    have h25 : hexValue? 50 = some 2 ∧ hexValue? 53 = some 5 := ⟨rfl, rfl⟩
    have hletter : CodesFor (utf8 "%c3%A9") (utf8 "é") :=
      .escape hc3.1 hc3.2 (.escape ha9.1 ha9.2 .nil)
    have hpercent : CodesFor (utf8 "b%25") (utf8 "b%") :=
      .plain (b := 98) (by decide) (.escape h25.1 h25.2 .nil)
    rw [hcoded, hplain]
    refine decoded_as_spelled.2.2.1 _ _ (.cons .nil (.cons hletter (.cons hpercent .nil))) ?_
    unfold IsStep
    decide
  · intro path h
    have hsegment : "%2e%2E" ∈ segments "/a/%2e%2E" := by decide +kernel
    rcases (decoded_as_spelled.1 _).1 ⟨path, h⟩ _ hsegment with ⟨s, hs, -, hstep⟩
    -- The two bytes that are coded are dots, so no segment but the step back is spelled.
    have hdots : percentDecode (utf8 "%2e%2E") = utf8 ".." := by decide +kernel
    exact hstep (.inr (utf8_injective (hs.symm.trans hdots)))

end Path

end Gatehouse
