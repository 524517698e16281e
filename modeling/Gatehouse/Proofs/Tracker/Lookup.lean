import Gatehouse.Proofs.Tracker.Reach
import Gatehouse.Proofs.Url.Behind
import Gatehouse.Proofs.Url.Reread
import Gatehouse.Tracker.Rest
import Mathlib.Algebra.Order.BigOperators.Group.List
import Mathlib.Algebra.Order.Group.Nat

/-!
# What lookups reach

A logged model is looked up under its id, which is put into a path as it is. Every such path has
an address, but the id need not be the last segment of it: a mark ends it, a backslash divides it,
blanks at its end and line breaks in it are dropped, and what looks like an escape is decoded. Each
of these takes bytes away from what the segments decode to, and following dots adds none. So by
counting bytes, the last segment decodes to the id only where nothing of the kind is in it.

## Main definitions

* `Url.Path.decodedLength`: How many bytes a segment decodes to.
* `Rest.shelf`: What stands in front of the id.
* `Rest.IsSegment`: An id that is one segment as it stands.
* `Site.Names`: The address of a lookup names an id.

## Theorems

* `Url.Path.decodedLength_splitOn`: The pieces of a text have fewer bytes the more they are.
* `Site.exists_address`: Every path has an address.
* `Site.exists_below`: The address of segments that stay as they are.
* `Site.exists_forwarded`: The address of a path without a backslash.
* `Site.names_of_isSegment`, `Site.isSegment_of_names`: When an id is named.
* `Site.exists_lookup`: What is asked when a logged model is looked up.
-/

namespace Gatehouse

open Text

namespace Url.Path

/-- The pieces of a text have its bytes, without those of the slashes. -/
theorem length_splitOn (text : List Char) :
    ((splitOn '/' text).map fun piece => (charBytes piece).length).sum +
      (splitOn '/' text).length = (charBytes text).length + 1 := by
  induction text with
  | nil => rfl
  | cons c rest ih =>
      by_cases hc : c = '/'
      · rw [hc, splitOn_cons_self, charBytes_cons_ascii (by decide)]
        simp only [List.map_cons, List.sum_cons, List.length_cons]
        have hnil : (charBytes []).length = 0 := rfl
        omega
      · rcases splitOn_cons_of_ne hc rest with ⟨piece, pieces, hsplit, hcons⟩
        rw [hsplit] at ih
        rw [hcons, charBytes_cons, List.length_append]
        simp only [List.map_cons, List.sum_cons, List.length_cons, charBytes_cons,
          List.length_append] at ih ⊢
        omega

/-- How many bytes a segment decodes to. -/
def decodedLength (segment : List Char) : Nat := (percentDecode (charBytes segment)).length

theorem decodedLength_le (segment : List Char) :
    decodedLength segment ≤ (charBytes segment).length := length_percentDecode_le _

theorem decodedLength_spell (segment : List Char) :
    decodedLength (spell needsCodingInPath segment) = decodedLength segment := by
  rw [decodedLength, percentDecode_spell, decodedLength]

/-- The pieces of a text decode to no more bytes than it has, and to fewer the more they are. -/
theorem decodedLength_splitOn (text : List Char) :
    ((splitOn '/' (text.map slashed)).map decodedLength).sum +
      (splitOn '/' (text.map slashed)).length ≤ (charBytes text).length + 1 := by
  have hlength := length_splitOn (text.map slashed)
  have hsum : ((splitOn '/' (text.map slashed)).map decodedLength).sum ≤
      ((splitOn '/' (text.map slashed)).map fun piece => (charBytes piece).length).sum :=
    List.sum_le_sum fun piece _ => decodedLength_le piece
  rw [charBytes_slashed, List.length_map] at hlength
  omega

/-- Segments of plain characters stay as they are, unless they are dots. -/
theorem isSettled_of_checked {list : List (List Char)}
    (h : ∀ s ∈ list, isHere s = false ∧ isBack s = false ∧
      (s.all fun c => !needsCodingInPath c && c != '/' && c != '\\') = true) :
    ∀ s ∈ list, IsSettled s := by
  intro s hs
  rcases h s hs with ⟨hhere, hback, hplain⟩
  refine ⟨hhere, hback, ?_⟩
  intro c hc
  have hchar := List.all_eq_true.1 hplain c hc
  simpa [and_assoc] using hchar

/-- Nothing is left out of a segment that stays as it is. -/
theorem IsSettled.tidy_eq {segment : List Char} (h : IsSettled segment) :
    Url.tidy segment = segment := by
  have hvisible (c : Char) (hc : c ∈ segment) : 0x20 < c.toNat :=
    (visible_of_needsCodingInPath (h.plain c hc).1).1
  refine Url.tidy_eq_self_iff.2 ⟨?_, fun c hc => hvisible c (List.mem_of_getLast? hc)⟩
  intro c hc
  have hc := hvisible c hc
  refine ⟨?_, ?_, ?_⟩
  all_goals
    rintro rfl
    exact absurd hc (by decide)

theorem IsSettled.marks {segment : List Char} (h : IsSettled segment) :
    ∀ c ∈ segment, c ≠ '?' ∧ c ≠ '#' :=
  fun c hc => (visible_of_needsCodingInPath (h.plain c hc).1).2

end Url.Path

namespace Site

variable {text : String} {site : Site}

/-- Every path has an address, whatever is behind segments that stay as they are. -/
theorem exists_address (hsite : ofText text = .ok site) (hweb : Url.IsWeb site.base.scheme)
    (hquery : site.base.query = none) (hfragment : site.base.fragment = none)
    {list : List (List Char)} (hlist : ∀ s ∈ list, Url.Path.IsSettled s) {path : String}
    {tail : List Char} (hpath : path.toList = Url.Path.text list ++ '/' :: tail) :
    ∃ url, site.address path = .ok url ∧
      url.path = .segments (Url.Path.resolve (site.root ++ list ++
        splitOn '/' ((Url.beforeMarks (Url.tidy tail)).map Url.Path.slashed))) ∧
      ((∀ c ∈ Url.tidy tail, c ≠ '?' ∧ c ≠ '#') → url.query = none ∧ url.fragment = none) := by
  rcases trimmed_eq hsite hweb hquery hfragment with
    ⟨hroot, place, hplace, hauthority, htrimmed⟩
  have hsettled : ∀ s ∈ site.root ++ list, Url.Path.IsSettled s := by
    intro s hs
    rcases List.mem_append.1 hs with hin | hin
    · exact hroot s hin
    · exact hlist s hin
  -- With or without segments in front, there is a slash behind the place.
  obtain ⟨front, hfront⟩ : ∃ front, Url.Path.text (site.root ++ list) ++ ['/'] = '/' :: front := by
    cases site.root ++ list with
    | nil => exact ⟨[], rfl⟩
    | cons s rest => exact ⟨s ++ Url.Path.text rest ++ ['/'], by rw [Url.Path.text_cons]; rfl⟩
  have hvisible : ∀ c ∈ '/' :: front, 0x20 < c.toNat ∧ c ≠ '?' ∧ c ≠ '#' := by
    rw [← hfront]
    intro c hc
    rcases List.mem_append.1 hc with hin | hin
    · rcases Url.Path.mem_text hin with rfl | ⟨s, hs, hin⟩
      · decide
      · exact Url.visible_of_needsCodingInPath ((hsettled s hs).plain c hin).1
    · rw [List.mem_singleton.1 hin]
      decide
  have htidy : '/' :: Url.tidy (front ++ tail) = '/' :: front ++ Url.tidy tail := by
    rw [Url.tidy_append (fun c hc => (hvisible c (List.mem_cons_of_mem _ hc)).1), List.cons_append]
  have hsegments : Url.Path.segments true (Url.beforeMarks ('/' :: Url.tidy (front ++ tail))) =
      site.root ++ list ++
        splitOn '/' ((Url.beforeMarks (Url.tidy tail)).map Url.Path.slashed) := by
    rw [htidy, Url.beforeMarks_append (fun c hc => (hvisible c hc).2), ← hfront,
      List.append_assoc _ ['/'], List.singleton_append, Url.Path.segments_text hsettled]
  have hjoin : Url.Path.text site.root ++ (Url.Path.text list ++ '/' :: tail) =
      '/' :: (front ++ tail) := by
    rw [← List.append_assoc, ← Url.Path.text_append, ← List.cons_append, ← hfront,
      List.append_assoc, List.singleton_append]
  have htext : site.trimmed ++ path = String.ofList (site.base.scheme ++ ':' :: '/' :: '/' ::
      (place ++ '/' :: (front ++ tail))) := by
    rw [← String.toList_inj, String.toList_append, htrimmed, hpath, String.toList_ofList, ← hjoin]
    simp only [List.append_assoc, List.cons_append]
  have hbase : Url.ofText? text = some site.base := by
    unfold ofText at hsite
    split at hsite
    · next base hbase => exact Except.ok.inj hsite ▸ hbase
    · exact nomatch hsite
  rcases Url.exists_withAuthority? hbase hweb hauthority with ⟨again, hagain⟩
  have hread := Url.ofText?_behind hweb hplace (front ++ tail)
  rw [hagain, Option.map_some, hsegments, ← htext] at hread
  refine ⟨_, address_eq_ok hread, rfl, ?_⟩
  intro hmarks
  have hplain : ∀ c ∈ '/' :: Url.tidy (front ++ tail), c ≠ '?' ∧ c ≠ '#' := by
    rw [htidy]
    intro c hc
    rcases List.mem_append.1 hc with hin | hin
    · exact (hvisible c hin).2
    · exact hmarks c hin
  rw [Url.splitTail_plain hplain]
  exact ⟨rfl, rfl⟩

/-- Segments that stay as they are stand in the address of their path. -/
theorem exists_below (hsite : ofText text = .ok site) (hweb : Url.IsWeb site.base.scheme)
    (hquery : site.base.query = none) (hfragment : site.base.fragment = none)
    {list : List (List Char)} {last : List Char}
    (hsettled : ∀ s ∈ list ++ [last], Url.Path.IsSettled s) {path : String}
    (hpath : path.toList = Url.Path.text (list ++ [last])) :
    ∃ url, site.address path = .ok url ∧ site.below? url = some (list ++ [last]) ∧
      url.query = none := by
  have hroot := (trimmed_eq hsite hweb hquery hfragment).1
  have hlast := hsettled last (List.mem_append_right _ List.mem_cons_self)
  have htext : path.toList = Url.Path.text list ++ '/' :: last := by
    rw [hpath, Url.Path.text_append, Url.Path.text_cons]
    simp only [Url.Path.text, List.flatMap_nil, List.append_nil]
  rcases exists_address hsite hweb hquery hfragment
    (fun s hs => hsettled s (List.mem_append_left _ hs)) htext with
    ⟨url, haddress, hsegments, hmarks⟩
  -- The last segment is one piece, and none of them is a dot.
  have hslash : '/' ∉ last := fun h => (hlast.plain '/' h).2.1 rfl
  have hdots : ∀ s ∈ site.root ++ (list ++ [last]),
      Url.Path.isBack s = false ∧ Url.Path.isHere s = false := by
    intro s hs
    rcases List.mem_append.1 hs with hin | hin
    · exact ⟨(hroot s hin).back, (hroot s hin).here⟩
    · exact ⟨(hsettled s hin).back, (hsettled s hin).here⟩
  rw [hlast.tidy_eq, Url.beforeMarks_eq_self_iff.2 hlast.marks,
    Url.Path.map_slashed fun c hc => (hlast.plain c hc).2.2, splitOn_of_not_mem hslash,
    List.append_assoc, Url.Path.resolve_plain hdots, List.map_append,
    Url.Path.map_spell_settled hroot, Url.Path.map_spell_settled hsettled] at hsegments
  refine ⟨url, haddress, (below?_eq_some hsegments).2 rfl, (hmarks ?_).1⟩
  rw [hlast.tidy_eq]
  exact hlast.marks

/-- Without a backslash a path has an address whose segments decode to those of the path. -/
theorem exists_forwarded {uri : String} {target : Http.Target} {whole : List String}
    (hsite : ofText text = .ok site) (hweb : Url.IsWeb site.base.scheme)
    (hquery : site.base.query = none) (hfragment : site.base.fragment = none)
    (htarget : Http.Target.ofText? uri = some target) (hstart : uri.toList.head? = some '/')
    (hback : '\\' ∉ target.rawPath.toList)
    (hwhole : (splitOn '/' target.path.toList).mapM Path.decodeSegment? = some whole)
    (hplain : ∀ s ∈ whole, Path.isPlain s = true) :
    ∃ url segments decoded, site.address target.forwarded = .ok url ∧
      site.below? url = some segments ∧ segments.mapM Path.decodeSegment? = some decoded ∧
        "" :: decoded = whole := by
  rcases Http.Target.ofText?_path htarget hstart with ⟨⟨tail, htail⟩, -⟩
  have hnone : ∀ s ∈ ([] : List (List Char)), Url.Path.IsSettled s := fun _ hs => nomatch hs
  rcases exists_address hsite hweb hquery hfragment hnone (Http.Target.forwarded_eq htail) with
    ⟨url, haddress, -⟩
  rcases path_of_address hsite hweb hquery hfragment htarget hstart haddress with
    ⟨same, hsame, hpath⟩
  obtain rfl : tail = same := (List.cons.inj (htail.symm.trans hsame)).2
  have hslashed : tail.map Url.Path.slashed = tail := by
    refine Url.Path.map_slashed ?_
    rintro c hc rfl
    exact hback (htail ▸ List.mem_cons_of_mem _ hc)
  rw [hslashed] at hpath
  -- The slash in front is no segment of the address.
  rw [Http.Target.path_eq htail, htail, splitOn_cons_self, List.mapM_cons] at hwhole
  rcases Option.bind_eq_some_iff.1 hwhole with ⟨first, hfirst, hmore⟩
  rcases Option.bind_eq_some_iff.1 hmore with ⟨decoded, hdecoded, hsome⟩
  obtain rfl : "" = first := Option.some.inj hfirst
  obtain rfl := Option.some.inj hsome
  rcases below?_of_plain (trimmed_eq hsite hweb hquery hfragment).1 hpath hdecoded
    (fun s hs => hplain s (List.mem_cons_of_mem _ hs)) with ⟨segments, hbelow, hdecodes⟩
  exact ⟨url, segments, decoded, haddress, hbelow, hdecodes, rfl⟩

end Site

namespace Rest

variable {σ : Type}

/-- What stands in front of the id in the path of a lookup. -/
def shelf : List (List Char) := ["api", "2.0", "mlflow", "logged-models"].map String.toList

/-- What is made of the document that a lookup is answered with. -/
def ownerIn (model : String) (body : Json) : Action σ String :=
  match idAt? ["model", "info", "experiment_id"] body with
  | some id => pure id
  | none => throw (.fault (.modelOwner model))

/-- An id that is one segment of an address as it stands: no mark ends the path or the segment
before it is over, nothing of it is left out, and nothing in it is an escape. -/
structure IsSegment (id : String) : Prop where
  marks : ∀ c ∈ id.toList, c ≠ '?' ∧ c ≠ '#' ∧ c ≠ '\\'
  breaks : ∀ c ∈ id.toList, c ≠ '\t' ∧ c ≠ '\n' ∧ c ≠ '\r'
  ending : ∀ c, id.toList.getLast? = some c → 0x20 < c.toNat
  escapes : percentDecode (utf8 id) = utf8 id

theorem isSettled_shelf : ∀ s ∈ shelf, Url.Path.IsSettled s :=
  Url.Path.isSettled_of_checked (by decide)

theorem toList_path (id : String) : (root ++ "/logged-models/" ++ id).toList =
    Url.Path.text shelf ++ '/' :: id.toList := by
  rw [String.toList_append, String.toList_append]
  rfl

end Rest

namespace Rest.IsSegment

variable {id : String}

theorem of_eq (hkept : Url.beforeMarks (Url.tidy id.toList) = id.toList)
    (hback : '\\' ∉ id.toList) (hescapes : percentDecode (utf8 id) = utf8 id) :
    IsSegment id := by
  -- What is left in the end was left at each step before.
  have htidy : Url.tidy id.toList = id.toList := by
    refine (Url.tidy_sublist _).eq_of_length_le ?_
    rw [← congrArg List.length hkept]
    exact (Url.beforeMarks_sublist _).length_le
  have hmarks : Url.beforeMarks id.toList = id.toList := by rw [htidy] at hkept; exact hkept
  have hbefore := Url.beforeMarks_eq_self_iff.1 hmarks
  have hended := Url.tidy_eq_self_iff.1 htidy
  refine ⟨?_, hended.1, hended.2, hescapes⟩
  intro c hc
  refine ⟨(hbefore c hc).1, (hbefore c hc).2, ?_⟩
  rintro rfl
  exact hback hc

theorem tidy_eq (h : IsSegment id) : Url.tidy id.toList = id.toList :=
  Url.tidy_eq_self_iff.2 ⟨h.breaks, h.ending⟩

theorem beforeMarks_eq (h : IsSegment id) : Url.beforeMarks (Url.tidy id.toList) = id.toList := by
  rw [h.tidy_eq, Url.beforeMarks_eq_self_iff]
  exact fun c hc => ⟨(h.marks c hc).1, (h.marks c hc).2.1⟩

theorem slashed_eq (h : IsSegment id) : id.toList.map Url.Path.slashed = id.toList :=
  Url.Path.map_slashed fun c hc => (h.marks c hc).2.2

theorem decode (h : IsSegment id) : Path.decodeSegment? id.toList = some id := by
  rw [Path.decodeSegment?, String.ofList_toList, h.escapes, ofUtf8?_utf8]

end Rest.IsSegment

namespace Site

/-- An address names a logged model as lookups do: behind the segments of the base address stand
those of the shelf and one more, which decodes to the id. -/
structure Names (site : Site) (url : Url) (id : String) : Prop where
  query : url.query = none
  fragment : url.fragment = none
  segment : ∃ segment, site.below? url = some (Rest.shelf ++ [segment]) ∧
    Path.decodeSegment? segment = some id

variable {site : Site} {url : Url} {id : String}

/-- An id that is one segment as it stands is the one that is named. -/
theorem names_of_isSegment (hsettled : ∀ s ∈ site.root, Url.Path.IsSettled s)
    (hplain : Path.isPlain id = true)
    (hpath : url.path = .segments (Url.Path.resolve (site.root ++ Rest.shelf ++
      splitOn '/' ((Url.beforeMarks (Url.tidy id.toList)).map Url.Path.slashed))))
    (hmarks : (∀ c ∈ Url.tidy id.toList, c ≠ '?' ∧ c ≠ '#') →
      url.query = none ∧ url.fragment = none)
    (h : Rest.IsSegment id) : site.Names url id := by
  have hnone : url.query = none ∧ url.fragment = none := by
    refine hmarks ?_
    rw [h.tidy_eq]
    exact fun c hc => ⟨(h.marks c hc).1, (h.marks c hc).2.1⟩
  rw [h.beforeMarks_eq, h.slashed_eq, splitOn_of_not_mem (Path.isPlain_iff.1 hplain).1] at hpath
  -- None of the segments is a step, so the path keeps them all.
  have hdots : ∀ s ∈ site.root ++ Rest.shelf ++ [id.toList],
      Url.Path.isBack s = false ∧ Url.Path.isHere s = false := by
    intro s hs
    rcases List.mem_append.1 hs with hin | hin
    · rcases List.mem_append.1 hin with hin | hin
      · exact ⟨(hsettled s hin).back, (hsettled s hin).here⟩
      · exact ⟨(Rest.isSettled_shelf s hin).back, (Rest.isSettled_shelf s hin).here⟩
    · rw [List.mem_singleton.1 hin]
      exact no_dots h.decode hplain
  rw [Url.Path.resolve_plain hdots, List.map_append, List.map_append,
    Url.Path.map_spell_settled hsettled, Url.Path.map_spell_settled Rest.isSettled_shelf,
    List.append_assoc] at hpath
  refine ⟨hnone.1, hnone.2, _, (below?_eq_some hpath).2 rfl, ?_⟩
  rw [decodeSegment?_spell, h.decode]

/-- Whatever is left out of an id or taken for something else is missing from the address. -/
theorem isSegment_of_names
    (hpath : url.path = .segments (Url.Path.resolve (site.root ++ Rest.shelf ++
      splitOn '/' ((Url.beforeMarks (Url.tidy id.toList)).map Url.Path.slashed))))
    (h : site.Names url id) : Rest.IsSegment id := by
  rcases h.segment with ⟨segment, hbelow, hdecode⟩
  generalize hkept : Url.beforeMarks (Url.tidy id.toList) = kept at hpath
  have hsub : kept.Sublist id.toList :=
    hkept ▸ (Url.beforeMarks_sublist _).trans (Url.tidy_sublist _)
  have hlength : Url.Path.decodedLength segment = (charBytes id.toList).length := by
    rw [Path.decodeSegment?, utf8_ofList] at hdecode
    rw [Url.Path.decodedLength, Text.ofUtf8?_eq_some_iff.1 hdecode, utf8_eq_charBytes]
  -- The segment decodes to no more than the pieces do, and these to no more than was kept.
  have hempty : Url.Path.decodedLength [] = 0 := rfl
  have hsum := Url.Path.sum_resolveFrom_le hempty Url.Path.decodedLength_spell []
    (site.root ++ Rest.shelf ++ splitOn '/' (kept.map Url.Path.slashed))
  rw [← Url.Path.resolve, (below?_eq_some hpath).1 hbelow] at hsum
  simp only [List.map_append, List.sum_append, List.map_cons, List.map_nil, List.sum_cons,
    List.sum_nil] at hsum
  have hpieces := Url.Path.decodedLength_splitOn kept
  have hkeptLength := length_charBytes_le hsub
  have hcount := List.length_pos_iff.2 (splitOn_ne_nil '/' (kept.map Url.Path.slashed))
  have hwhole : kept = id.toList := eq_of_length_charBytes hsub (by omega)
  -- All of the id is there, so there was one piece, and it is the id with nothing decoded in it.
  obtain ⟨piece, hpiece⟩ : ∃ piece, splitOn '/' (kept.map Url.Path.slashed) = [piece] :=
    List.length_eq_one_iff.1 (by omega)
  have hjoined := joinWith_splitOn '/' (kept.map Url.Path.slashed)
  rw [hpiece, joinWith, hwhole] at hjoined
  have hback : '\\' ∉ id.toList := by
    intro hin
    have hslash : '/' ∈ piece := hjoined ▸ List.mem_map_of_mem (f := Url.Path.slashed) hin
    exact (mem_splitOn (hpiece ▸ List.mem_singleton_self piece) hslash).2 rfl
  have hsame : piece = id.toList := by
    rw [hjoined, Url.Path.map_slashed]
    rintro c hc rfl
    exact hback hc
  rw [hpiece, hsame] at hsum hpieces
  refine Rest.IsSegment.of_eq (hkept.trans hwhole) hback ?_
  rw [utf8_eq_charBytes]
  refine percentDecode_eq_self_of_length ?_
  rw [Url.Path.decodedLength] at hlength
  simp only [List.map_cons, List.map_nil, List.sum_cons, List.sum_nil, Nat.add_zero,
    Url.Path.decodedLength] at hsum
  omega

/-- What is asked when a logged model is looked up, and when the address that is asked names it. -/
theorem exists_lookup (σ : Type) {text : String} (hsite : ofText text = .ok site)
    (hweb : Url.IsWeb site.base.scheme) (hquery : site.base.query = none)
    (hfragment : site.base.fragment = none) (hplain : Path.isPlain id = true) :
    ∃ url, (∀ transport : Transport σ, Rest.loggedModelExperiment site transport id = (do
        let body ← transport.ask ⟨.get, url, [], []⟩
        Rest.ownerIn id body)) ∧ (site.Names url id ↔ Rest.IsSegment id) := by
  rcases trimmed_eq hsite hweb hquery hfragment with ⟨hsettled, -⟩
  rcases exists_address hsite hweb hquery hfragment Rest.isSettled_shelf (Rest.toList_path id) with
    ⟨url, haddress, hpath, hmarks⟩
  refine ⟨url.addQuery [], ?_, isSegment_of_names hpath, ?_⟩
  · intro transport
    rw [Rest.loggedModelExperiment, Rest.get, haddress]
    rfl
  · -- An empty query that is added leaves the address without one.
    refine names_of_isSegment hsettled hplain hpath ?_
    intro hnone
    rcases hmarks hnone with ⟨hqueryNone, hfragmentNone⟩
    refine ⟨?_, hfragmentNone⟩
    rw [Url.addQuery]
    simp only [List.isEmpty_nil, if_true, hqueryNone, Option.filter_none]

end Site

end Gatehouse
