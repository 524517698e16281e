import Gatehouse.Proofs.Path
import Gatehouse.Proofs.Url.Address
import Gatehouse.Tracker.Forward

/-!
# What forwarded paths reach

A path is decoded once to decide who may use it and read once more as a part of the address
that it is forwarded to. The first reading takes a backslash for a character like any other,
the second one takes it for a slash, and follows the dots that come to light. Everything else
is read alike, so the two readings agree exactly on the paths without a backslash.

## Main definitions

* `Site.root`, `Site.below?`: The segments of a site, and those of an address behind them.
* `Site.reached?`: The path that an address reaches at a site.

## Theorems

* `Site.path_of_address`: The segments of the address that a path is forwarded to.
* `Site.below?_of_plain`, `Site.reached?_of_plain`: Without a backslash the segments decode as
  before.
* `Site.count_reached`: A backslash that was decoded is not reached.
-/

namespace Gatehouse

open Text

namespace Http.Target

theorem queryOf?_eq_some {text : List Char} {query : String} (h : queryOf? text = some query) :
    ∀ c ∈ query.toList, isQueryChar c = true := by
  simp only [queryOf?] at h
  split at h
  · next hall =>
    obtain rfl := Option.some.inj h
    rw [String.toList_ofList]
    exact List.all_eq_true.1 hall
  · exact nomatch h

theorem pathAndQuery?_eq_some {text : List Char} {path : String} {query : Option String}
    (h : pathAndQuery? text = some (path, query)) :
    path.toList = text.takeWhile (fun c => c != '?' && c != '#') ∧
      (∀ c ∈ path.toList, isPathChar c = true) ∧
        ∀ q, query = some q → ∀ c ∈ q.toList, isQueryChar c = true := by
  simp only [pathAndQuery?] at h
  split at h
  · next hall =>
    have hpath : ∀ c ∈ (String.ofList (text.takeWhile fun c => c != '?' && c != '#')).toList,
        isPathChar c = true := by
      rw [String.toList_ofList]
      exact List.all_eq_true.1 hall
    split at h
    · obtain ⟨q, hq, heq⟩ := Option.map_eq_some_iff.1 h
      obtain ⟨rfl, rfl⟩ := Prod.mk.inj heq
      refine ⟨String.toList_ofList, hpath, fun other hother => ?_⟩
      obtain rfl := Option.some.inj hother
      exact queryOf?_eq_some hq
    · obtain ⟨rfl, rfl⟩ := Prod.mk.inj (Option.some.inj h)
      exact ⟨String.toList_ofList, hpath, fun _ hq => nomatch hq⟩
  · exact nomatch h

/-- A target that starts with a slash is a path from there on, and a query. -/
theorem ofText?_path {uri : String} {target : Target} (h : ofText? uri = some target)
    (hstart : uri.toList.head? = some '/') :
    (∃ tail, target.rawPath.toList = '/' :: tail) ∧
      (∀ c ∈ target.rawPath.toList, isPathChar c = true) ∧
        ∀ q, target.query = some q → ∀ c ∈ q.toList, isQueryChar c = true := by
  obtain ⟨rest, huri⟩ := List.head?_eq_some_iff.1 hstart
  unfold ofText? at h
  simp only [huri] at h
  split at h
  · exact nomatch h
  · obtain ⟨⟨path, query⟩, hparts, rfl⟩ := Option.map_eq_some_iff.1 h
    obtain ⟨hpath, hchars, hquery⟩ := pathAndQuery?_eq_some hparts
    refine ⟨⟨rest.takeWhile fun c => c != '?' && c != '#', ?_⟩, hchars, hquery⟩
    rw [hpath, List.takeWhile_cons_of_pos (by decide)]

theorem path_eq {target : Target} {tail : List Char} (h : target.rawPath.toList = '/' :: tail) :
    target.path = target.rawPath := by
  have hne : target.rawPath.isEmpty = false := by
    rw [Bool.eq_false_iff, ne_eq, String.isEmpty_iff, ← String.toList_eq_nil_iff, h]
    exact List.cons_ne_nil _ _
  rw [path, hne]
  rfl

theorem forwarded_eq {target : Target} {tail : List Char}
    (h : target.rawPath.toList = '/' :: tail) : target.forwarded.toList =
      '/' :: tail ++ Url.marked '?' (target.query.map String.toList) := by
  have hquery : (queryText target.query).toList =
      Url.marked '?' (target.query.map String.toList) := by
    cases target.query with
    | none => rfl
    | some q =>
        rw [queryText, String.toList_append]
        rfl
  have hwhole : (target.rawPath ++ queryText target.query).toList =
      '/' :: tail ++ Url.marked '?' (target.query.map String.toList) := by
    rw [String.toList_append, h, hquery]
  -- There is a slash at least, so it is not taken for a missing path.
  have hne : ¬ (target.rawPath ++ queryText target.query).isEmpty = true := by
    rw [String.isEmpty_iff, ← String.toList_eq_nil_iff, hwhole]
    exact List.cons_ne_nil _ _
  rw [forwarded, if_neg hne, hwhole]

theorem isPathChar_iff {c : Char} (h : isPathChar c = true) :
    0x20 < c.toNat ∧ c ≠ '?' ∧ c ≠ '#' := by
  simp only [isPathChar, Bool.and_eq_true, decide_eq_true_eq, bne_iff_ne] at h
  exact ⟨h.1.1.1.1.1, h.1.2, h.1.1.1.1.2⟩

theorem isQueryChar_iff {c : Char} (h : isQueryChar c = true) : 0x20 < c.toNat ∧ c ≠ '#' := by
  simp only [isQueryChar, Bool.and_eq_true, decide_eq_true_eq, bne_iff_ne] at h
  exact ⟨h.1.1.1.1, h.1.1.2⟩

end Http.Target

namespace Site

/-- The segments of the base address, without the empty ones at its end. -/
def root (site : Site) : List (List Char) :=
  match site.base.path with
  | .segments list => Url.Path.trimmed list
  | .plain _ => []

/-- The segments of an address behind those of the base address. -/
def below? (site : Site) (url : Url) : Option (List (List Char)) :=
  match url.path with
  | .segments list =>
    if site.root.isPrefixOf list then some (list.drop site.root.length) else none
  | .plain _ => none

/-- The path that an address reaches below the base address, its segments decoded. -/
def reached? (site : Site) (url : Url) : Option String := do
  let segments ← site.below? url
  let decoded ← segments.mapM Path.decodeSegment?
  some (Path.join ("" :: decoded))

/-- The parts of a base address as it is written in front of a path. -/
theorem trimmed_eq {text : String} {site : Site} (hsite : ofText text = .ok site)
    (hweb : Url.IsWeb site.base.scheme) (hquery : site.base.query = none)
    (hfragment : site.base.fragment = none) :
    (∀ s ∈ site.root, Url.Path.IsSettled s) ∧
      ∃ place, Url.IsPlace place ∧ site.base.authorityText = '/' :: '/' :: place ∧
        site.trimmed.toList =
          site.base.scheme ++ ':' :: '/' :: '/' :: (place ++ Url.Path.text site.root) := by
  unfold ofText at hsite
  split at hsite
  · next base hbase =>
    obtain rfl := Except.ok.inj hsite
    obtain ⟨list, ⟨place, hauthority, hplace⟩, hpath, hsettled⟩ := Url.settled_of_ofText? hbase hweb
    have hroot : root ⟨base⟩ = Url.Path.trimmed list := by
      rw [root, hpath]
    refine ⟨fun s hs => hsettled s (Url.Path.trimmed_subset (hroot ▸ hs)), place, hplace,
      hauthority, ?_⟩
    -- The place ends in something else, so no more slashes are dropped than those of segments.
    obtain ⟨front, last, rfl⟩ : ∃ front last, place = front ++ [last] :=
      ⟨_, _, (List.dropLast_concat_getLast hplace.ne_nil).symm⟩
    have hlast := Url.isPlaceChar_iff.1 (hplace.chars last (by simp))
    have htext : base.text.toList = base.scheme ++ [':', '/', '/'] ++ front ++ [last] ++
        Url.Path.text list := by
      have hmarks : Url.marked '?' base.query ++ Url.marked '#' base.fragment = [] := by
        rw [hquery, hfragment]
        rfl
      rw [Url.text, String.toList_ofList, hauthority, Url.pathText, hpath, List.append_assoc _ _
        (Url.marked '#' base.fragment), hmarks]
      simp only [List.append_nil, List.append_assoc, List.cons_append, List.nil_append]
    have hslash (s : List Char) (hs : s ∈ list) : '/' ∉ s :=
      fun hc => ((hsettled s hs).plain '/' hc).2.1 rfl
    rw [trimmed, String.toList_ofList, htext, Url.Path.dropWhile_text hslash _ hlast.2.1, hroot]
    simp only [List.append_assoc, List.cons_append, List.nil_append]
  · exact nomatch hsite

/-- The segments of the address that a path is forwarded to. -/
theorem path_of_address {text uri : String} {site : Site} {target : Http.Target} {url : Url}
    (hsite : ofText text = .ok site) (hweb : Url.IsWeb site.base.scheme)
    (hquery : site.base.query = none) (hfragment : site.base.fragment = none)
    (htarget : Http.Target.ofText? uri = some target) (hstart : uri.toList.head? = some '/')
    (haddress : site.address target.forwarded = .ok url) :
    ∃ tail, target.rawPath.toList = '/' :: tail ∧
      url.path = .segments (Url.Path.resolve
        (site.root ++ splitOn '/' (tail.map Url.Path.slashed))) := by
  obtain ⟨⟨tail, htail⟩, hchars, hmarks⟩ := Http.Target.ofText?_path htarget hstart
  obtain ⟨hsettled, place, hplace, -, htrimmed⟩ := trimmed_eq hsite hweb hquery hfragment
  refine ⟨tail, htail, ?_⟩
  have hforwarded := Http.Target.forwarded_eq htail
  have htext : (site.trimmed ++ target.forwarded) = String.ofList (site.base.scheme ++ ':' ::
      '/' :: '/' :: (place ++ ((Url.Path.text site.root ++ '/' :: tail) ++
        Url.marked '?' (target.query.map String.toList)))) := by
    rw [← String.toList_inj, String.toList_append, htrimmed, hforwarded, String.toList_ofList]
    simp only [List.append_assoc, List.cons_append]
  -- With or without segments of the site, the path starts with a slash.
  obtain ⟨first, hfirst⟩ : ∃ first, Url.Path.text site.root ++ '/' :: tail = '/' :: first := by
    have hslash (s : List Char) (hs : s ∈ site.root) : '/' ∉ s :=
      fun hc => ((hsettled s hs).plain '/' hc).2.1 rfl
    obtain ⟨first, hfirst, -⟩ := Url.Path.splitOn_text hslash tail
    exact ⟨first, hfirst⟩
  unfold address at haddress
  split at haddress
  · next url' hurl =>
    obtain rfl := Except.ok.inj haddress
    rw [htext] at hurl
    rw [Url.path_of_ofText? hweb hplace hfirst ?_ ?_ hurl, Url.Path.segments_text hsettled]
    -- Neither the segments of the site nor the path hold a mark that would end them.
    · intro c hc
      rcases List.mem_append.1 hc with hin | hin
      · rcases Url.Path.mem_text hin with rfl | ⟨s, hs, hin⟩
        · decide
        · exact Url.visible_of_needsCodingInPath ((hsettled s hs).plain c hin).1
      · exact Http.Target.isPathChar_iff (hchars c (htail ▸ hin))
    · intro q hq c hc
      obtain ⟨query, hquery, rfl⟩ := Option.map_eq_some_iff.1 hq
      exact Http.Target.isQueryChar_iff (hmarks query hquery c hc)
  · exact nomatch haddress

/-- A segment that decodes to a text which keeps its place is no dot and no two dots. -/
theorem no_dots {segment : List Char} {decoded : String}
    (h : Path.decodeSegment? segment = some decoded) (hplain : Path.isPlain decoded = true) :
    Url.Path.isBack segment = false ∧ Url.Path.isHere segment = false := by
  rw [Path.decodeSegment?, utf8_ofList] at h
  -- A dot decodes to itself however it is spelled, and then it does not keep its place.
  refine ⟨Bool.eq_false_iff.2 fun hback => ?_, Bool.eq_false_iff.2 fun hhere => ?_⟩
  · rw [Url.Path.percentDecode_isBack hback] at h
    obtain rfl : ".." = decoded := Option.some.inj h
    exact absurd hplain (by decide)
  · rw [Url.Path.percentDecode_isHere hhere] at h
    obtain rfl : "." = decoded := Option.some.inj h
    exact absurd hplain (by decide)

theorem decodeSegment?_spell (segment : List Char) :
    Path.decodeSegment? (Url.spell Url.needsCodingInPath segment) =
      Path.decodeSegment? segment := by
  rw [Path.decodeSegment?, Path.decodeSegment?, utf8_ofList, utf8_ofList, Url.percentDecode_spell]

theorem below?_eq_some {site : Site} {url : Url} {list below : List (List Char)}
    (hpath : url.path = .segments list) :
    site.below? url = some below ↔ list = site.root ++ below := by
  simp only [below?, hpath]
  constructor
  · intro h
    split at h
    · next hroot =>
      obtain rfl := Option.some.inj h
      exact (List.prefix_iff_eq_append.1 (List.isPrefixOf_iff_prefix.1 hroot)).symm
    · exact nomatch h
  · rintro rfl
    rw [if_pos (List.isPrefixOf_iff_prefix.2 (List.prefix_append _ _)), List.drop_left]

/-- Without a backslash the segments stay behind those of the site, and decode as before. -/
theorem below?_of_plain {site : Site} {url : Url} {tail : List Char} {decoded : List String}
    (hsettled : ∀ s ∈ site.root, Url.Path.IsSettled s)
    (hpath : url.path = .segments (Url.Path.resolve (site.root ++ splitOn '/' tail)))
    (hdecoded : (splitOn '/' tail).mapM Path.decodeSegment? = some decoded)
    (hplain : ∀ s ∈ decoded, Path.isPlain s = true) :
    ∃ segments, site.below? url = some segments ∧
      segments.mapM Path.decodeSegment? = some decoded := by
  -- No segment is a dot, neither those of the site nor those that were decoded.
  have hdots : ∀ s ∈ site.root ++ splitOn '/' tail,
      Url.Path.isBack s = false ∧ Url.Path.isHere s = false := by
    intro s hs
    rcases List.mem_append.1 hs with hin | hin
    · exact ⟨(hsettled s hin).back, (hsettled s hin).here⟩
    · obtain ⟨t, ht, hdecodes⟩ := Path.exists_decoded hdecoded hin
      exact no_dots hdecodes (hplain t ht)
  rw [Url.Path.resolve_plain hdots, List.map_append, Url.Path.map_spell_settled hsettled] at hpath
  refine ⟨_, (below?_eq_some hpath).2 rfl, ?_⟩
  -- Spelling changes nothing about what the segments decode to.
  rw [List.mapM_map, ← hdecoded]
  congr 1
  funext segment
  exact decodeSegment?_spell segment

/-- Without a backslash what was decoded is reached. -/
theorem reached?_of_plain {site : Site} {url : Url} {tail : List Char} {decoded : List String}
    (hsettled : ∀ s ∈ site.root, Url.Path.IsSettled s)
    (hpath : url.path = .segments (Url.Path.resolve (site.root ++ splitOn '/' tail)))
    (hdecoded : (splitOn '/' tail).mapM Path.decodeSegment? = some decoded)
    (hplain : ∀ s ∈ decoded, Path.isPlain s = true) :
    site.reached? url = some (Path.join ("" :: decoded)) := by
  rcases below?_of_plain hsettled hpath hdecoded hplain with ⟨segments, hbelow, hsegments⟩
  rw [reached?, hbelow]
  simp only [Option.bind_eq_bind, Option.bind_some, hsegments]

/-- No more backslashes are reached than are left when the others are taken for slashes. -/
theorem count_reached {site : Site} {url : Url} {pieces : List (List Char)} {d : String}
    (hpath : url.path = .segments (Url.Path.resolve (site.root ++ pieces)))
    (hreached : site.reached? url = some d) :
    (utf8 d).count 92 ≤ (pieces.map Path.backslashes).sum := by
  obtain ⟨below, hbelow, hrest⟩ := Option.bind_eq_some_iff.1 hreached
  obtain ⟨decoded, hdecoded, hd⟩ := Option.bind_eq_some_iff.1 hrest
  obtain rfl := Option.some.inj hd
  have hlist := (below?_eq_some hpath).1 hbelow
  have hcount : (utf8 (Path.join ("" :: decoded))).count 92 =
      (below.map Path.backslashes).sum := by
    rw [Path.count_join, List.map_cons, List.sum_cons, ← Path.count_join,
      Path.count_decoded hdecoded]
    exact Nat.zero_add _
  have hspell (s : List Char) : Path.backslashes (Url.spell Url.needsCodingInPath s) =
      Path.backslashes s := by
    rw [Path.backslashes, Url.percentDecode_spell, Path.backslashes]
  -- Both sides count the segments of the site, which are still there.
  have hsum := Url.Path.sum_resolveFrom_le rfl hspell [] (site.root ++ pieces)
  rw [← Url.Path.resolve, hlist] at hsum
  simp only [List.map_append, List.sum_append, List.map_nil, List.sum_nil] at hsum
  rw [hcount]
  omega

/-- Backslashes that are taken for slashes are not decoded. -/
theorem backslashes_slashed (text : List Char) : Path.backslashes text =
    Path.backslashes (text.map Url.Path.slashed) + (charBytes text).count 92 := by
  rw [Path.backslashes, Path.backslashes, Url.Path.charBytes_slashed]
  exact count_percentDecode_map ⟨by decide, rfl⟩ ⟨by decide, rfl⟩ (by decide) _

/-- A forwarded path reaches what it was decoded to exactly when there is no backslash in it. -/
theorem reached_iff {text uri d : String} {site : Site} {request : Http.Request} {url : Url}
    (hsite : ofText text = .ok site)
    (hweb : site.base.scheme = "http".toList ∨ site.base.scheme = "https".toList)
    (hquery : site.base.query = none) (hfragment : site.base.fragment = none)
    (htarget : Http.Target.ofText? uri = some request.target)
    (hstart : uri.toList.head? = some '/')
    (hdecode : Path.decode request.target.path = .ok d)
    (haddress : site.address request.target.forwarded = .ok url) :
    (site.reached? url = some d ↔ '\\' ∉ request.target.rawPath.toList) ∧
      ∀ outgoing, Forward.outgoing site request = .ok outgoing → outgoing.url = url := by
  obtain ⟨tail, htail, hpath⟩ :=
    path_of_address hsite hweb hquery hfragment htarget hstart haddress
  obtain ⟨hsettled, -⟩ := trimmed_eq hsite hweb hquery hfragment
  obtain ⟨decoded, hdecoded, hplain, rfl⟩ := Path.decode_eq_ok hdecode
  rw [Http.Target.path_eq htail, htail, splitOn_cons_self] at hdecoded
  refine ⟨⟨fun hreached hback => ?_, fun hback => ?_⟩, fun outgoing hout => ?_⟩
  · -- A backslash that was decoded is a slash in the address, and there it is missing.
    have hmany := Path.count_decoded hdecoded
    have hfew := count_reached hpath hreached
    rw [List.map_cons, List.sum_cons, Path.backslashes_splitOn] at hmany
    rw [hmany, Path.backslashes_splitOn, backslashes_slashed tail] at hfew
    have hnone : (charBytes tail).count (asciiByte '\\') = 0 := by
      have hbyte : asciiByte '\\' = 92 := rfl
      rw [hbyte]
      omega
    rw [List.count_eq_zero, mem_charBytes_ascii (by decide)] at hnone
    rw [htail] at hback
    rcases List.mem_cons.1 hback with heq | htail
    · exact absurd heq (by decide)
    · exact hnone htail
  · have hslashed : tail.map Url.Path.slashed = tail := by
      refine Url.Path.map_slashed fun c hc => ?_
      rintro rfl
      exact hback (htail ▸ List.mem_cons_of_mem _ hc)
    rw [hslashed] at hpath
    rw [List.mapM_cons] at hdecoded
    obtain ⟨first, hfirst, hmore⟩ := Option.bind_eq_some_iff.1 hdecoded
    obtain ⟨others, hothers, hsome⟩ := Option.bind_eq_some_iff.1 hmore
    obtain rfl : "" = first := Option.some.inj hfirst
    obtain rfl := Option.some.inj hsome
    exact reached?_of_plain hsettled hpath hothers fun s hs => hplain s (List.mem_cons_of_mem _ hs)
  · obtain ⟨sent, hsent, hrest⟩ := Error.bind_eq_ok_iff.1 hout
    rw [haddress] at hsent
    obtain rfl := Except.ok.inj hsent
    split at hrest
    · exact nomatch hrest
    · obtain rfl := Except.ok.inj hrest
      rfl

theorem address_eq_ok {site : Site} {path : String} {url : Url}
    (h : Url.ofText? (site.trimmed ++ path) = some url) : site.address path = .ok url := by
  rw [address, h]

/-- An address at one host. -/
def tracker (list : List String) (query : Option String) : Url :=
  ⟨"http".toList, [], [], some (.name "tracker".toList), none,
    .segments (list.map String.toList), query.map String.toList, none⟩

/-- A path below the path of a base address, with a character that the address spells out. -/
theorem reached_iff_below : ∃ site url,
    ofText "http://tracker/base/" = .ok site ∧ site.address "/2.0/a^b%20c?d=e" = .ok url ∧
      site.reached? url = some "/2.0/a^b c" := by
  let request : Http.Request := ⟨.get, ⟨none, "", "/2.0/a^b%20c", some "d=e"⟩, [], .whole []⟩
  have hsite : ofText "http://tracker/base/" = .ok ⟨tracker ["base", ""] none⟩ := by rfl
  have htarget : Http.Target.ofText? "/2.0/a^b%20c?d=e" = some request.target := rfl
  have hdecode : Path.decode "/2.0/a^b%20c" = .ok "/2.0/a^b c" := by rfl
  have haddress : address ⟨tracker ["base", ""] none⟩ "/2.0/a^b%20c?d=e" =
      .ok (tracker ["base", "2.0", "a%5Eb%20c"] (some "d=e")) :=
    address_eq_ok (by decide +kernel)
  have hagree := reached_iff hsite (.inl rfl) rfl rfl htarget (by decide) hdecode haddress
  exact ⟨_, _, hsite, haddress, hagree.1.2 (by decide)⟩

/-- A path that starts like one for everybody, and takes a way back at its backslashes. -/
def detour : String := "/static\\..\\api/2.0/mlflow/experiments/get"

/-- The detour is decoded as a path that is served without credentials, and reaches one that
is not. -/
theorem reached_detour : ∃ site target url,
    ofText "http://tracker" = .ok site ∧ Http.Target.ofText? detour = some target ∧
      Path.decode target.path = .ok detour ∧ Path.isOpen detour = true ∧
        Forward.outgoing site ⟨.get, target, [], .whole []⟩ = .ok ⟨.get, url, [], []⟩ ∧
          site.reached? url = some "/api/2.0/mlflow/experiments/get" ∧
            Path.isOpen "/api/2.0/mlflow/experiments/get" = false := by
  let url := tracker ["api", "2.0", "mlflow", "experiments", "get"] none
  -- Only slashes part the segments here, so none of them is a step; the address takes backslashes
  -- for slashes.
  have hdecode : Path.decode detour = .ok detour := by rfl
  have haddress : address ⟨tracker [""] none⟩ detour = .ok url :=
    address_eq_ok (by decide +kernel)
  refine ⟨⟨tracker [""] none⟩, ⟨none, "", detour, none⟩, url, by rfl, by rfl, hdecode,
    by decide +kernel, ?_, by decide +kernel, by decide +kernel⟩
  have hforwarded : (Http.Target.mk none "" detour none).forwarded = detour := by rfl
  rw [Forward.outgoing, hforwarded, haddress]
  rfl

end Site

end Gatehouse
