import Gatehouse.Proofs.Url.Host
import Gatehouse.Proofs.Url.Path
import Gatehouse.Url

/-!
# Web addresses written and read

An address of the web has one of the two schemes of the web, a place between its slashes and
its path, and settled segments. When its written form, with any path behind it, is read
again, the place ends where it ended before, so the segments that are read are the segments
of the paths.

## Main definitions

* `Url.IsWeb`: The schemes of the web.
* `Url.IsPlace`: What stands between the slashes and the path.
* `Url.Settled`: What reading makes of an address of the web.

## Theorems

* `Url.withAuthority?_eq_some`: What an address with a place consists of.
* `Url.settled_of_ofText?`: What is read is settled.
* `Url.path_of_ofText?`: The path that is read behind a place.
-/

namespace Gatehouse.Url

open Text

/-- Whether a scheme is one of the web. -/
def IsWeb (scheme : List Char) : Prop := scheme = "http".toList ∨ scheme = "https".toList

theorem IsWeb.isKnown {scheme : List Char} (h : IsWeb scheme) : isKnown scheme = true := by
  rcases h with rfl | rfl <;> decide

theorem IsWeb.ne_file {scheme : List Char} (h : IsWeb scheme) : scheme ≠ "file".toList := by
  rcases h with rfl | rfl <;> decide

theorem IsWeb.splitScheme? {scheme : List Char} (h : IsWeb scheme) (rest : List Char) :
    splitScheme? (scheme ++ ':' :: rest) = some (scheme, rest) := by
  rcases h with rfl | rfl <;> rfl

theorem IsWeb.visible {scheme : List Char} (h : IsWeb scheme) :
    ∀ c ∈ scheme, 0x20 < c.toNat := by
  have hall : (scheme.all fun c => decide (0x20 < c.toNat)) = true := by
    rcases h with rfl | rfl <;> decide
  exact fun c hc => of_decide_eq_true (List.all_eq_true.1 hall c hc)

/-- What stands between the slashes and the path of an address. -/
structure IsPlace (place : List Char) : Prop where
  ne_nil : place ≠ []
  chars : ∀ c ∈ place, isPlaceChar c = true

theorem isPlaceChar_iff {c : Char} : isPlaceChar c = true ↔
    0x20 < c.toNat ∧ c ≠ '/' ∧ c ≠ '\\' ∧ c ≠ '?' ∧ c ≠ '#' := by
  simp only [isPlaceChar, Bool.and_eq_true, decide_eq_true_eq, bne_iff_ne, and_assoc]

theorem isPlaceChar_spell {text : List Char} {c : Char}
    (h : c ∈ spell needsCodingInUser text) : isPlaceChar c = true := by
  rcases mem_spell h with ⟨-, hc⟩ | hescape
  · -- Blanks and what is below them are spelled out.
    refine isPlaceChar_of_not hc (fun hle => ?_) (by decide)
    rcases Nat.lt_or_eq_of_le hle with hlt | heq
    · simp only [needsCodingInUser, needsCodingInPath, needsCodingInQuery, isUnprintable, hlt,
        decide_true, Bool.true_or]
    · have hblank : c = ' ' := Char.toNat_inj.1 heq
      rw [hblank]
      decide
  · exact isPlaceChar_of_isEscapeChar hescape

theorem numberOf?_lt {scheme digits : List Char} {number : Option Nat}
    (h : numberOf? scheme digits = some number) : ∀ n, number = some n → n < UInt16.size := by
  rintro n rfl
  unfold numberOf? at h
  split at h
  · exact nomatch h
  · split at h
    · simp only at h
      split at h
      · next hlt =>
        split at h
        · exact nomatch h
        · exact Option.some.inj (Option.some.inj h) ▸ hlt
      · exact nomatch h
    · exact nomatch h

/-- What an address consists of that has a place. -/
theorem withAuthority?_eq_some {scheme authority : List Char} {path : UrlPath}
    {query fragment : Option (List Char)} {url : Url}
    (h : withAuthority? scheme authority path query fragment = some url) :
    ∃ name password host number,
      url = ⟨scheme, spell needsCodingInUser name, spell needsCodingInUser password, some host,
        number, path, query, fragment⟩ ∧
      (IsWeb scheme → ∃ text, Host.ofText? true text = some host) ∧
        ∀ n, number = some n → n < UInt16.size := by
  unfold withAuthority? at h
  rcases hsplit : splitUser authority with ⟨user, place⟩
  rcases hname : splitFirst ':' (user.getD []) with ⟨name, password⟩
  rcases hhost : splitHost place with ⟨text, digits⟩
  rw [hsplit] at h
  simp only [hname, hhost] at h
  split at h
  · exact nomatch h
  · next hplace =>
    split at h
    · next hempty =>
      -- Only without a scheme of the web may there be no host.
      obtain ⟨host, -, hrest⟩ := Option.bind_eq_some_iff.1 h
      obtain ⟨number, hnumber, hurl⟩ := Option.bind_eq_some_iff.1 hrest
      refine ⟨name, password.getD [], host, number, (Option.some.inj hurl).symm, fun hweb => ?_,
        numberOf?_lt hnumber⟩
      rw [hempty, hweb.isKnown, decide_eq_true hweb.ne_file] at hplace
      simp only [Bool.and_self, Bool.or_true, not_true_eq_false] at hplace
    · obtain ⟨host, hof, hrest⟩ := Option.bind_eq_some_iff.1 h
      obtain ⟨number, hnumber, hurl⟩ := Option.bind_eq_some_iff.1 hrest
      refine ⟨name, password.getD [], host, number, (Option.some.inj hurl).symm, fun hweb => ?_,
        numberOf?_lt hnumber⟩
      rw [hweb.isKnown] at hof
      exact ⟨text, hof⟩

/-- What is written between the slashes and the path of an address of the web. -/
theorem isPlace_authority {name password : List Char} {host : Host} {number : Option Nat}
    {text : List Char} (hhost : Host.ofText? true text = some host) {url : Url}
    (huser : url.user = spell needsCodingInUser name)
    (hpassword : url.password = spell needsCodingInUser password)
    (hurl : url.host = some host) (hnumber : url.number = number) :
    ∃ place, url.authorityText = '/' :: '/' :: place ∧ IsPlace place := by
  obtain ⟨hne, hchars⟩ := Host.ofText?_known hhost
  -- The names are spelled out, so only the marks around them are to be looked at.
  have hnames (c : Char) (hc : c ∈ url.userText) : isPlaceChar c = true := by
    rw [userText] at hc
    split at hc
    · exact nomatch hc
    · rcases List.mem_append.1 hc with hin | hat
      · rcases List.mem_append.1 hin with hin | hin
        · rw [huser] at hin
          exact isPlaceChar_spell hin
        · split at hin
          · exact nomatch hin
          · rcases List.mem_cons.1 hin with rfl | hin
            · decide
            · rw [hpassword] at hin
              exact isPlaceChar_spell hin
      · rw [List.mem_singleton.1 hat]
        decide
  refine ⟨_, by rw [authorityText, hurl], ?_, fun c hc => ?_⟩
  · intro hnil
    have hfront := (List.append_eq_nil_iff.1 hnil).1
    exact hne (List.append_eq_nil_iff.1 hfront).2
  · rcases List.mem_append.1 hc with hin | hin
    · rcases List.mem_append.1 hin with hin | hin
      · exact hnames c hin
      · exact hchars c hin
    · -- A number is written in digits with a colon in front.
      rw [hnumber] at hin
      cases number with
      | none => exact nomatch hin
      | some n =>
          rcases List.mem_cons.1 hin with rfl | hin
          · decide
          · exact isPlaceChar_toDigits (by decide) (by decide) hin

/-- What reading makes of an address of the web: a place, and settled segments. -/
structure Settled (url : Url) (list : List (List Char)) : Prop where
  place : ∃ place, url.authorityText = '/' :: '/' :: place ∧ IsPlace place
  path : url.path = .segments list
  segments : ∀ s ∈ list, Path.IsSettled s

theorem scheme_of_otherOf? {scheme rest : List Char} {url : Url}
    (h : otherOf? scheme rest = some url) : url.scheme = scheme := by
  unfold otherOf? at h
  split at h
  · obtain ⟨_, _, _, _, rfl, -⟩ := withAuthority?_eq_some h
    rfl
  · obtain rfl := Option.some.inj h
    rfl
  · obtain rfl := Option.some.inj h
    rfl

theorem pathOf_known (text : List Char) :
    pathOf true text = .segments (Path.resolve (Path.segments true text)) := by
  rw [pathOf, Bool.not_true, Bool.and_false]
  rfl

theorem settled_of_knownOf? {scheme rest : List Char} {url : Url}
    (h : knownOf? scheme rest = some url) :
    url.scheme = scheme ∧ (IsWeb scheme → ∃ list, Settled url list) := by
  obtain ⟨name, password, host, number, rfl, hhost, -⟩ := withAuthority?_eq_some h
  refine ⟨rfl, fun hweb => ?_⟩
  obtain ⟨text, htext⟩ := hhost hweb
  refine ⟨_, isPlace_authority htext rfl rfl rfl rfl, pathOf_known _, fun s hs => ?_⟩
  exact Path.isSettled_resolve (fun t ht c hc => Path.plain_segments ht hc) hs

/-- What is read is settled. -/
theorem settled_of_ofText? {s : String} {url : Url} (h : ofText? s = some url)
    (hweb : IsWeb url.scheme) : ∃ list, Settled url list := by
  obtain ⟨⟨scheme, rest⟩, -, hparts⟩ := Option.bind_eq_some_iff.1 h
  simp only at hparts
  split at hparts
  · obtain ⟨hscheme, hsettled⟩ := settled_of_knownOf? hparts
    exact hsettled (hscheme ▸ hweb)
  · next hknown =>
    -- An address with any other scheme keeps that scheme.
    rw [scheme_of_otherOf? hparts] at hweb
    exact absurd hweb.isKnown hknown

theorem clean_eq_self {text : List Char} (h : ∀ c ∈ text, 0x20 < c.toNat) :
    clean text = text := by
  have htrim : trimList (·.toNat ≤ 0x20) text = text := by
    refine trimList_eq_self fun c hc => ?_
    rw [decide_eq_false_iff_not]
    exact Nat.not_le.2 (h c hc)
  rw [clean, htrim, List.filter_eq_self]
  -- The tabs and line breaks that are dropped are below the blank.
  intro c hc
  have hne {d : Char} (hd : d.toNat ≤ 0x20) : (c != d) = true := by
    rw [bne_iff_ne]
    rintro rfl
    exact absurd (h c hc) (Nat.not_lt.2 hd)
  rw [hne (by decide), hne (by decide), hne (by decide)]
  rfl

/-- The query is what follows the first mark of one. -/
theorem splitTail_marked {path : List Char} (hpath : ∀ c ∈ path, c ≠ '?' ∧ c ≠ '#')
    {query : Option (List Char)} (hquery : ∀ q, query = some q → ∀ c ∈ q, c ≠ '#') :
    (splitTail true (path ++ marked '?' query)).1 = path := by
  -- A hash would start a fragment.
  have hhash : '#' ∉ path ++ marked '?' query := by
    intro h
    rcases List.mem_append.1 h with hin | hin
    · exact (hpath _ hin).2 rfl
    · cases query with
      | none => exact nomatch hin
      | some q =>
          rcases List.mem_cons.1 hin with heq | hin
          · exact absurd heq (by decide)
          · exact hquery q rfl _ hin rfl
  have hmark : '?' ∉ path := fun h => (hpath _ h).1 rfl
  cases query with
  | none =>
      rw [marked, List.append_nil] at hhash
      simp only [splitTail, marked, List.append_nil, splitFirst_of_not_mem hhash,
        splitFirst_of_not_mem hmark]
  | some q =>
      rw [marked] at hhash
      simp only [splitTail, marked, splitFirst_of_not_mem hhash, splitFirst_append hmark]

theorem splitAt_append {p : Char → Bool} {xs : List Char} (h : ∀ c ∈ xs, p c = false) {d : Char}
    (hd : p d = true) (rest : List Char) : splitAt p (xs ++ d :: rest) = (xs, d :: rest) := by
  have hnot : ∀ c ∈ xs, (!p c) = true := by
    intro c hc
    rw [h c hc]
    rfl
  have hstop : ¬ (!p d) = true := by
    rw [hd]
    exact Bool.false_ne_true
  rw [splitAt, List.takeWhile_append_of_pos hnot, List.dropWhile_append_of_pos hnot,
    List.takeWhile_cons, List.dropWhile_cons, if_neg hstop, if_neg hstop, List.append_nil]

/-- The place of an address of the web ends at the first slash behind it. -/
theorem knownOf?_behind {scheme place : List Char} (hweb : IsWeb scheme) (hplace : IsPlace place)
    (text : List Char) : knownOf? scheme ('/' :: '/' :: (place ++ '/' :: text)) =
      withAuthority? scheme place (pathOf true (splitTail true ('/' :: text)).1)
        (splitTail true ('/' :: text)).2.1 (splitTail true ('/' :: text)).2.2 := by
  rcases List.exists_cons_of_ne_nil hplace.ne_nil with ⟨first, more, hfirst⟩
  -- The separators in front end at the place, which has none.
  have hdrop : ('/' :: '/' :: (place ++ '/' :: text)).dropWhile (Path.isSeparator true) =
      place ++ '/' :: text := by
    have hplain := isPlaceChar_iff.1 (hplace.chars first (hfirst ▸ List.mem_cons_self))
    have hstop : ¬ Path.isSeparator true first = true := by
      rw [Path.isSeparator, beq_false_of_ne hplain.2.1, beq_false_of_ne hplain.2.2.1]
      exact Bool.false_ne_true
    rw [hfirst, List.cons_append, List.dropWhile_cons_of_pos (by decide),
      List.dropWhile_cons_of_pos (by decide), List.dropWhile_cons_of_neg hstop]
  have hrest : splitAt (fun c => c == '/' || c == '\\' || c == '?' || c == '#')
      (place ++ '/' :: text) = (place, '/' :: text) := by
    refine splitAt_append ?_ (by decide) _
    intro c hc
    rcases isPlaceChar_iff.1 (hplace.chars c hc) with ⟨-, hslash, hback, hmark, hhash⟩
    rw [beq_false_of_ne hslash, beq_false_of_ne hback, beq_false_of_ne hmark,
      beq_false_of_ne hhash]
    rfl
  rw [knownOf?, if_neg hweb.ne_file, hdrop]
  simp only [hrest]

/-- The path that is read behind a place is the one that is written there. -/
theorem path_of_knownOf? {scheme place path : List Char} (hweb : IsWeb scheme)
    (hplace : IsPlace place) {tail : List Char} (hslash : path = '/' :: tail)
    (hpath : ∀ c ∈ path, c ≠ '?' ∧ c ≠ '#')
    {query : Option (List Char)} (hquery : ∀ q, query = some q → ∀ c ∈ q, c ≠ '#') {url : Url}
    (h : knownOf? scheme ('/' :: '/' :: (place ++ (path ++ marked '?' query))) = some url) :
    url.path = .segments (Path.resolve (Path.segments true path)) := by
  have htail := splitTail_marked hpath hquery
  rw [hslash, List.cons_append] at h htail
  rw [knownOf?_behind hweb hplace] at h
  obtain ⟨name, password, host, number, rfl, -⟩ := withAuthority?_eq_some h
  rw [htail, pathOf_known, hslash]

/-- The path that is read behind a place is the one that is written there. -/
theorem path_of_ofText? {scheme place path tail : List Char} (hweb : IsWeb scheme)
    (hplace : IsPlace place) (hslash : path = '/' :: tail)
    (hpath : ∀ c ∈ path, 0x20 < c.toNat ∧ c ≠ '?' ∧ c ≠ '#') {query : Option (List Char)}
    (hquery : ∀ q, query = some q → ∀ c ∈ q, 0x20 < c.toNat ∧ c ≠ '#') {url : Url}
    (h : ofText? (String.ofList (scheme ++ ':' :: '/' :: '/' ::
      (place ++ (path ++ marked '?' query)))) = some url) :
    url.path = .segments (Path.resolve (Path.segments true path)) := by
  -- All of it is visible, so nothing is dropped before it is read.
  have hvisible : ∀ c ∈ scheme ++ ':' :: '/' :: '/' :: (place ++ (path ++ marked '?' query)),
      0x20 < c.toNat := by
    intro c hc
    simp only [List.mem_append, List.mem_cons] at hc
    rcases hc with hin | rfl | rfl | rfl | hin | hin | hin
    · exact hweb.visible c hin
    · decide
    · decide
    · decide
    · exact (isPlaceChar_iff.1 (hplace.chars c hin)).1
    · exact (hpath c hin).1
    · cases query with
      | none => exact nomatch hin
      | some q =>
          rcases List.mem_cons.1 hin with rfl | hin
          · decide
          · exact (hquery q rfl c hin).1
  rw [ofText?, String.toList_ofList, clean_eq_self hvisible, hweb.splitScheme?] at h
  simp only [Option.bind_eq_bind, Option.bind_some, if_pos hweb.isKnown] at h
  exact path_of_knownOf? hweb hplace hslash (fun c hc => (hpath c hc).2)
    (fun q hq c hc => (hquery q hq c hc).2) h

end Gatehouse.Url
