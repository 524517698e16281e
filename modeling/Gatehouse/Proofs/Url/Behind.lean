import Gatehouse.Proofs.Url.Address

/-!
# What is read behind a place

Any text may follow the slash behind the place of an address: it never takes the address with it,
but it is not all read as a path. Blanks and controls at the end are dropped and so are tabs and
line breaks anywhere, and the first mark of a query or a fragment ends the path. What is left is a
part of the text, and all of it exactly where there is nothing to drop and no mark.

## Main definitions

* `Url.tidy`: What is left of a text at the end of an address.
* `Url.beforeMarks`: What of it belongs to the path.

## Theorems

* `Url.tidy_eq_self_iff`, `Url.beforeMarks_eq_self_iff`: Texts of which all is left.
* `Url.clean_append`: What is dropped behind a text that is visible.
* `Url.ofText?_behind`: What is read behind a place.
-/

namespace Gatehouse.Url

open Text

/-- What is left of a text at the end of an address. -/
def tidy (text : List Char) : List Char :=
  ((text.reverse.dropWhile (·.toNat ≤ 0x20)).reverse).filter fun c =>
    c != '\t' && c != '\n' && c != '\r'

theorem tidy_sublist (text : List Char) : (tidy text).Sublist text := by
  refine List.filter_sublist.trans ?_
  have h := (List.dropWhile_sublist (fun c : Char => decide (c.toNat ≤ 0x20))
    (l := text.reverse)).reverse
  rwa [List.reverse_reverse] at h

/-- Behind a text that is visible, the rest of an address is tidied. -/
theorem clean_append {front : List Char} (hne : front ≠ []) (h : ∀ c ∈ front, 0x20 < c.toNat)
    (text : List Char) : clean (front ++ text) = front ++ tidy text := by
  have hlow (c : Char) (hc : c ∈ front) : decide (c.toNat ≤ 0x20) = false :=
    decide_eq_false (Nat.not_le.2 (h c hc))
  have hstart : (front ++ text).dropWhile (·.toNat ≤ 0x20) = front ++ text := by
    rcases List.exists_cons_of_ne_nil hne with ⟨c, more, rfl⟩
    exact List.dropWhile_cons_of_neg (by rw [hlow c List.mem_cons_self]; exact Bool.false_ne_true)
  -- From the end, too, no more is dropped than what is behind.
  have hend : (text.reverse ++ front.reverse).dropWhile (·.toNat ≤ 0x20) =
      text.reverse.dropWhile (·.toNat ≤ 0x20) ++ front.reverse := by
    have hback : front.reverse.dropWhile (·.toNat ≤ 0x20) = front.reverse :=
      dropWhile_eq_self_of_forall fun c hc => hlow c (List.mem_reverse.1 hc)
    rw [List.dropWhile_append]
    split
    · next hempty => rw [hback, List.isEmpty_iff.1 hempty, List.nil_append]
    · rfl
  have hkept : front.filter (fun c => c != '\t' && c != '\n' && c != '\r') = front := by
    have hclean := clean_eq_self h
    rwa [clean, trimList_eq_self hlow] at hclean
  rw [clean, trimList, hstart, List.reverse_append, hend, List.reverse_append,
    List.reverse_reverse, List.filter_append, hkept, tidy]

/-- Behind a text that is visible, what follows is tidied. -/
theorem tidy_append {front : List Char} (h : ∀ c ∈ front, 0x20 < c.toNat) (text : List Char) :
    tidy (front ++ text) = front ++ tidy text := by
  have hslash : ∀ c ∈ ['/'], 0x20 < c.toNat := by simp
  have hboth : ∀ c ∈ '/' :: front, 0x20 < c.toNat := by
    intro c hc
    rcases List.mem_cons.1 hc with rfl | hin
    · decide
    · exact h c hin
  -- An address is cleaned alike with the text as a part of what is in front or behind.
  have hwhole := clean_append (List.cons_ne_nil '/' front) hboth text
  have hparts := clean_append (List.cons_ne_nil '/' []) hslash (front ++ text)
  exact (List.cons.inj (hparts.symm.trans hwhole)).2

/-- Nothing is dropped from a text without tabs and line breaks whose last character is
visible. -/
theorem tidy_eq_self_iff {text : List Char} : tidy text = text ↔
    (∀ c ∈ text, c ≠ '\t' ∧ c ≠ '\n' ∧ c ≠ '\r') ∧
      ∀ c, text.getLast? = some c → 0x20 < c.toNat := by
  constructor
  · intro h
    constructor
    · intro c hc
      rw [← h] at hc
      have hkept := (List.mem_filter.1 hc).2
      simpa [and_assoc] using hkept
    · intro c hlast
      rw [List.getLast?_eq_head?_reverse] at hlast
      rcases List.head?_eq_some_iff.1 hlast with ⟨more, hmore⟩
      refine Nat.lt_of_not_le ?_
      intro hle
      -- A blank at the end would be dropped, and the rest is shorter.
      have hdrop : text.reverse.dropWhile (·.toNat ≤ 0x20) = more.dropWhile (·.toNat ≤ 0x20) := by
        rw [hmore]
        exact List.dropWhile_cons_of_pos (decide_eq_true hle)
      have hshort := (List.dropWhile_sublist (fun d : Char => decide (d.toNat ≤ 0x20))
        (l := more)).length_le
      have hlength := congrArg List.length h
      have hfilter := List.length_filter_le (fun d => d != '\t' && d != '\n' && d != '\r')
        (more.dropWhile (·.toNat ≤ 0x20)).reverse
      have htext := congrArg List.length hmore
      rw [tidy, hdrop] at hlength
      rw [List.length_reverse] at hfilter htext
      rw [List.length_cons] at htext
      omega
  · rintro ⟨hbreaks, hlast⟩
    have hdrop : text.reverse.dropWhile (·.toNat ≤ 0x20) = text.reverse := by
      cases hreverse : text.reverse with
      | nil => rfl
      | cons c more =>
          have hc := hlast c (by rw [List.getLast?_eq_head?_reverse, hreverse]; rfl)
          exact List.dropWhile_cons_of_neg (by simpa using hc)
    rw [tidy, hdrop, List.reverse_reverse, List.filter_eq_self]
    intro c hc
    simpa [and_assoc] using hbreaks c hc

theorem splitFirst_sublist (separator : Char) (text : List Char) :
    (splitFirst separator text).1.Sublist text := by
  induction text with
  | nil => exact List.Sublist.slnil
  | cons c rest ih =>
      rw [splitFirst]
      split
      · exact List.nil_sublist _
      · exact ih.cons_cons c

theorem not_mem_splitFirst (separator : Char) (text : List Char) :
    separator ∉ (splitFirst separator text).1 := by
  induction text with
  | nil => exact List.not_mem_nil
  | cons c rest ih =>
      rw [splitFirst]
      split
      · exact List.not_mem_nil
      · next hne =>
        rw [List.mem_cons, not_or]
        exact ⟨Ne.symm hne, ih⟩

/-- What stands before the marks of a query and of a fragment. -/
def beforeMarks (text : List Char) : List Char :=
  (splitFirst '?' (splitFirst '#' text).1).1

theorem beforeMarks_sublist (text : List Char) : (beforeMarks text).Sublist text :=
  (splitFirst_sublist _ _).trans (splitFirst_sublist _ _)

theorem splitTail_fst (known : Bool) (text : List Char) :
    (splitTail known text).1 = beforeMarks text := rfl

/-- All of a text stands before the marks if there are none. -/
theorem beforeMarks_eq_self_iff {text : List Char} :
    beforeMarks text = text ↔ ∀ c ∈ text, c ≠ '?' ∧ c ≠ '#' := by
  constructor
  · intro h c hc
    have hmark : '?' ∉ text := h ▸ not_mem_splitFirst '?' (splitFirst '#' text).1
    have hhash : '#' ∉ text := by
      intro hin
      rw [← h] at hin
      exact not_mem_splitFirst '#' text ((splitFirst_sublist '?' _).subset hin)
    exact ⟨fun hsame => hmark (hsame ▸ hc), fun hsame => hhash (hsame ▸ hc)⟩
  · intro h
    rw [beforeMarks, splitFirst_of_not_mem fun hin => (h _ hin).2 rfl,
      splitFirst_of_not_mem fun hin => (h _ hin).1 rfl]

/-- A text without marks has neither a query nor a fragment. -/
theorem splitTail_plain {text : List Char} (h : ∀ c ∈ text, c ≠ '?' ∧ c ≠ '#') (known : Bool) :
    splitTail known text = (text, none, none) := by
  rw [splitTail]
  simp only [splitFirst_of_not_mem fun hin => (h _ hin).2 rfl,
    splitFirst_of_not_mem fun hin => (h _ hin).1 rfl, Option.map_none]

theorem splitFirst_append_left {separator : Char} {front : List Char} (h : separator ∉ front)
    (text : List Char) : (splitFirst separator (front ++ text)).1 =
      front ++ (splitFirst separator text).1 := by
  induction front with
  | nil => rfl
  | cons c front ih =>
      rw [List.mem_cons, not_or] at h
      rw [List.cons_append, splitFirst, if_neg (Ne.symm h.1), List.cons_append, ← ih h.2]

theorem beforeMarks_append {front : List Char} (h : ∀ c ∈ front, c ≠ '?' ∧ c ≠ '#')
    (text : List Char) : beforeMarks (front ++ text) = front ++ beforeMarks text := by
  rw [beforeMarks, splitFirst_append_left fun hin => (h _ hin).2 rfl,
    splitFirst_append_left fun hin => (h _ hin).1 rfl, beforeMarks]

/-- What is read between the slashes and the path does not depend on what is behind. -/
theorem withAuthority?_eq (scheme authority : List Char) (path : UrlPath)
    (query fragment : Option (List Char)) : withAuthority? scheme authority path query fragment =
      (withAuthority? scheme authority (.plain []) none none).map fun url =>
        { url with path := path, query := query, fragment := fragment } := by
  unfold withAuthority?
  dsimp only
  split
  · rfl
  · split <;> simp only [Option.bind_eq_bind, Option.map_bind, Function.comp_def, Option.map_some]

/-- What is read of an address of the web with anything behind its place. -/
theorem ofText?_behind {scheme place : List Char} (hweb : IsWeb scheme) (hplace : IsPlace place)
    (text : List Char) :
    ofText? (String.ofList (scheme ++ ':' :: '/' :: '/' :: (place ++ '/' :: text))) =
      (withAuthority? scheme place (.plain []) none none).map fun url =>
        { url with
          path := .segments (Path.resolve (Path.segments true (beforeMarks ('/' :: tidy text))))
          query := (splitTail true ('/' :: tidy text)).2.1
          fragment := (splitTail true ('/' :: tidy text)).2.2 } := by
  -- What stands in front of the path has no blanks, so none are taken away there.
  have hfront : ∀ c ∈ scheme ++ ':' :: '/' :: '/' :: (place ++ ['/']), 0x20 < c.toNat := by
    intro c hc
    simp only [List.mem_append, List.mem_cons, List.not_mem_nil, or_false] at hc
    rcases hc with hin | rfl | rfl | rfl | hin | rfl
    · exact hweb.visible c hin
    · decide
    · decide
    · decide
    · exact (isPlaceChar_iff.1 (hplace.chars c hin)).1
    · decide
  have hclean : clean (scheme ++ ':' :: '/' :: '/' :: (place ++ '/' :: text)) =
      scheme ++ ':' :: '/' :: '/' :: (place ++ '/' :: tidy text) := by
    have h := clean_append (by simp) hfront text
    simpa only [List.append_assoc, List.cons_append, List.nil_append] using h
  rw [ofText?, String.toList_ofList, hclean, hweb.splitScheme?]
  simp only [Option.bind_eq_bind, Option.bind_some, if_pos hweb.isKnown]
  rw [knownOf?_behind hweb hplace, withAuthority?_eq, pathOf_known, splitTail_fst]

end Gatehouse.Url
