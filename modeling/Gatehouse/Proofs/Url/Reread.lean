import Gatehouse.Proofs.Url.Address
import Gatehouse.Proofs.Url.Canonical

/-!
# Places written and read

Between the slashes and the path of an address stand names, a host and a number. The names end
at the last at-sign, the host at a colon outside of brackets, and none of the parts holds the
mark that ends it. So whatever place was read, the text that is written for it is a place.

## Main definitions

* `Url.numberText`: What stands behind a host.

## Theorems

* `Url.Host.IsCanonical.splitHost`: A host and its number are told apart.
* `Url.splitUser_userText`: The names are told from the host.
* `Url.exists_numberOf?`: A number is read again.
* `Url.exists_withAuthority?`: Whatever place was read is read again.
-/

namespace Gatehouse.Url

open Text

/-- What stands behind a host: its number with a colon in front. -/
def numberText (number : Option Nat) : List Char := marked ':' (number.map (Nat.toDigits 10))

theorem authorityText_eq {url : Url} {host : Host} (h : url.host = some host) :
    url.authorityText = '/' :: '/' :: (url.userText ++ (host.text ++ numberText url.number)) := by
  rw [← List.append_assoc, authorityText]
  cases hnumber : url.number with
  | none => simp only [h, numberText, Option.map_none, marked]
  | some n => simp only [h, numberText, Option.map_some, marked]

theorem splitHost_plain {text : List Char} (hopen : '[' ∉ text) (hcolon : ':' ∉ text)
    (hne : text ≠ []) (number : Option Nat) :
    splitHost (text ++ numberText number) = (text, number.map (Nat.toDigits 10)) := by
  have hfirst : splitFirst ':' (text ++ numberText number) =
      (text, number.map (Nat.toDigits 10)) := by
    cases number with
    | none =>
        rw [numberText, Option.map_none, marked, List.append_nil, splitFirst_of_not_mem hcolon]
    | some n => exact splitFirst_append hcolon (Nat.toDigits 10 n)
  rcases List.exists_cons_of_ne_nil hne with ⟨c, rest, rfl⟩
  rw [splitHost, hfirst]
  rintro more hmore
  exact hopen ((List.cons.inj hmore).1 ▸ List.mem_cons_self)

theorem splitHost_brackets {text : List Char} (hclose : ']' ∉ text) (number : Option Nat) :
    splitHost ('[' :: (text ++ [']']) ++ numberText number) =
      ('[' :: (text ++ [']']), number.map (Nat.toDigits 10)) := by
  -- The first closing bracket is that of the host: the colons before it are no number.
  have hsplit : splitAt (· == ']') ('[' :: text ++ ']' :: numberText number) =
      ('[' :: text, ']' :: numberText number) := by
    refine splitAt_append ?_ (by decide) _
    intro c hc
    refine beq_false_of_ne ?_
    rintro rfl
    rcases List.mem_cons.1 hc with heq | hin
    · exact absurd heq (by decide)
    · exact hclose hin
  have htext : '[' :: (text ++ [']']) ++ numberText number =
      '[' :: (text ++ ']' :: numberText number) := by
    rw [List.cons_append, List.append_assoc, List.singleton_append]
  rw [List.cons_append] at hsplit
  rw [htext, splitHost]
  simp only [hsplit]
  cases number with
  | none => rfl
  | some n => rfl

/-- A host and its number are told apart. -/
theorem Host.IsCanonical.splitHost {host : Host} (h : host.IsCanonical) (number : Option Nat) :
    splitHost (host.text ++ numberText number) = (host.text, number.map (Nat.toDigits 10)) := by
  cases host with
  | name text =>
      exact splitHost_plain (Host.not_mem_of_isForbidden h.2.1 (by decide))
        (Host.not_mem_of_isForbidden h.2.1 (by decide)) h.1 number
  | four value =>
      have hplain : ∀ c ∈ Host.fourText value, c ≠ '[' ∧ c ≠ ':' :=
        Host.mem_fourText (by decide) (by decide) value
      exact splitHost_plain (fun hin => (hplain _ hin).1 rfl) (fun hin => (hplain _ hin).2 rfl)
        (Host.fourText_ne_nil value) number
  | six pieces =>
      have hplain : ∀ c ∈ Host.sixText pieces, c ≠ ']' :=
        Host.mem_sixText (by decide) (by decide) pieces
      exact splitHost_brackets (fun hin => hplain _ hin rfl) number

theorem Host.IsCanonical.not_mem_at {host : Host} (h : host.IsCanonical) : '@' ∉ host.text := by
  intro hin
  cases host with
  | name text => exact Host.not_mem_of_isForbidden h.2.1 (by decide) hin
  | four value => exact Host.mem_fourText (p := (· ≠ '@')) (by decide) (by decide) value _ hin rfl
  | six pieces =>
      have hplain : ∀ c ∈ Host.sixText pieces, c ≠ '@' :=
        Host.mem_sixText (by decide) (by decide) pieces
      simp only [Host.text, List.mem_cons, List.mem_append, List.not_mem_nil, or_false] at hin
      rcases hin with heq | hin | heq
      · exact absurd heq (by decide)
      · exact hplain _ hin rfl
      · exact absurd heq (by decide)

theorem not_mem_numberText (number : Option Nat) : '@' ∉ numberText number := by
  intro hin
  cases number with
  | none => exact nomatch hin
  | some n =>
      rcases List.mem_cons.1 hin with heq | hin
      · exact absurd heq (by decide)
      · exact Host.not_mem_toDigits (by decide) (by decide) (by decide) n hin

/-- What is behind the last at-sign. -/
theorem splitUser_userText (url : Url) {place : List Char} (h : '@' ∉ place) :
    (splitUser (url.userText ++ place)).2 = place := by
  have hreverse : '@' ∉ place.reverse := fun hin => h (List.mem_reverse.1 hin)
  rw [userText]
  split
  · rw [List.nil_append, splitUser, splitFirst_of_not_mem hreverse]
    exact List.reverse_reverse place
  · rw [splitUser, List.append_assoc, List.reverse_append, List.reverse_append,
      List.reverse_singleton, List.append_assoc, List.singleton_append, splitFirst_append hreverse]
    exact List.reverse_reverse place

/-- The digits of a number are read again. -/
theorem exists_numberOf? (scheme : List Char) {number : Option Nat}
    (h : ∀ n, number = some n → n < UInt16.size) :
    ∃ again, numberOf? scheme ((number.map (Nat.toDigits 10)).getD []) = some again := by
  cases number with
  | none => exact ⟨none, rfl⟩
  | some n =>
      have hne : ¬ (Nat.toDigits 10 n).isEmpty = true := by
        rw [List.isEmpty_iff]
        exact Nat.toDigits_ne_nil
      rw [Option.map_some, Option.getD_some, numberOf?, if_neg hne, if_pos (all_isDigit_toDigits n)]
      simp only [foldl_toDigits]
      rw [if_pos (h n rfl)]
      exact ⟨_, rfl⟩

/-- A place is read when its host and its number are. -/
theorem exists_of_splitHost {scheme authority place text : List Char}
    {digits : Option (List Char)} {host : Host} {number : Option Nat} (hweb : IsWeb scheme)
    (huser : (splitUser authority).2 = place) (hsplit : splitHost place = (text, digits))
    (hne : text ≠ []) (hhost : Host.ofText? true text = some host)
    (hnumber : numberOf? scheme (digits.getD []) = some number) :
    ∃ url, withAuthority? scheme authority (.plain []) none none = some url := by
  have hempty : text.isEmpty = false := by
    rw [Bool.eq_false_iff, ne_eq, List.isEmpty_iff]
    exact hne
  unfold withAuthority?
  rcases hnames : splitUser authority with ⟨user, rest⟩
  rw [hnames] at huser
  obtain rfl : rest = place := huser
  simp only [hsplit, hempty, Bool.false_and, Bool.false_eq_true, if_false, hweb.isKnown, hhost,
    hnumber, Option.bind_eq_bind, Option.bind_some]
  exact ⟨_, rfl⟩

/-- Whatever place was read is read again where it is written. -/
theorem exists_withAuthority? {text : String} {url : Url} (h : ofText? text = some url)
    (hweb : IsWeb url.scheme) {place : List Char}
    (hplace : url.authorityText = '/' :: '/' :: place) :
    ∃ again, withAuthority? url.scheme place (.plain []) none none = some again := by
  rcases Option.bind_eq_some_iff.1 h with ⟨⟨scheme, rest⟩, -, hparts⟩
  simp only at hparts
  split at hparts
  · rcases withAuthority?_eq_some hparts with ⟨name, password, host, number, rfl, hhost, hnumber⟩
    rcases hhost hweb with ⟨text, htext⟩
    have hcanonical := Host.isCanonical_of_ofText? htext
    have hbehind : '@' ∉ host.text ++ numberText number := by
      intro hin
      rcases List.mem_append.1 hin with hin | hin
      · exact hcanonical.not_mem_at hin
      · exact not_mem_numberText number hin
    rw [authorityText_eq rfl, List.cons.injEq, List.cons.injEq] at hplace
    rcases hcanonical.exists_ofText? with ⟨again, hagain⟩
    rcases exists_numberOf? scheme hnumber with ⟨digits, hdigits⟩
    rw [← hplace.2.2]
    exact exists_of_splitHost hweb (splitUser_userText _ hbehind) (hcanonical.splitHost number)
      (Host.ofText?_known htext).1 hagain hdigits
  · next hknown =>
    -- An address with any other scheme keeps that scheme.
    rw [scheme_of_otherOf? hparts] at hweb
    exact absurd hweb.isKnown hknown

end Gatehouse.Url
