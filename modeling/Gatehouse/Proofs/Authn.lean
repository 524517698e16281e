import Gatehouse.Authn
import Gatehouse.Proofs.Text.Base64
import Gatehouse.Proofs.Text.Utf8

/-!
# Basic credentials

Which values of the authorization header present a name and a password, and which ones these are.
The value is readable as text, and it has a scheme, one space and a payload. The scheme is `basic`
in letters of any case. The payload is the base64 form of the name, a colon and the password, with
blanks around it or none. The first colon ends the name, so no name with a colon can be presented,
while a password may have colons.

Nothing else is read, and what is read is what was written: base64 and UTF-8 have one written form
each. So two values that are read as the same credentials differ in the case of the scheme and in
blanks only.

## Main definitions

* `Authn.payloadOf`: The payload of a name and a password.
* `Authn.Presents`: A value that presents a name and a password.

## Theorems

* `Authn.payloadCredentials?_eq_some_iff`: What a payload is read as.
* `Authn.presents_usual`: The value that clients send.
* `Authn.basicCredentials_exact`: What headers are read as.
-/

namespace Gatehouse

open Text

/-- A value that reads as text consists of visible ASCII, spaces and tabs. -/
theorem Http.isVisible_iff {value : String} : Http.isVisible value = true ↔
    ∀ c ∈ value.toList, (32 ≤ c.toNat ∧ c.toNat < 127) ∨ c = '\t' := by
  rw [isVisible, List.all_eq_true]
  simp only [Bool.or_eq_true, Bool.and_eq_true, decide_eq_true_eq, beq_iff_eq]

theorem Http.Headers.readable?_eq_some_iff {name value : String} {headers : Http.Headers} :
    readable? name headers = some value ↔
      first? name headers = some value ∧ isVisible value = true := by
  rw [readable?, Option.filter_eq_some_iff]

namespace Authn

/-- The base64 form of a name, a colon and a password. -/
def payloadOf (username password : String) : List Char :=
  base64Encode (utf8 (username ++ ":" ++ password))

/-- A value that presents a name and a password: it reads as text, and it consists of the scheme,
one space and the payload, which may have blanks around it. The name has no colon. -/
structure Presents (value username password : String) : Prop where
  readable : ∀ c ∈ value.toList, (32 ≤ c.toNat ∧ c.toNat < 127) ∨ c = '\t'
  written : ∃ scheme before after,
    value.toList = scheme ++ ' ' :: (before ++ payloadOf username password ++ after) ∧
      scheme.map Char.toLower = "basic".toList ∧
      (∀ c ∈ before, isBlank c = true) ∧ ∀ c ∈ after, isBlank c = true
  unmarked : ':' ∉ username.toList

variable {username password : String}

/-- A text falls apart at its first colon. -/
theorem splitFirst_colon_iff {text : String} {before after : List Char} :
    splitFirst ':' text.toList = (before, some after) ↔
      text = String.ofList before ++ ":" ++ String.ofList after ∧ ':' ∉ before := by
  rw [splitFirst_eq_some_iff, ← String.toList_inj, String.toList_append, String.toList_append,
    String.toList_ofList, String.toList_ofList, String.toList_ofList, List.append_assoc]
  rfl

theorem payloadCredentials?_eq_some_iff {payload : List Char} :
    payloadCredentials? payload = some (username, password) ↔
      ':' ∉ username.toList ∧ trimList isBlank payload = payloadOf username password := by
  unfold payloadCredentials?
  constructor
  · intro h
    rcases Option.bind_eq_some_iff.1 h with ⟨bytes, hbytes, hrest⟩
    rcases Option.bind_eq_some_iff.1 hrest with ⟨text, htext, hparts⟩
    rcases hsplit : splitFirst ':' text.toList with ⟨before, _ | after⟩
    · rw [hsplit] at hparts
      exact nomatch hparts
    · rw [hsplit] at hparts
      rcases Prod.mk.inj (Option.some.inj hparts) with ⟨rfl, rfl⟩
      rcases splitFirst_colon_iff.1 hsplit with ⟨rfl, hcolon⟩
      rw [String.toList_ofList]
      refine ⟨hcolon, ?_⟩
      -- Each stage has one input for what it brings.
      rw [base64Decode?_eq_some_iff.1 hbytes, ofUtf8?_eq_some_iff.1 htext, payloadOf]
  · rintro ⟨hcolon, htrim⟩
    have hsplit : splitFirst ':' (username ++ ":" ++ password).toList =
        (username.toList, some password.toList) := by
      rw [splitFirst_colon_iff, String.ofList_toList, String.ofList_toList]
      exact ⟨rfl, hcolon⟩
    rw [htrim, payloadOf, base64Decode?_base64Encode, Option.bind_eq_bind, Option.bind_some,
      ofUtf8?_utf8, Option.bind_eq_bind, Option.bind_some, hsplit]
    change some (String.ofList username.toList, String.ofList password.toList) = _
    rw [String.ofList_toList, String.ofList_toList]

/-- The scheme is before the first space. -/
theorem space_not_mem_scheme {scheme : List Char}
    (h : scheme.map Char.toLower = "basic".toList) : ' ' ∉ scheme := by
  intro hspace
  have hlower : Char.toLower ' ' ∈ scheme.map Char.toLower := List.mem_map_of_mem hspace
  rw [h] at hlower
  exact absurd hlower (by decide)

theorem basicCredentials?_eq_some_iff {headers : Http.Headers} :
    basicCredentials? headers = some (username, password) ↔
      ∃ value, Http.Headers.first? "authorization" headers = some value ∧
        Presents value username password := by
  -- Blanks are trimmed on both sides, and the coded pair has none.
  have hblank : ∀ c ∈ payloadOf username password, isBlank c = false :=
    isBlank_of_mem_base64Encode _
  unfold basicCredentials?
  constructor
  · intro h
    rcases Option.bind_eq_some_iff.1 h with ⟨value, hvalue, hparts⟩
    rcases Http.Headers.readable?_eq_some_iff.1 hvalue with ⟨hfirst, hvisible⟩
    rcases hsplit : splitFirst ' ' value.toList with ⟨scheme, _ | payload⟩
    · rw [hsplit] at hparts
      exact nomatch hparts
    · rw [hsplit] at hparts
      simp only [Option.bind_eq_bind, Option.bind_some] at hparts
      split at hparts
      · next hscheme =>
        -- What is left when blanks are taken off is the coded pair.
        rcases payloadCredentials?_eq_some_iff.1 hparts with ⟨hcolon, htrim⟩
        rcases (trimList_eq_iff hblank).1 htrim with ⟨before, after, rfl, hbefore, hafter⟩
        exact ⟨value, hfirst, Http.isVisible_iff.1 hvisible, ⟨scheme, before, after,
          (splitFirst_eq_some_iff.1 hsplit).1, hscheme, hbefore, hafter⟩, hcolon⟩
      · exact nomatch hparts
  · rintro ⟨value, hfirst, hvisible, ⟨scheme, before, after, hvalue, hscheme, hbefore, hafter⟩,
      hcolon⟩
    have hread := Http.Headers.readable?_eq_some_iff.2 ⟨hfirst, Http.isVisible_iff.2 hvisible⟩
    have htrim := (trimList_eq_iff hblank).2 ⟨before, after, rfl, hbefore, hafter⟩
    rw [hread, Option.bind_eq_bind, Option.bind_some, hvalue,
      splitFirst_append (space_not_mem_scheme hscheme)]
    simp only [Option.bind_eq_bind, Option.bind_some]
    rw [if_pos hscheme]
    exact payloadCredentials?_eq_some_iff.2 ⟨hcolon, htrim⟩

/-- The characters of a payload are visible. -/
theorem visible_payloadOf (username password : String) :
    ∀ c ∈ payloadOf username password, 32 ≤ c.toNat ∧ c.toNat < 127 := by
  have hdigit : ∀ n, n < 64 → 32 ≤ (base64Digit n).toNat ∧ (base64Digit n).toNat < 127 := by
    decide
  exact forall_mem_base64Encode hdigit (by decide) _

theorem toList_usual (payload : List Char) :
    ("Basic " ++ String.ofList payload).toList = "Basic".toList ++ ' ' :: payload := by
  rw [String.toList_append, String.toList_ofList, String.toList_ofList]
  rfl

/-- The value that clients send presents what they wrote. -/
theorem presents_usual (hcolon : ':' ∉ username.toList) :
    Presents ("Basic " ++ String.ofList (payloadOf username password)) username password where
  readable := by
    intro c hc
    rw [toList_usual, List.mem_append, List.mem_cons] at hc
    rcases hc with hscheme | rfl | hpayload
    · have hvisible : Http.isVisible "Basic" = true := by decide
      exact Http.isVisible_iff.1 hvisible c hscheme
    · exact .inl (by decide)
    · exact .inl (visible_payloadOf username password c hpayload)
  written := by
    -- There is no need of blanks but the one behind the scheme.
    refine ⟨"Basic".toList, [], [], ?_, by decide, List.forall_mem_nil _, List.forall_mem_nil _⟩
    rw [toList_usual, List.nil_append, List.append_nil]
  unmarked := hcolon

/-- Headers are read as a name and a password exactly if the first value of the authorization header
presents these two. So whatever name without a colon and whatever password a client writes into that
header, the gateway reads them from there. -/
theorem basicCredentials_exact (headers : Http.Headers) (username password : String) :
    (basicCredentials? headers = some (username, password) ↔
      ∃ value, Http.Headers.first? "authorization" headers = some value ∧
        Presents value username password) ∧
    (':' ∉ username.toList → Http.Headers.first? "authorization" headers =
        some ("Basic " ++ String.ofList (base64Encode (utf8 (username ++ ":" ++ password)))) →
      basicCredentials? headers = some (username, password)) := by
  refine ⟨basicCredentials?_eq_some_iff, ?_⟩
  intro hcolon hfirst
  exact basicCredentials?_eq_some_iff.2 ⟨_, hfirst, presents_usual hcolon⟩

/-- A password with a colon and a letter behind ASCII. -/
theorem basicCredentials_exact_accented :
    let headers : Http.Headers :=
      [("authorization", "Basic " ++ String.ofList (base64Encode (utf8 "bob:s3:cré")))]
    ':' ∉ "bob".toList ∧ basicCredentials? headers = some ("bob", "s3:cré") := by
  intro headers
  have hcolon : ':' ∉ "bob".toList := by decide
  exact ⟨hcolon, (basicCredentials_exact headers "bob" "s3:cré").2 hcolon rfl⟩

end Authn

end Gatehouse
