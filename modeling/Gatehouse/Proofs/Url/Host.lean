import Gatehouse.Proofs.Url.Canonical
import Gatehouse.Proofs.Url.Coding

/-!
# What hosts are written with

The written form of a host of a known scheme is not empty, and none of its characters ends
what stands between the slashes and the path of an address.

## Main definitions

* `Url.isPlaceChar`: The characters that end nothing there.

## Theorems

* `Url.Host.ofText?_known`: The written form of a host stays in its place.
-/

namespace Gatehouse.Url

open Text

/-- Whether a character can stand between the slashes and the path of an address. -/
def isPlaceChar (c : Char) : Bool :=
  0x20 < c.toNat && c != '/' && c != '\\' && c != '?' && c != '#'

theorem isPlaceChar_of_isEscapeChar {c : Char} (h : isEscapeChar c = true) :
    isPlaceChar c = true := by
  have hall : "%0123456789ABCDEF".toList.all isPlaceChar = true := by decide
  exact List.all_eq_true.1 hall c (List.contains_iff_mem.1 h)

/-- A set that holds all blanks and the four marks leaves only characters of a place. -/
theorem isPlaceChar_of_not {p : Char → Bool} {c : Char} (hc : p c = false)
    (hblank : c.toNat ≤ 0x20 → p c = true) (hmarks : ['/', '\\', '?', '#'].all p = true) :
    isPlaceChar c = true := by
  have hne (d : Char) (hd : d ∈ ['/', '\\', '?', '#']) : c ≠ d :=
    (ne_of_apply (List.all_eq_true.1 hmarks d hd) hc).symm
  have hlt : 0x20 < c.toNat := by
    refine Nat.lt_of_not_le fun h => ?_
    rw [hblank h] at hc
    exact nomatch hc
  simp only [isPlaceChar, hlt, decide_true, Bool.true_and, Bool.and_eq_true, bne_iff_ne]
  exact ⟨⟨⟨hne _ (by decide), hne _ (by decide)⟩, hne _ (by decide)⟩, hne _ (by decide)⟩

theorem isPlaceChar_toDigits {b n : Nat} (hb : 1 < b) (hb' : b ≤ 16) {c : Char}
    (h : c ∈ Nat.toDigits b n) : isPlaceChar c = true := by
  have hall : ∀ k : Fin 16, isPlaceChar (Nat.digitChar k) = true := by decide
  exact mem_toDigits (p := (isPlaceChar · = true)) hb (fun d hd => hall ⟨d, by omega⟩) c h

namespace Host

theorem isPlaceChar_of_isForbidden {c : Char} (h : isForbidden c = false) :
    isPlaceChar c = true := by
  refine isPlaceChar_of_not h (fun hle => ?_) (by decide)
  rw [isForbidden, decide_eq_true hle]
  rfl

/-- The written form of a host of a known scheme stays in its place. -/
theorem ofText?_known {text : List Char} {host : Host} (h : ofText? true text = some host) :
    host.text ≠ [] ∧ ∀ c ∈ host.text, isPlaceChar c = true := by
  have hcanonical := isCanonical_of_ofText? h
  cases host with
  | name name =>
      exact ⟨hcanonical.1, fun c hc => isPlaceChar_of_isForbidden (hcanonical.2.1 c hc)⟩
  | four value => exact ⟨fourText_ne_nil value, mem_fourText (by decide) (by decide) value⟩
  | six pieces =>
      refine ⟨List.cons_ne_nil _ _, ?_⟩
      -- The brackets around a number of 128 bits are characters of a place as well.
      intro c hc
      rcases List.mem_cons.1 hc with rfl | hc
      · decide
      · rcases List.mem_append.1 hc with hin | hclose
        · exact mem_sixText (p := (isPlaceChar · = true)) (by decide) (by decide) pieces c hin
        · rw [List.mem_singleton.1 hclose]
          decide

end Host

end Gatehouse.Url
