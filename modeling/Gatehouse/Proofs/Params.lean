import Gatehouse.Params
import Gatehouse.Proofs.Json.Document
import Gatehouse.Proofs.Text.Form
import Gatehouse.Proofs.Text.Numeral

/-!
# Parameters read back

What was put into a request as a parameter is what is read from it. A query string gives every
name the values that were written for it, in the same order, whether they stand side by side or
not; the first one is the value of the parameter. A document gives the members that it was made
of.

## Main definitions

* `Params.valuesOf`: The values that pairs have for a name.
* `Params.gathered`: How the values of a name are held.
* `Params.ofPairs`, `Params.ofMembers`: The parameters in a query string and in a document.
* `Params.ReadsQuery`: The requests whose parameters stand in the query string.
* `Params.Reads`: What parameters have for a name.

## Theorems

* `Params.raw?_ofPairs`: What is held under a name.
* `Params.get?_ofPairs`, `Params.list_ofPairs`: The value of a parameter, and all of its values.
* `Params.ofRequest_query`: A query string is read as the pairs that it spells.
* `Params.query_multimap`: What is read under a name, wherever pairs of other names stand.
* `Params.get?_ofMembers`, `Params.list_ofMembers`: The same for a document.
* `Params.ofRequest_form`, `Params.ofRequest_document`: Both are read from a request.
* `Params.natOfText?_toString`: A number is read back.
-/

namespace Gatehouse

open Text

namespace Params

/-- The values that pairs have for a name, in order. -/
def valuesOf (name : String) (pairs : List (String × String)) : List String :=
  (pairs.filter (·.1 = name)).map (·.2)

/-- How the values of a name are held: one alone, several in a list. -/
def gathered : List String → Option Json
  | [] => none
  | [value] => some (.string value)
  | values => some (.array (values.map .string))

/-- The parameters in the query string that carries some pairs. -/
def ofPairs (pairs : List (String × String)) : Params := ⟨pairs.foldl addValue []⟩

theorem valuesOf_append (name : String) (front rest : List (String × String)) :
    valuesOf name (front ++ rest) = valuesOf name front ++ valuesOf name rest := by
  rw [valuesOf, List.filter_append, List.map_append, valuesOf, valuesOf]

theorem valuesOf_map (name other : String) (values : List String) :
    valuesOf name (values.map fun value => (other, value)) =
      if other = name then values else [] := by
  rw [valuesOf, List.filter_map, List.map_map]
  by_cases hname : other = name <;> simp [hname, Function.comp_def]

/-- What is held under a name are the values that the pairs have for it. -/
theorem raw?_ofPairs (name : String) (pairs : List (String × String)) :
    (ofPairs pairs).raw? name = gathered (valuesOf name pairs) := by
  -- The pairs are gathered from the front, so the last one is the one to take off.
  induction pairs using List.reverseRecOn with
  | nil => rfl
  | append_singleton front pair ih =>
      obtain ⟨other, value⟩ := pair
      rw [ofPairs, raw?, List.foldl_append, List.foldl_cons, List.foldl_nil, addValue,
        Json.lookup_insertMember, valuesOf_append]
      rw [ofPairs, raw?] at ih
      by_cases hname : name = other
      · subst hname
        have hlast : valuesOf name [(name, value)] = [value] := by simp [valuesOf]
        rw [if_pos rfl, ih, hlast]
        match valuesOf name front with
        | [] => rfl
        | [first] => rfl
        | first :: second :: more => simp [gathered]
      · have hlast : valuesOf name [(other, value)] = [] := by simp [valuesOf, Ne.symm hname]
        rw [if_neg hname, ih, hlast, List.append_nil]

theorem filterMap_scalar?_strings (values : List String) :
    (values.map Json.string).filterMap scalar? = values := by
  induction values with
  | nil => rfl
  | cons value rest ih => rw [List.map_cons, List.filterMap_cons, scalar?, ih]

section Gathered

variable {params : Params} {name : String} {values : List String}

/-- The value of a parameter is the first one that is held for it. -/
theorem get?_of_raw? (h : params.raw? name = gathered values) :
    params.get? name = values.head? := by
  rw [get?, h]
  match values with
  | [] => rfl
  | [first] => rfl
  | first :: second :: more => rfl

/-- All values of a parameter are those that are held for it. -/
theorem list_of_raw? (h : params.raw? name = gathered values) : params.list name = values := by
  rw [list, h]
  match values with
  | [] => rfl
  | [first] => rfl
  | first :: second :: more => exact filterMap_scalar?_strings (first :: second :: more)

end Gathered

/-- The value of a parameter is the first one that was written for it. -/
theorem get?_ofPairs (name : String) (pairs : List (String × String)) :
    (ofPairs pairs).get? name = (valuesOf name pairs).head? :=
  get?_of_raw? (raw?_ofPairs name pairs)

/-- All values of a parameter are those that were written for it. -/
theorem list_ofPairs (name : String) (pairs : List (String × String)) :
    (ofPairs pairs).list name = valuesOf name pairs :=
  list_of_raw? (raw?_ofPairs name pairs)

/-- Whether the parameters of a request stand in its query string. -/
def ReadsQuery (method : Http.Method) (headers : Http.Headers) : Prop :=
  method = .get ∨ method = .delete ∧ isJson headers = false

/-- Parameters have these values for a name: all of them can be read in order, and the first one
where only one is asked for or where there has to be one. -/
structure Reads (params : Params) (name : String) (values : List String) : Prop where
  all : params.list name = values
  first : params.get? name = values.head?
  required : ∀ value, values.head? = some value → params.get name = .ok value

theorem Reads.of_raw? {params : Params} {name : String} {values : List String}
    (h : params.raw? name = gathered values) : params.Reads name values := by
  refine ⟨list_of_raw? h, get?_of_raw? h, ?_⟩
  intro value hfirst
  rw [get, get?_of_raw? h, hfirst]

section Query

variable {method : Http.Method} {headers : Http.Headers} {pairs : List (String × String)}
  {query : String}

/-- A query string that spells pairs is read as these, with what the path captures. -/
theorem ofRequest_query (hmethod : ReadsQuery method headers)
    (hquery : SpellsForm (utf8 query) pairs) (body : Bytes) (captures : List (String × String)) :
    ofRequest method headers (some query) body captures =
      .ok ⟨captures.foldl (fun held c => Json.insertMember c.1 (.string c.2) held)
        (ofPairs pairs).values⟩ := by
  have hsource : sourceValues method headers (some query) body = .ok (ofPairs pairs).values := by
    rw [ofPairs, ← hquery.formDecode_eq]
    rcases hmethod with rfl | ⟨rfl, hjson⟩
    · rfl
    · rw [sourceValues, hjson]
      rfl
  rw [ofRequest, hsource]
  rfl

/-- The pairs of a form are the parameters of the request that carries it. -/
theorem ofRequest_form (headers : Http.Headers) (pairs : List (String × String)) (body : Bytes) :
    ofRequest .get headers (some (String.ofList ((formEncode pairs).map asciiChar))) body [] =
      .ok (ofPairs pairs) := by
  refine ofRequest_query (.inl rfl) ?_ body []
  rw [utf8_formEncode]
  exact spellsForm_formEncode pairs

/-- A query string holds for every name the values that are paired with it. Any pairs can be
written as a query string, and in whatever way that is done, a request whose parameters stand there
has them: for a name that the path does not capture all values are read in the order in which they
were written, and the first one counts where one is asked for. Pairs of other names are of no
consequence to that, nor is it of any consequence where they stand. -/
theorem query_multimap (hmethod : ReadsQuery method headers) (pairs : List (String × String)) :
    (∃ query, utf8 query = formEncode pairs ∧ SpellsForm (utf8 query) pairs) ∧
    ∀ query, SpellsForm (utf8 query) pairs → ∀ (body : Bytes) (captures : List (String × String)),
      ∃ params, ofRequest method headers (some query) body captures = .ok params ∧
        ∀ name, (∀ c ∈ captures, c.1 ≠ name) → ∀ others : List (String × String),
          others.filter (·.1 = name) = pairs.filter (·.1 = name) →
          params.Reads name (valuesOf name others) := by
  refine ⟨⟨_, utf8_formEncode pairs, ?_⟩, ?_⟩
  · rw [utf8_formEncode]
    exact spellsForm_formEncode pairs
  · intro query hquery body captures
    refine ⟨_, ofRequest_query hmethod hquery body captures, ?_⟩
    intro name hname others hothers
    -- What was captured has other names, so the pairs alone are looked up.
    refine .of_raw? ?_
    rw [raw?, lookup_captured hname, valuesOf, hothers]
    exact raw?_ofPairs name pairs

end Query

/-- One name twice, and another one between. -/
def repeated : List (String × String) :=
  [("order_by", "a b"), ("name", "x"), ("order_by", "b DESC")]

/-- A request to delete whose path names `m`, with blanks written in both ways. -/
theorem query_multimap_repeated :
    ReadsQuery .delete [("content-type", "text/plain")] ∧
    SpellsForm (utf8 "order_by=a+b&name=x&order_by=b%20DESC") repeated ∧
    ∃ params, ofRequest .delete [("content-type", "text/plain")]
        (some "order_by=a+b&name=x&order_by=b%20DESC") [] [("name", "m")] = .ok params ∧
      params.list "order_by" = ["a b", "b DESC"] ∧ params.get "order_by" = .ok "a b" := by
  have hmethod : ReadsQuery .delete [("content-type", "text/plain")] :=
    .inr ⟨rfl, by decide +kernel⟩
  have horder : SpellsText (utf8 "order_by") "order_by" := .self (by decide +kernel)
  have hplus : SpellsText (utf8 "a+b") "a b" :=
    ⟨by decide +kernel, .self (by decide +kernel)⟩
  have hescape : SpellsText (utf8 "b%20DESC") "b DESC" := by
    have hdigits : hexValue? 50 = some 2 ∧ hexValue? 48 = some 0 := ⟨rfl, rfl⟩
    have hrest : CodesFor (utf8 "DESC") (utf8 "DESC") := .self (by decide +kernel)
    exact ⟨by decide +kernel, .plain (b := 98) (by decide) (.escape hdigits.1 hdigits.2 hrest)⟩
  have hfirst : SpellsPair (utf8 "order_by=a+b") ("order_by", "a b") :=
    ⟨_, _, rfl, by decide +kernel, horder, hplus⟩
  have hother : SpellsPair (utf8 "name=x") ("name", "x") :=
    ⟨utf8 "name", utf8 "x", rfl, by decide +kernel, .self (by decide +kernel),
      .self (by decide +kernel)⟩
  have hsecond : SpellsPair (utf8 "order_by=b%20DESC") ("order_by", "b DESC") :=
    ⟨_, _, rfl, by decide +kernel, horder, hescape⟩
  have hquery : SpellsForm (utf8 "order_by=a+b&name=x&order_by=b%20DESC") repeated :=
    ⟨_, by decide +kernel, .cons hfirst (.cons hother (.cons hsecond .nil))⟩
  rcases (query_multimap hmethod repeated).2 _ hquery [] [("name", "m")] with
    ⟨params, hread, hreads⟩
  have horders := hreads "order_by" (by decide) repeated rfl
  exact ⟨hmethod, hquery, params, hread, horders.all, horders.required "a b" rfl⟩

/-- The parameters in the document that is made of some members. -/
def ofMembers (members : List (String × Json)) : Params := ⟨Json.setAll [] members⟩

theorem raw?_ofMembers {members : List (String × Json)}
    (hdistinct : members.Pairwise fun a b => a.1 ≠ b.1) (name : String) :
    (ofMembers members).raw? name = Json.lookup name members := by
  have h := Json.lookup_setAll hdistinct name []
  rwa [Json.lookup, Option.or_none] at h

/-- The parameters of a document are its members. -/
theorem get?_ofMembers {members : List (String × Json)}
    (hdistinct : members.Pairwise fun a b => a.1 ≠ b.1) (name : String) :
    (ofMembers members).get? name = (Json.lookup name members).bind scalar? := by
  rw [get?, raw?_ofMembers hdistinct]

theorem list_ofMembers {members : List (String × Json)}
    (hdistinct : members.Pairwise fun a b => a.1 ≠ b.1) (name : String) (values : List String)
    (h : Json.lookup name members = some (.array (values.map .string))) :
    (ofMembers members).list name = values := by
  rw [list, raw?_ofMembers hdistinct, h]
  exact filterMap_scalar?_strings values

/-- The members of a document are the parameters of the request that carries it. -/
theorem ofRequest_document (headers : Http.Headers) (query : Option String)
    {members : List (String × Json)} (h : (Json.ofMembers members).Rereads Json.maxDepth) :
    ofRequest .post headers query (Json.ofMembers members).bytes [] = .ok (ofMembers members) := by
  -- A document in braces is not blank.
  have hblank : ¬ (Json.ofMembers members).bytes.all isBlankByte = true := by
    rw [Json.bytes, Json.text, utf8_ofList, Json.ofMembers, Json.chars,
      charBytes_cons_ascii (by decide), List.all_cons]
    exact Bool.false_ne_true
  rw [ofRequest, sourceValues, ofBody, if_neg hblank, h.ofBytes?_bytes]
  rfl

/-- A number that was written is read back. -/
theorem natOfText?_toString (n : UInt64) : natOfText? (toString n.toNat) = some n := by
  have htext : (toString n.toNat).toList = Nat.toDigits 10 n.toNat := String.toList_ofList
  have hall := all_isDigit_toDigits n.toNat
  have hvalue := foldl_toDigits n.toNat
  rw [natOfText?, htext]
  cases hdigits : Nat.toDigits 10 n.toNat with
  | nil => exact absurd hdigits Nat.toDigits_ne_nil
  | cons first rest =>
      rw [hdigits] at hall hvalue
      have hfits : n.toNat < UInt64.size := n.toNat_lt
      dsimp only
      split
      · -- The first digit is no plus sign.
        next heq =>
        obtain ⟨rfl, -⟩ := List.cons.inj heq
        exact absurd hall Bool.false_ne_true
      · have hread : ¬ ((first :: rest).isEmpty || !true) = true := Bool.false_ne_true
        rw [hall, hvalue, if_neg hread, if_pos hfits, UInt64.ofNat_toNat]

theorem scalar?_ofString? (s : Option String) : scalar? (Json.ofString? s) = s := by
  cases s <;> rfl

end Params

end Gatehouse
