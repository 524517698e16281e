import Gatehouse.Proofs.Json.RoundTrip

/-!
# Documents read back whole

The tree of a written document keeps its members as they were written; a document has them in the
order of their names, each name once. So a document is read back from its bytes where all objects
in it are in order, which is how objects are made, and where it is not nested too deeply. Whether
that is so is told part by part.

## Main definitions

* `Json.Ordered`: Members in the order of their names.
* `Json.Placed`: A member in its place.
* `Json.setAll`: Several members set one after the other.
* `Json.Rereads`: A document that is read back from its written form.

## Theorems

* `Json.Ordered.setAll`, `Json.setAll_ordered`: Members are put in order, and stay as they are then.
* `Json.Placed.insertMember`, `Json.Placed.insertMember_eq`: A member is set once and for all.
* `Json.lookup_setAll`, `Json.get?_ofMembers`: What is held when members have been set.
* `Json.Rereads.array`, `Json.Rereads.ofMembers`: A document from its parts.
* `Json.Rereads.ofBytes?_bytes`: Such a document is read back.
-/

namespace Gatehouse

namespace Json

/-- Members in the order of their names, no name twice. -/
def Ordered (members : List (String × Json)) : Prop := members.Pairwise fun a b => a.1 < b.1

/-- Several members set one after the other. -/
def setAll (held members : List (String × Json)) : List (String × Json) :=
  members.foldl (fun held m => insertMember m.1 m.2 held) held

theorem setAll_cons (held : List (String × Json)) (first : String × Json)
    (rest : List (String × Json)) :
    setAll held (first :: rest) = setAll (insertMember first.1 first.2 held) rest := rfl

theorem mem_insertMember {name : String} {value : Json} {members : List (String × Json)}
    {m : String × Json} (h : m ∈ insertMember name value members) :
    m = (name, value) ∨ m ∈ members := by
  induction members with
  | nil => exact .inl (List.mem_singleton.1 h)
  | cons first rest ih =>
      obtain ⟨other, held⟩ := first
      rw [insertMember] at h
      -- The member stands in the place of the first one, before it or behind it.
      split at h
      · rcases List.mem_cons.1 h with rfl | hrest
        · exact .inl rfl
        · exact .inr (List.mem_cons_of_mem _ hrest)
      · split at h
        · exact List.mem_cons.1 h
        · rcases List.mem_cons.1 h with rfl | hrest
          · exact .inr List.mem_cons_self
          · rcases ih hrest with hnew | hold
            · exact .inl hnew
            · exact .inr (List.mem_cons_of_mem _ hold)

theorem mem_setAll {held members : List (String × Json)} {m : String × Json}
    (h : m ∈ setAll held members) : m ∈ held ∨ m ∈ members := by
  induction members generalizing held with
  | nil => exact .inl h
  | cons first rest ih =>
      rw [setAll_cons] at h
      rcases ih h with hheld | hrest
      · rcases mem_insertMember hheld with rfl | hold
        · exact .inr List.mem_cons_self
        · exact .inl hold
      · exact .inr (List.mem_cons_of_mem _ hrest)

/-- A member is set in its place. -/
theorem Ordered.insertMember {members : List (String × Json)} (h : Ordered members)
    (name : String) (value : Json) : Ordered (insertMember name value members) := by
  induction members with
  | nil => exact List.pairwise_singleton _ _
  | cons first rest ih =>
      obtain ⟨other, held⟩ := first
      rcases List.pairwise_cons.1 h with ⟨hfirst, hrest⟩
      rw [Json.insertMember]
      split
      · next hsame =>
        exact List.pairwise_cons.2 ⟨fun m hm => hsame ▸ hfirst m hm, hrest⟩
      · next hother =>
        split
        · next hlt =>
          refine List.pairwise_cons.2 ⟨?_, h⟩
          intro m hm
          rcases List.mem_cons.1 hm with rfl | hin
          · exact hlt
          · exact String.lt_trans hlt (hfirst m hin)
        · next hnot =>
          -- What is neither equal nor smaller comes later.
          have hgt : other < name := by
            rw [← String.not_le]
            intro hle
            exact hother (String.le_antisymm hle (String.not_lt.1 hnot))
          refine List.pairwise_cons.2 ⟨?_, ih hrest⟩
          intro m hm
          rcases mem_insertMember hm with rfl | hin
          · exact hgt
          · exact hfirst m hin

theorem eraseMember_cons (name : String) (first : String × Json) (rest : List (String × Json)) :
    eraseMember name (first :: rest) =
      if first.1 = name then eraseMember name rest else first :: eraseMember name rest := by
  rw [eraseMember, List.filter_cons]
  by_cases h : first.1 = name
  · simp [h, eraseMember]
  · simp [h, eraseMember]

/-- A member stands in its place with a value, whether or not the others are in order. -/
inductive Placed (name : String) (value : Json) : List (String × Json) → Prop
  | here (rest : List (String × Json)) : Placed name value ((name, value) :: rest)
  | later {other : String} {held : Json} {rest : List (String × Json)} (hne : name ≠ other)
      (hnot : ¬ name < other) (h : Placed name value rest) :
      Placed name value ((other, held) :: rest)

namespace Placed

variable {name : String} {value : Json} {members : List (String × Json)}

/-- Setting it once more changes nothing. -/
theorem insertMember_eq (h : Placed name value members) :
    Json.insertMember name value members = members := by
  induction h with
  | here rest => rw [Json.insertMember, if_pos rfl]
  | later hne hnot _ ih => rw [Json.insertMember, if_neg hne, if_neg hnot, ih]

/-- A member that is set stands in its place. -/
theorem insertMember (name : String) (value : Json) (members : List (String × Json)) :
    Placed name value (insertMember name value members) := by
  induction members with
  | nil => exact .here []
  | cons first rest ih =>
      obtain ⟨other, held⟩ := first
      rw [Json.insertMember]
      split
      · exact .here rest
      · next hne =>
        split
        · exact .here _
        · next hnot => exact .later hne hnot ih

/-- Another member that is set does not move it. -/
theorem insertMember_other (h : Placed name value members) {other : String} (hne : name ≠ other)
    (set : Json) : Placed name value (Json.insertMember other set members) := by
  -- The new member comes before the place, or behind it, or takes that of another one.
  induction h with
  | here rest =>
      rw [Json.insertMember, if_neg hne.symm]
      split
      · next hlt =>
        have hnot : ¬ name < other := fun hgt => String.lt_irrefl _ (String.lt_trans hlt hgt)
        exact .later hne hnot (.here rest)
      · exact .here _
  | @later third held rest hthird hnot hrest ih =>
      rw [Json.insertMember]
      split
      · next hsame => exact .later hne (hsame ▸ hnot) hrest
      · split
        · next hlt =>
          exact .later hne (fun hgt => hnot (String.lt_trans hgt hlt)) (.later hthird hnot hrest)
        · exact .later hthird hnot ih

/-- Another member that is removed does not move it. -/
theorem eraseMember_other (h : Placed name value members) {other : String} (hne : name ≠ other) :
    Placed name value (eraseMember other members) := by
  induction h with
  | here rest =>
      rw [eraseMember_cons, if_neg hne]
      exact .here _
  | later hthird hnot _ ih =>
      rw [eraseMember_cons]
      split
      · exact ih
      · exact .later hthird hnot ih

end Placed

theorem eraseMember_eraseMember (name : String) (members : List (String × Json)) :
    eraseMember name (eraseMember name members) = eraseMember name members := by
  simp only [eraseMember, List.filter_filter, Bool.and_self]

/-- Members are put in order. -/
theorem Ordered.setAll {held : List (String × Json)} (h : Ordered held)
    (members : List (String × Json)) : Ordered (setAll held members) := by
  induction members generalizing held with
  | nil => exact h
  | cons first rest ih => exact ih (h.insertMember first.1 first.2)

theorem insertMember_last {name : String} {value : Json} {members : List (String × Json)}
    (h : ∀ m ∈ members, m.1 < name) :
    insertMember name value members = members ++ [(name, value)] := by
  induction members with
  | nil => rfl
  | cons first rest ih =>
      obtain ⟨other, held⟩ := first
      have hlt : other < name := h (other, held) List.mem_cons_self
      have hne : name ≠ other := by
        rintro rfl
        exact String.lt_irrefl _ hlt
      have hnot : ¬ name < other := fun hgt => String.lt_irrefl _ (String.lt_trans hlt hgt)
      rw [insertMember, if_neg hne, if_neg hnot,
        ih fun m hm => h m (List.mem_cons_of_mem _ hm), List.cons_append]

/-- Members in order stay as they are. -/
theorem setAll_ordered {held members : List (String × Json)} (h : Ordered (held ++ members)) :
    setAll held members = held ++ members := by
  induction members generalizing held with
  | nil => exact (List.append_nil held).symm
  | cons first rest ih =>
      have hlast : ∀ m ∈ held, m.1 < first.1 := fun m hm =>
        (List.pairwise_append.1 h).2.2 m hm first List.mem_cons_self
      have hmoved : held ++ [(first.1, first.2)] ++ rest = held ++ first :: rest := by
        rw [List.append_assoc, List.singleton_append]
      rw [setAll_cons, insertMember_last hlast, ih (hmoved ▸ h), hmoved]

theorem ofMembers_ordered {members : List (String × Json)} (h : Ordered members) :
    ofMembers members = .object members := by
  have hall : setAll [] members = members := setAll_ordered h
  exact congrArg object hall

theorem lookup_eq_none {name : String} {members : List (String × Json)}
    (h : ∀ m ∈ members, name ≠ m.1) : lookup name members = none := by
  induction members with
  | nil => rfl
  | cons first rest ih =>
      rw [lookup, if_neg (h first List.mem_cons_self),
        ih fun m hm => h m (List.mem_cons_of_mem _ hm)]

/-- Of members with different names each one is held, and others only where they do not replace
them. -/
theorem lookup_setAll {members : List (String × Json)}
    (hdistinct : members.Pairwise fun a b => a.1 ≠ b.1) (name : String)
    (held : List (String × Json)) :
    lookup name (setAll held members) = (lookup name members).or (lookup name held) := by
  induction members generalizing held with
  | nil => rfl
  | cons first rest ih =>
      obtain ⟨other, value⟩ := first
      rcases List.pairwise_cons.1 hdistinct with ⟨hfirst, hrest⟩
      rw [setAll_cons, ih hrest, lookup_insertMember, lookup]
      by_cases hname : name = other
      · rw [if_pos hname, if_pos hname, hname]
        -- None of the later members has the name of this one.
        rw [lookup_eq_none hfirst]
        rfl
      · rw [if_neg hname, if_neg hname]

/-- An object that has just been made of members with different names holds these. -/
theorem get?_ofMembers {members : List (String × Json)}
    (hdistinct : members.Pairwise fun a b => a.1 ≠ b.1) (name : String) :
    (ofMembers members).get? name = lookup name members := by
  have h := lookup_setAll hdistinct name []
  rwa [lookup, Option.or_none] at h

/-- A document that is read back from its written form when it may be nested this deep. -/
structure Rereads (depth : Nat) (v : Json) : Prop where
  words : v.HasWords
  reads : ofTree? depth v.tree = some v

namespace Rereads

variable {depth : Nat}

theorem null : Rereads depth .null := ⟨trivial, rfl⟩

theorem bool (b : Bool) : Rereads depth (.bool b) := ⟨trivial, rfl⟩

theorem word (n : UInt64) : Rereads depth (.number (.ofUInt64 n)) := ⟨⟨n, rfl⟩, rfl⟩

theorem string (s : String) : Rereads depth (.string s) := ⟨trivial, rfl⟩

theorem ofString? (s : Option String) : Rereads depth (Json.ofString? s) := by
  cases s with
  | none => exact null
  | some s => exact string s

/-- A list is read back where its items are. -/
theorem array {items : List Json} (h : ∀ v ∈ items, Rereads depth v) :
    Rereads (depth + 1) (.array items) := by
  have hitems : ItemsHaveWords items ∧ ofTrees? depth (trees items) = some items := by
    induction items with
    | nil => exact ⟨trivial, rfl⟩
    | cons v rest ih =>
        have hv := h v List.mem_cons_self
        rcases ih fun w hw => h w (List.mem_cons_of_mem _ hw) with ⟨hwords, htrees⟩
        refine ⟨⟨hv.words, hwords⟩, ?_⟩
        rw [trees, ofTrees?, hv.reads, htrees]
        rfl
  refine ⟨hitems.1, ?_⟩
  rw [tree, ofTree?, hitems.2]
  rfl

theorem strings (values : List String) : Rereads (depth + 1) (.array (values.map .string)) := by
  refine array ?_
  intro v hv
  rcases List.mem_map.1 hv with ⟨value, -, rfl⟩
  exact string value

/-- An object is read back where its members are in order and their values are read back. -/
theorem object {members : List (String × Json)} (hordered : Ordered members)
    (h : ∀ m ∈ members, Rereads depth m.2) : Rereads (depth + 1) (.object members) := by
  have hmembers : MembersHaveWords members ∧
      ofNamed? depth (namedTrees members) = some members := by
    -- The order matters only when the members are put together again.
    clear hordered
    induction members with
    | nil => exact ⟨trivial, rfl⟩
    | cons m rest ih =>
        obtain ⟨name, v⟩ := m
        have hv := h (name, v) List.mem_cons_self
        rcases ih fun w hw => h w (List.mem_cons_of_mem _ hw) with ⟨hwords, htrees⟩
        refine ⟨⟨hv.words, hwords⟩, ?_⟩
        rw [namedTrees, ofNamed?, hv.reads, htrees]
        rfl
  refine ⟨hmembers.1, ?_⟩
  rw [tree, ofTree?, hmembers.2, Option.map_some, ofMembers_ordered hordered]

/-- An object that has just been made is read back where the values of its members are. -/
theorem ofMembers (depth : Nat) {members : List (String × Json)}
    (h : ∀ m ∈ members, Rereads depth m.2) : Rereads (depth + 1) (ofMembers members) := by
  refine object (Ordered.setAll List.Pairwise.nil members) ?_
  intro m hm
  rcases mem_setAll hm with hin | hin
  · exact nomatch hin
  · exact h m hin

/-- Such a document is read back from its bytes. -/
theorem ofBytes?_bytes {v : Json} (h : Rereads maxDepth v) : ofBytes? v.bytes = some v := by
  rw [ofBytes?, Tree.ofBytes?_bytes v h.words, Option.bind_some, h.reads]

end Rereads

end Json

end Gatehouse
