import Gatehouse.Json.Number

/-!
# Documents

A document is null, a truth value, a number, a text, a list or a set of named members.
Members are kept in the order of their names, each name once.

## Main definitions

* `Json`: Documents.
* `Json.insertMember`, `Json.eraseMember`: A list of members with one set or removed.
* `Json.ofMembers`: The object with these members, later ones of one name winning.
* `Json.get?`, `Json.at?`: A member, and a member of members.
* `Json.set`, `Json.erase`: An object with one member set or removed.

## Theorems

* `Json.lookup_insertMember`: What a list of members holds after one is set.
* `Json.lookup_eraseMember`: What a list of members holds after one is removed.
-/

namespace Gatehouse

/-- A document. -/
inductive Json where
  | null
  | bool (b : Bool)
  | number (n : Number)
  | string (s : String)
  | array (items : List Json)
  | object (members : List (String × Json))

namespace Json

instance : Inhabited Json := ⟨null⟩

/-- The members with one set, in its place by name. -/
def insertMember (name : String) (value : Json) :
    List (String × Json) → List (String × Json)
  | [] => [(name, value)]
  | (other, held) :: rest =>
    if name = other then (name, value) :: rest
    else if name < other then (name, value) :: (other, held) :: rest
    else (other, held) :: insertMember name value rest

/-- The members without those of one name. -/
def eraseMember (name : String) (members : List (String × Json)) : List (String × Json) :=
  members.filter fun m => m.1 ≠ name

/-- The object with these members; of two with one name the later one stays. -/
def ofMembers (members : List (String × Json)) : Json :=
  object (members.foldl (fun held m => insertMember m.1 m.2 held) [])

/-- The object with these members, those without a value left out. -/
def ofPresent (members : List (String × Option Json)) : Json :=
  ofMembers (members.filterMap fun m => m.2.map fun value => (m.1, value))

/-- The first value held under a name. -/
def lookup (name : String) : List (String × Json) → Option Json
  | [] => none
  | (other, value) :: rest => if name = other then some value else lookup name rest

/-- The member of an object. -/
def get? (name : String) : Json → Option Json
  | object members => lookup name members
  | _ => none

/-- The member reached through the names of a path. -/
def at? : List String → Json → Option Json
  | [], v => some v
  | name :: path, v => (v.get? name).bind (at? path)

/-- The object with one member set; what is no object stays as it is. -/
def set (v : Json) (name : String) (value : Json) : Json :=
  match v with
  | object members => object (insertMember name value members)
  | v => v

/-- The object without one member; what is no object stays as it is. -/
def erase (name : String) : Json → Json
  | object members => object (eraseMember name members)
  | v => v

/-- The text that the document is. -/
def string? : Json → Option String
  | string s => some s
  | _ => none

/-- The list that the document is. -/
def array? : Json → Option (List Json)
  | array items => some items
  | _ => none

/-- The document of an optional text. -/
def ofString? : Option String → Json
  | some s => string s
  | none => null

/-- The document of a natural number. -/
def ofNat (n : Nat) : Json := number (.integer n)

theorem lookup_insertMember (name other : String) (value : Json)
    (members : List (String × Json)) :
    lookup other (insertMember name value members) =
      if other = name then some value else lookup other members := by
  induction members with
  | nil => simp [insertMember, lookup]
  | cons m rest ih =>
    obtain ⟨held, v⟩ := m
    simp only [insertMember]
    split
    · next h => subst h; by_cases h : other = name <;> simp [lookup, h]
    · next hne =>
      split
      · by_cases h : other = name <;> simp [lookup, h]
      · by_cases h : other = held
        · subst h
          simp [lookup, Ne.symm hne]
        · simp [lookup, h, ih]

theorem lookup_eraseMember (name other : String) (members : List (String × Json)) :
    lookup other (eraseMember name members) =
      if other = name then none else lookup other members := by
  induction members with
  | nil => simp [eraseMember, lookup]
  | cons m rest ih =>
    obtain ⟨held, v⟩ := m
    unfold eraseMember at ih ⊢
    by_cases hn : held = name <;> by_cases ho : other = held <;>
      simp_all [lookup]

end Json

end Gatehouse
