import Gatehouse.Proofs.Ledger.History
import Mathlib.Logic.Function.Basic

/-!
# The book

What a ledger amounts to for those who call it: three finite maps. Users have a password and a
rank under their names, grants of either kind have a level under the key of the resource and the
name of the user. There are no ids in the book, and no rows that point at each other.

Each call is given a second time here, on the book. The order in which a call looks at things is
part of it, since it decides which failure is told: credentials and levels are looked at before
anything is looked up, and a user before his grants.

## Main definitions

* `FiniteMap`: Values under keys, with `get?`, `add`, `change`, `erase` and `rekey`.
* `Book`: Users by name, and the grants of each kind by key and name.
* `Book.Told`: What a call tells.
* `Book.perform`: A call on the book.
* `replay`: What calls tell in turn.

## Theorems

* `FiniteMap.get?_eq_some_iff`: A value is found exactly where it is entered.
* `FiniteMap.get?_erase`: What is found where keys have gone.
* `Book.deleteUser_leaves`, `Book.dropModelGrants_leaves`: What goes with a user, and with a name.
-/

namespace Gatehouse

/-- Values under keys, no key twice, in the order of their entry. -/
structure FiniteMap (κ ν : Type) where
  entries : List (κ × ν)
  distinct : entries.Pairwise fun a b => a.1 ≠ b.1

namespace FiniteMap

variable {κ ν : Type}

/-- The map without entries. -/
def empty : FiniteMap κ ν := ⟨[], List.Pairwise.nil⟩

/-- The map without the keys that satisfy a condition. -/
def erase (map : FiniteMap κ ν) (p : κ → Bool) : FiniteMap κ ν :=
  ⟨map.entries.filter fun entry => !p entry.1, map.distinct.filter _⟩

/-- The map with every value under another key, if keys that differ are kept apart. -/
def rekey (map : FiniteMap κ ν) (f : κ → κ)
    (h : ∀ a ∈ map.entries, ∀ b ∈ map.entries, f a.1 = f b.1 → a.1 = b.1) : FiniteMap κ ν where
  entries := map.entries.map fun entry => (f entry.1, entry.2)
  distinct := by
    rw [List.pairwise_map]
    refine map.distinct.imp_of_mem ?_
    intro a b ha hb hne hsame
    exact hne (h a ha b hb hsame)

variable [DecidableEq κ]

/-- The value under a key. -/
def get? (map : FiniteMap κ ν) (key : κ) : Option ν :=
  (map.entries.find? (·.1 = key)).map (·.2)

theorem get?_eq_none_iff {map : FiniteMap κ ν} {key : κ} :
    map.get? key = none ↔ ∀ entry ∈ map.entries, entry.1 ≠ key := by
  rw [get?, Option.map_eq_none_iff, List.find?_eq_none]
  simp

/-- A value is found under a key exactly where it is entered there. -/
theorem get?_eq_some_iff {map : FiniteMap κ ν} {key : κ} {value : ν} :
    map.get? key = some value ↔ (key, value) ∈ map.entries := by
  rw [get?, Option.map_eq_some_iff]
  constructor
  · rintro ⟨entry, hfound, rfl⟩
    have hkey : entry.1 = key := by simpa using List.find?_some hfound
    rw [← hkey]
    exact List.mem_of_find?_eq_some hfound
  · intro hmem
    have hsome : (map.entries.find? (·.1 = key)).isSome = true :=
      List.find?_isSome.2 ⟨(key, value), hmem, decide_eq_true rfl⟩
    obtain ⟨entry, hfound⟩ := Option.isSome_iff_exists.1 hsome
    refine ⟨entry, hfound, ?_⟩
    -- No other entry has the key.
    have hkey : entry.1 = key := by simpa using List.find?_some hfound
    have hsame : entry = (key, value) :=
      eq_of_pairwise_ne map.distinct (List.mem_of_find?_eq_some hfound) hmem hkey
    rw [hsame]

/-- The map with one more key. -/
def add (map : FiniteMap κ ν) (key : κ) (value : ν) (h : map.get? key = none) :
    FiniteMap κ ν where
  entries := map.entries ++ [(key, value)]
  distinct := by
    refine List.pairwise_append.2 ⟨map.distinct, List.pairwise_singleton _ _, ?_⟩
    intro old hold new hnew
    rw [List.mem_singleton.1 hnew]
    exact get?_eq_none_iff.1 h old hold

/-- The map with another value under a key. -/
def change (map : FiniteMap κ ν) (key : κ) (f : ν → ν) : FiniteMap κ ν where
  entries := map.entries.map fun entry =>
    if entry.1 = key then (entry.1, f entry.2) else entry
  distinct := by
    rw [List.pairwise_map]
    refine map.distinct.imp ?_
    intro a b hne
    split <;> split <;> exact hne

/-- Nothing is found under the keys that go, and under the others what was there. -/
theorem get?_erase (map : FiniteMap κ ν) (p : κ → Bool) (key : κ) :
    (map.erase p).get? key = if p key then none else map.get? key := by
  by_cases hgone : p key = true
  · rw [if_pos hgone, get?_eq_none_iff]
    intro entry hentry hkey
    have hstays := (List.mem_filter.1 hentry).2
    rw [hkey, hgone] at hstays
    exact absurd hstays Bool.false_ne_true
  · rw [if_neg hgone]
    ext value
    rw [get?_eq_some_iff, get?_eq_some_iff, erase, List.mem_filter]
    simp [hgone]

end FiniteMap

/-- A user as the book has him. -/
structure Book.User where
  password : String
  admin : Bool
  deriving DecidableEq, Repr

/-- Users by name, and the grants of each kind by key and name. -/
structure Book where
  users : FiniteMap String Book.User
  grants : Kind → FiniteMap (String × String) Level

namespace Book

/-- A grant as the book tells it. -/
structure Entry where
  kind : Kind
  key : String
  username : String
  level : Level
  deriving DecidableEq, Repr

/-- What a call tells when it succeeds. -/
inductive Told where
  | nothing
  | flag (holds : Bool)
  | count (number : Nat)
  | user (username : String) (admin : Bool)
  | details (username : String) (admin : Bool) (experiments models : List Entry)
  | grant (entry : Entry)
  | grants (entries : List Entry)
  deriving DecidableEq, Repr

/-- The book in which nothing is entered. -/
def empty : Book := ⟨.empty, fun _ => .empty⟩

/-- The book with other grants of a kind. -/
def withGrants (book : Book) (kind : Kind) (grants : FiniteMap (String × String) Level) : Book :=
  { book with grants := Function.update book.grants kind grants }

theorem grants_withGrants (book : Book) (kind other : Kind)
    (grants : FiniteMap (String × String) Level) :
    (book.withGrants kind grants).grants other =
      if other = kind then grants else book.grants other :=
  Function.update_apply book.grants kind grants other

/-- The user of a name. -/
def find (username : String) (book : Book) : Except Error User :=
  match book.users.get? username with
  | some user => .ok user
  | none => .error (.absent (.account username))

/-- The level of a grant. -/
def findGrant (kind : Kind) (key username : String) (book : Book) : Except Error Level :=
  match (book.grants kind).get? (key, username) with
  | some level => .ok level
  | none => .error (kind.absent key username)

/-- All grants of a user in the order of their entry. -/
def grantsOf (kind : Kind) (username : String) (book : Book) : List Entry :=
  ((book.grants kind).entries.filter (·.1.2 = username)).map fun entry =>
    ⟨kind, entry.1.1, entry.1.2, entry.2⟩

/-- A user is entered under a name that is not taken. -/
def createUser (username password : String) (admin : Bool) (book : Book) :
    Except Error (Told × Book) :=
  if username.isEmpty || password.isEmpty then .error (.badRequest .emptyCredentials)
  else if h : book.users.get? username = none then
    .ok (.user username admin, { book with users := book.users.add username ⟨password, admin⟩ h })
  else .error (.conflict (.account username))

/-- A user gets another password, or another rank, or both. -/
def updateUser (username : String) (password : Option String) (admin : Option Bool)
    (book : Book) : Except Error (Told × Book) := do
  let _ ← book.find username
  if password = some "" then .error (.badRequest .emptyPassword)
  else .ok (.nothing, { book with users := book.users.change username fun user =>
    ⟨password.getD user.password, admin.getD user.admin⟩ })

/-- A user goes, and every grant under his name with him. -/
def deleteUser (username : String) (book : Book) : Except Error (Told × Book) := do
  let _ ← book.find username
  .ok (.nothing, ⟨book.users.erase (· = username),
    fun kind => (book.grants kind).erase (·.2 = username)⟩)

/-- An administrator is entered where the name is not taken. -/
def createAdmin (username password : String) (book : Book) : Except Error (Told × Book) :=
  if (book.users.get? username).isSome then .ok (.nothing, book)
  else (book.createUser username password true).map fun result => (.nothing, result.2)

/-- A user is granted a level where he has none yet. -/
def createGrant (kind : Kind) (key username levelName : String) (book : Book) :
    Except Error (Told × Book) := do
  let level ← Level.ofName levelName
  let _ ← book.find username
  if h : (book.grants kind).get? (key, username) = none then
    .ok (.grant ⟨kind, key, username, level⟩,
      book.withGrants kind ((book.grants kind).add (key, username) level h))
  else .error (kind.conflict key username)

/-- A grant gets another level. -/
def updateGrant (kind : Kind) (key username levelName : String) (book : Book) :
    Except Error (Told × Book) := do
  let level ← Level.ofName levelName
  let _ ← book.findGrant kind key username
  .ok (.nothing, book.withGrants kind
    ((book.grants kind).change (key, username) fun _ => level))

/-- A grant is taken back. -/
def deleteGrant (kind : Kind) (key username : String) (book : Book) :
    Except Error (Told × Book) := do
  let _ ← book.findGrant kind key username
  .ok (.nothing, book.withGrants kind ((book.grants kind).erase (· = (key, username))))

/-- All grants on a registered model go. -/
def dropModelGrants (name : String) (book : Book) : Except Error (Told × Book) :=
  .ok (.count ((book.grants .model).entries.countP (·.1.1 = name)),
    book.withGrants .model ((book.grants .model).erase (·.1 = name)))

/-- The key of a grant on a registered model that has another name now. -/
def moved (old new : String) (key : String × String) : String × String :=
  if key.1 = old then (new, key.2) else key

/-- Whether some user holds grants under both of two names. -/
def Doubled (grants : FiniteMap (String × String) Level) (old new : String) : Prop :=
  old ≠ new ∧ ∃ entry ∈ grants.entries, entry.1.1 = old ∧ grants.get? (new, entry.1.2) ≠ none

instance (grants : FiniteMap (String × String) Level) (old new : String) :
    Decidable (Doubled grants old new) :=
  inferInstanceAs (Decidable (_ ∧ _))

/-- Where nobody holds grants under both names, the grants of the old one can have the new one. -/
theorem moved_apart {grants : FiniteMap (String × String) Level} {old new : String}
    (h : ¬ Doubled grants old new) : ∀ a ∈ grants.entries, ∀ b ∈ grants.entries,
      moved old new a.1 = moved old new b.1 → a.1 = b.1 := by
  -- A moved grant and one that was there would be two grants of one user.
  have happart : ∀ a ∈ grants.entries, ∀ b ∈ grants.entries, a.1.1 = old → b.1.1 ≠ old →
      (new, a.1.2) ≠ b.1 := by
    intro a ha b hb hold hother hsame
    refine h ⟨?_, a, ha, hold, ?_⟩
    · rintro rfl
      exact hother (congrArg Prod.fst hsame).symm
    · rw [hsame, FiniteMap.get?_eq_some_iff.2 hb]
      exact Option.some_ne_none _
  intro a ha b hb hsame
  unfold moved at hsame
  by_cases hold : a.1.1 = old
  · by_cases hother : b.1.1 = old
    · rw [if_pos hold, if_pos hother] at hsame
      exact Prod.ext (hold.trans hother.symm) (Prod.mk.inj hsame).2
    · rw [if_pos hold, if_neg hother] at hsame
      exact absurd hsame (happart a ha b hb hold hother)
  · by_cases hother : b.1.1 = old
    · rw [if_neg hold, if_pos hother] at hsame
      exact absurd hsame.symm (happart b hb a ha hother hold)
    · rwa [if_neg hold, if_neg hother] at hsame

/-- All grants on a registered model get another name, unless a user would hold two then. -/
def renameModelGrants (old new : String) (book : Book) : Except Error (Told × Book) :=
  if h : Doubled (book.grants .model) old new then .error (.conflict (.modelGrants new))
  else .ok (.count ((book.grants .model).entries.countP (·.1.1 = old)),
    book.withGrants .model ((book.grants .model).rekey (moved old new) (moved_apart h)))

/-- With a user go the keys under his name, and no others. -/
theorem deleteUser_leaves {username : String} {told : Told} {book next : Book}
    (h : book.deleteUser username = .ok (told, next)) :
    (∀ other, next.users.get? other = if other = username then none else book.users.get? other) ∧
      ∀ kind key other, (next.grants kind).get? (key, other) =
        if other = username then none else (book.grants kind).get? (key, other) := by
  obtain ⟨user, -, hleft⟩ := Error.bind_eq_ok_iff.1 h
  obtain rfl := (Prod.mk.inj (Except.ok.inj hleft)).2
  constructor
  · intro other
    rw [FiniteMap.get?_erase]
    simp only [decide_eq_true_eq]
  · intro kind key other
    rw [FiniteMap.get?_erase]
    simp only [decide_eq_true_eq]

/-- With a name go the grants under it, and nothing else. -/
theorem dropModelGrants_leaves {name : String} {told : Told} {book next : Book}
    (h : book.dropModelGrants name = .ok (told, next)) :
    next.users = book.users ∧ next.grants .experiment = book.grants .experiment ∧
      ∀ key username, (next.grants .model).get? (key, username) =
        if key = name then none else (book.grants .model).get? (key, username) := by
  obtain rfl := (Prod.mk.inj (Except.ok.inj h)).2
  refine ⟨rfl, rfl, ?_⟩
  intro key username
  rw [grants_withGrants, if_pos rfl, FiniteMap.get?_erase]
  simp only [decide_eq_true_eq]

/-- A call on the book. -/
def perform : Ledger.Call → Book → Except Error (Told × Book)
  | .createUser username password admin, book => book.createUser username password admin
  | .hasUser username, book => .ok (.flag (book.users.get? username).isSome, book)
  | .getUser username, book =>
    (book.find username).map fun user => (.user username user.admin, book)
  | .getDetails username, book =>
    (book.find username).map fun user => (.details username user.admin
      (book.grantsOf .experiment username) (book.grantsOf .model username), book)
  | .authenticate username password, book =>
    .ok (.flag ((book.users.get? username).any (password = ·.password)), book)
  | .updateUser username password admin, book => book.updateUser username password admin
  | .deleteUser username, book => book.deleteUser username
  | .createAdmin username password, book => book.createAdmin username password
  | .createGrant kind key username level, book => book.createGrant kind key username level
  | .getGrant kind key username, book =>
    (book.findGrant kind key username).map fun level => (.grant ⟨kind, key, username, level⟩, book)
  | .listGrants kind username, book => .ok (.grants (book.grantsOf kind username), book)
  | .updateGrant kind key username level, book => book.updateGrant kind key username level
  | .deleteGrant kind key username, book => book.deleteGrant kind key username
  | .dropModelGrants name, book => book.dropModelGrants name
  | .renameModelGrants old new, book => book.renameModelGrants old new

end Book

/-- What some calls tell in turn, and what they leave. A call that fails leaves things as they
were. -/
def replay {σ : Type} (perform : Ledger.Call → σ → Except Error (Book.Told × σ)) :
    List Ledger.Call → σ → List (Except Error Book.Told) × σ
  | [], state => ([], state)
  | call :: calls, state =>
    match perform call state with
    | .ok (told, next) =>
      let later := replay perform calls next
      (.ok told :: later.1, later.2)
    | .error e =>
      let later := replay perform calls state
      (.error e :: later.1, later.2)

end Gatehouse
