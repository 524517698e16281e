import Gatehouse.Ledger.Installation

/-!
# Migrations

At any time a database is at a stage: it has the tables and indexes that the first so many
migrations create, and nothing else. Each migration leads from its stage to the next one, and back
again without a trace; nothing more is needed of it. A move then leads from stage to stage whatever
number it is given, and so does a history of moves. None of them can fail, and wherever they end
everything can be brought up to date from there. Where it is up to date nothing is done.

The same moves can be made without regard to what tables and indexes look like, and come to the
same.

## Main definitions

* `Script.migration`, `Script.tables`, `Script.indexes`: What a migration creates.
* `Installation.stage`: A database with the first so many migrations applied.
* `Installation.next`: The stage to which a move leads.
* `Installation.UpTo`: What a database has at a stage.

## Theorems

* `foldlM_drop`, `foldlM_take_reverse`: Going through stages in both directions.
* `Installation.apply_stage`, `Installation.revert_stage`: One migration.
* `Installation.move_stage`, `Installation.database_move_stage`: One move.
* `Installation.upTo_stage`: What there is at a stage.
* `Installation.migrated`: Any moves.
-/

namespace Gatehouse

section Stages

variable {m : Type → Type} [Monad m] [LawfulMonad m] {α β : Type} {items : List β}

/-- Items that each lead from a stage to the next one, taken from a stage on. -/
theorem foldlM_drop (stage : Nat → α) (apply : α → β → m α)
    (h : ∀ k (hk : k < items.length), apply (stage k) items[k] = pure (stage (k + 1)))
    {k : Nat} (hk : k ≤ items.length) (count : Nat) :
    ((items.drop k).take count).foldlM apply (stage k) =
      pure (stage (min (k + count) items.length)) := by
  induction count generalizing k with
  | zero =>
      rw [Nat.add_zero, Nat.min_eq_left hk]
      rfl
  | succ count ih =>
      by_cases hmore : k < items.length
      · rw [List.drop_eq_getElem_cons hmore, List.take_succ_cons, List.foldlM_cons,
          h k hmore, pure_bind, ih hmore]
        congr 2
        omega
      · -- Behind the last item there is nothing to take.
        rw [List.drop_eq_nil_of_le (by omega), Nat.min_eq_right (by omega),
          show k = items.length by omega]
        rfl

/-- Items that each lead back to a stage from the next one, the last one first. -/
theorem foldlM_take_reverse (stage : Nat → α) (revert : α → β → m α)
    (h : ∀ k (hk : k < items.length), revert (stage (k + 1)) items[k] = pure (stage k))
    {k : Nat} (hk : k ≤ items.length) (count : Nat) :
    ((items.take k).reverse.take count).foldlM revert (stage k) = pure (stage (k - count)) := by
  induction k generalizing count with
  | zero =>
      rw [List.take_zero, List.reverse_nil, List.take_nil, Nat.zero_sub]
      rfl
  | succ k ih =>
      cases count with
      | zero => rfl
      | succ count =>
          -- The last of the first items is the one to be taken back first.
          rw [List.take_succ_eq_append_getElem hk, List.reverse_append, List.reverse_singleton,
            List.singleton_append, List.take_succ_cons, List.foldlM_cons,
            h k hk, pure_bind, ih (Nat.le_of_succ_le hk), Nat.succ_sub_succ]

section Names

variable {name : β → String} (h : (items.map name).Nodup) (k : Nat)

include h

/-- Of items with names of their own those that lie behind have none of the names in front. -/
theorem name_notMem_take {item : β} (hitem : item ∈ items.drop k) :
    name item ∉ (items.take k).map name := by
  rw [← List.take_append_drop k items, List.map_append, List.nodup_append] at h
  intro hfront
  exact h.2.2 _ hfront _ (List.mem_map_of_mem hitem) rfl

theorem filter_contains_take :
    (items.filter fun item => ((items.take k).map name).contains (name item)) = items.take k := by
  have hsplit := congrArg (List.filter fun item => ((items.take k).map name).contains (name item))
    (List.take_append_drop k items)
  rw [← hsplit, List.filter_append, List.filter_eq_self.2, List.filter_eq_nil_iff.2,
    List.append_nil]
  · intro item hitem
    rw [List.contains_iff_mem]
    exact name_notMem_take h k hitem
  · intro item hitem
    rw [List.contains_iff_mem]
    exact List.mem_map_of_mem hitem

theorem filter_not_contains_take :
    (items.filter fun item => !((items.take k).map name).contains (name item)) = items.drop k := by
  have hsplit := congrArg (List.filter fun item => !((items.take k).map name).contains (name item))
    (List.take_append_drop k items)
  rw [← hsplit, List.filter_append, List.filter_eq_nil_iff.2, List.filter_eq_self.2,
    List.nil_append]
  · intro item hitem
    rw [Bool.not_eq_true', List.contains_eq_mem, decide_eq_false_iff_not]
    exact name_notMem_take h k hitem
  · intro item hitem
    rw [Bool.not_eq_true', List.contains_eq_mem, decide_eq_false_iff_not]
    exact not_not_intro (List.mem_map_of_mem hitem)

end Names

end Stages

theorem Database.atMost_eq {α : Type} (count : Option Nat) (items : List α) :
    atMost count items = items.take (count.getD items.length) := by
  cases count with
  | none => exact (List.take_length).symm
  | some n => rfl

namespace Script

/-- The table that an alteration creates. -/
def table? : Alteration → Option TableShape
  | .createTable shape => some shape
  | _ => none

/-- The index that an alteration creates. -/
def index? : Alteration → Option Index
  | .createIndex index => some index
  | _ => none

/-- What an alteration creates, whatever it looks like. -/
def creation? : Alteration → Option Creation
  | .createTable shape => some (.table shape.name)
  | .createIndex index => some (.index index.name index.on)
  | _ => none

/-- The tables that a migration creates. -/
def tables (script : Script) : List TableShape := script.up.filterMap table?

/-- The indexes that a migration creates. -/
def indexes (script : Script) : List Index := script.up.filterMap index?

/-- The migration without the looks of what it creates. -/
def migration (script : Script) : Migration := ⟨script.name, script.up.filterMap creation?⟩

theorem mem_tables {script : Script} {shape : TableShape} :
    shape ∈ script.tables ↔ .createTable shape ∈ script.up := by
  rw [tables, List.mem_filterMap]
  constructor
  · rintro ⟨alteration, hmem, hshape⟩
    cases alteration with
    | createTable other =>
        obtain rfl := Option.some.inj hshape
        exact hmem
    | _ => exact nomatch hshape
  · intro hmem
    exact ⟨_, hmem, rfl⟩

theorem mem_indexes {script : Script} {index : Index} :
    index ∈ script.indexes ↔ .createIndex index ∈ script.up := by
  rw [indexes, List.mem_filterMap]
  constructor
  · rintro ⟨alteration, hmem, hindex⟩
    cases alteration with
    | createIndex other =>
        obtain rfl := Option.some.inj hindex
        exact hmem
    | _ => exact nomatch hindex
  · intro hmem
    exact ⟨_, hmem, rfl⟩

end Script

namespace Ledger

theorem hasTable_withTable (ledger : Ledger) (name other : TableName) :
    (ledger.withTable name).hasTable other = true ↔ ledger.hasTable other = true ∨ name = other := by
  cases name <;> cases other <;> simp [withTable, hasTable]

/-- Of the tables of some shapes those are there that were there before, and those. -/
theorem hasTable_foldl (shapes : List TableShape) (ledger : Ledger) (name : TableName) :
    (shapes.foldl (fun ledger shape => ledger.withTable shape.name) ledger).hasTable name = true ↔
      ledger.hasTable name = true ∨ ∃ shape ∈ shapes, shape.name = name := by
  induction shapes generalizing ledger with
  | nil => simp
  | cons shape shapes ih =>
      rw [List.foldl_cons, ih, hasTable_withTable, or_assoc]
      simp only [List.mem_cons, exists_eq_or_imp]

end Ledger

theorem scripts_nodup : (scripts.map (·.name)).Nodup := by decide

/-- The migrations are those that are known without their looks. -/
theorem migrations_eq : migrations = scripts.map Script.migration := rfl

namespace Installation

/-- A database with the first so many migrations applied: it has what they create, and no rows. -/
def stage (k : Nat) : Installation where
  applied := (scripts.take k).map (·.name)
  layout := ⟨(scripts.take k).flatMap (·.tables), (scripts.take k).flatMap (·.indexes)⟩
  ledger := ((scripts.take k).flatMap (·.tables)).foldl (fun ledger shape =>
    ledger.withTable shape.name) .bare

/-- A migration creates what it creates where none of it is there. -/
theorem apply_stage : ∀ k (hk : k < scripts.length),
    (stage k).apply scripts[k] = .ok (stage (k + 1))
  | 0, _ => rfl
  | 1, _ => rfl
  | k + 2, hk => absurd hk (Nat.not_lt.2 (Nat.le_add_left 2 k))

/-- Reverted, it leaves nothing of it, and nothing else is gone. -/
theorem revert_stage : ∀ k (hk : k < scripts.length),
    (stage (k + 1)).revert scripts[k] = .ok (stage k)
  | 0, _ => rfl
  | 1, _ => rfl
  | k + 2, hk => absurd hk (Nat.not_lt.2 (Nat.le_add_left 2 k))

theorem database_apply_stage : ∀ k (hk : k < migrations.length),
    (stage k).database.apply migrations[k] = (stage (k + 1)).database
  | 0, _ => rfl
  | 1, _ => rfl
  | k + 2, hk => absurd hk (Nat.not_lt.2 (Nat.le_add_left 2 k))

theorem database_revert_stage : ∀ k (hk : k < migrations.length),
    (stage (k + 1)).database.revert migrations[k] = (stage k).database
  | 0, _ => rfl
  | 1, _ => rfl
  | k + 2, hk => absurd hk (Nat.not_lt.2 (Nat.le_add_left 2 k))

/-- The stage to which a move leads. -/
def next (k : Nat) : Database.Move → Nat
  | .up count => min (k + count.getD scripts.length) scripts.length
  | .down count => k - count.getD k
  | .fresh | .refresh => scripts.length
  | .reset => 0

theorem next_le {k : Nat} (hk : k ≤ scripts.length) (move : Database.Move) :
    next k move ≤ scripts.length := by
  cases move with
  | up => exact Nat.min_le_right _ _
  | down => exact Nat.le_trans (Nat.sub_le _ _) hk
  | fresh | refresh => exact Nat.le_refl _
  | reset => exact Nat.zero_le _

section Moves

variable {k : Nat} (hk : k ≤ scripts.length)

include hk

/-- The next stage upwards is the same whether all migrations are counted or those that are left. -/
theorem min_getD (count : Option Nat) : min (k + count.getD (scripts.length - k)) scripts.length =
    min (k + count.getD scripts.length) scripts.length := by
  cases count with
  | none =>
      rw [Option.getD_none, Option.getD_none]
      omega
  | some n => rfl

theorem up_stage (count : Option Nat) :
    (stage k).up count = .ok (stage (next k (.up count))) := by
  have hpending : (stage k).pending = scripts.drop k := filter_not_contains_take scripts_nodup k
  rw [up, hpending, Database.atMost_eq, List.length_drop, foldlM_drop stage apply apply_stage hk,
    min_getD hk]
  rfl

theorem down_stage (count : Option Nat) :
    (stage k).down count = .ok (stage (next k (.down count))) := by
  have hrevertible : (stage k).revertible = (scripts.take k).reverse :=
    congrArg List.reverse (filter_contains_take scripts_nodup k)
  rw [down, hrevertible, Database.atMost_eq, List.length_reverse, List.length_take,
    Nat.min_eq_left hk, foldlM_take_reverse stage revert revert_stage hk]
  rfl

theorem move_stage (move : Database.Move) :
    (stage k).move move = .ok (stage (next k move)) := by
  cases move with
  | up count => exact up_stage hk count
  | down count => exact down_stage hk count
  | fresh => exact up_stage (Nat.zero_le _) none
  | refresh =>
      change ((stage k).down none >>= up none) = _
      -- Going all the way down leads to the empty stage.
      rw [down_stage hk]
      change (stage (k - k)).up none = _
      rw [Nat.sub_self]
      exact up_stage (Nat.zero_le _) none
  | reset =>
      change (stage k).down none = _
      rw [down_stage hk]
      change Except.ok (stage (k - k)) = _
      rw [Nat.sub_self]
      rfl

theorem database_up_stage (count : Option Nat) :
    (stage k).database.up count = (stage (next k (.up count))).database := by
  -- Those with other names than the first ones are the ones behind these, for no name stands twice.
  have hpending : (stage k).database.pending = migrations.drop k := by
    have hnames := filter_not_contains_take (show (migrations.map (·.name)).Nodup from
      scripts_nodup) k
    rw [List.map_take] at hnames
    rw [Database.pending, database, stage, List.map_take]
    exact hnames
  have hup := foldlM_drop (fun k => (stage k).database)
    (fun db migration => (pure (Database.apply db migration) : Id Database))
    database_apply_stage hk (count.getD (migrations.drop k).length)
  -- Without regard to the layout no migration can fail, so the run is a fold.
  rw [List.foldlM_pure] at hup
  rw [Database.up, hpending, Database.atMost_eq]
  refine hup.trans ?_
  rw [List.length_drop]
  exact congrArg (fun k => (stage k).database) (min_getD hk count)

theorem database_down_stage (count : Option Nat) :
    (stage k).database.down count = (stage (next k (.down count))).database := by
  -- Those with the names of the first ones are these, for no name stands twice.
  have hrevertible : (stage k).database.revertible = (migrations.take k).reverse := by
    have hnames := filter_contains_take (show (migrations.map (·.name)).Nodup from
      scripts_nodup) k
    rw [List.map_take] at hnames
    rw [Database.revertible, database, stage, List.map_take]
    exact congrArg List.reverse hnames
  have hlength : (migrations.take k).reverse.length = k := by
    rw [List.length_reverse, List.length_take]
    exact Nat.min_eq_left hk
  have hdown := foldlM_take_reverse (fun k => (stage k).database)
    (fun db migration => (pure (Database.revert db migration) : Id Database))
    database_revert_stage hk (count.getD (migrations.take k).reverse.length)
  rw [List.foldlM_pure] at hdown
  rw [Database.down, hrevertible, Database.atMost_eq]
  refine hdown.trans ?_
  rw [hlength]
  rfl

/-- The same move is made without regard to what tables and indexes look like. -/
theorem database_move_stage (move : Database.Move) :
    (stage k).database.move move = (stage (next k move)).database := by
  cases move with
  | up count => exact database_up_stage hk count
  | down count => exact database_down_stage hk count
  | fresh => exact database_up_stage (Nat.zero_le _) none
  | refresh =>
      change ((stage k).database.down none).up none = _
      rw [database_down_stage hk]
      change ((stage (k - k)).database).up none = _
      rw [Nat.sub_self]
      exact database_up_stage (Nat.zero_le _) none
  | reset =>
      change (stage k).database.down none = _
      rw [database_down_stage hk]
      change (stage (k - k)).database = _
      rw [Nat.sub_self]
      rfl

end Moves

/-- A history leads from stage to stage. -/
theorem moves_stage (moves : List Database.Move) {k : Nat} (hk : k ≤ scripts.length) :
    ∃ n ≤ scripts.length, moves.foldlM move (stage k) = .ok (stage n) ∧
      moves.foldl Database.move (stage k).database = (stage n).database := by
  induction moves generalizing k with
  | nil => exact ⟨k, hk, rfl, rfl⟩
  | cons first later ih =>
      obtain ⟨n, hn, hrun, hsame⟩ := ih (next_le hk first)
      refine ⟨n, hn, ?_, ?_⟩
      · rw [List.foldlM_cons, move_stage hk]
        exact hrun
      · rw [List.foldl_cons, database_move_stage hk]
        exact hsame

/-- What a database has at a stage: a number of migrations are applied, the first ones, and there
are the tables and the indexes that they create, and no others. -/
structure UpTo (n : Nat) (installation : Installation) : Prop where
  applied : installation.applied = (scripts.map (·.name)).take n
  tables : ∀ shape, shape ∈ installation.layout.tables ↔ ∃ script ∈ scripts,
    script.name ∈ installation.applied ∧ .createTable shape ∈ script.up
  indexes : ∀ index, index ∈ installation.layout.indexes ↔ ∃ script ∈ scripts,
    script.name ∈ installation.applied ∧ .createIndex index ∈ script.up
  /-- A table has rows, if any, where it is there. -/
  rows : ∀ name, installation.ledger.hasTable name = true ↔
    ∃ shape ∈ installation.layout.tables, shape.name = name

/-- A migration is among the first ones if it is applied. -/
theorem mem_take_iff {k : Nat} {script : Script} : script ∈ scripts.take k ↔
    script ∈ scripts ∧ script.name ∈ (stage k).applied := by
  rw [← filter_contains_take scripts_nodup, List.mem_filter, List.contains_iff_mem]
  rfl

theorem upTo_stage (k : Nat) : UpTo k (stage k) where
  applied := List.map_take
  tables shape := by
    change shape ∈ (scripts.take k).flatMap (·.tables) ↔ _
    rw [List.mem_flatMap]
    refine exists_congr fun script => ?_
    rw [mem_take_iff, Script.mem_tables, and_assoc]
  indexes index := by
    change index ∈ (scripts.take k).flatMap (·.indexes) ↔ _
    rw [List.mem_flatMap]
    refine exists_congr fun script => ?_
    rw [mem_take_iff, Script.mem_indexes, and_assoc]
  rows name := by
    refine (Ledger.hasTable_foldl _ .bare name).trans (or_iff_right ?_)
    cases name <;> exact Bool.false_ne_true

/-- The keys that keep names of users, and grants, from clashing. -/
def keysApart : List (TableName × List String) :=
  [(.accounts, ["username"]), (.experimentGrants, ["experiment_id", "user_id"]),
    (.modelGrants, ["name", "user_id"])]

section Applied

variable {installation : Installation}

/-- Where all migrations are applied none is left. -/
theorem up_of_applied (h : ∀ script ∈ scripts, script.name ∈ installation.applied)
    (count : Option Nat) : installation.up count = .ok installation := by
  have hpending : installation.pending = [] := by
    rw [pending, List.filter_eq_nil_iff]
    intro script hscript
    rw [Bool.not_eq_true', List.contains_eq_mem, decide_eq_false_iff_not]
    exact not_not_intro (h script hscript)
  rw [up, hpending, Database.atMost_eq, List.take_nil]
  rfl

theorem database_up_of_applied (h : ∀ script ∈ scripts, script.name ∈ installation.applied)
    (count : Option Nat) : installation.database.up count = installation.database := by
  have hpending : installation.database.pending = [] := by
    rw [Database.pending, List.filter_eq_nil_iff, migrations_eq]
    intro migration hmigration
    rcases List.mem_map.1 hmigration with ⟨script, hscript, rfl⟩
    rw [Bool.not_eq_true', List.contains_eq_mem, decide_eq_false_iff_not]
    exact not_not_intro (h script hscript)
  rw [Database.up, hpending, Database.atMost_eq, List.take_nil]
  rfl

end Applied

/-- Any history of moves from a database without anything in it succeeds. It ends where a number of
migrations are applied, the first ones, with the tables and the indexes that these create and no
others. From there everything can be brought up to date, and then no two users share a name, and no
two grants their user and their resource. Where all migrations are applied nothing is done to bring
anything up to date, so all rows stay. And all of this is also what is done without regard to the
looks of tables and indexes. -/
theorem migrated :
    (∀ moves : List Database.Move, ∃ installation full : Installation, ∃ n ≤ scripts.length,
      moves.foldlM move empty = .ok installation ∧ UpTo n installation ∧
      moves.foldl Database.move Database.empty = installation.database ∧
      installation.up none = .ok full ∧ UpTo scripts.length full ∧
      full.layout.uniqueKeys = keysApart) ∧
    ∀ installation : Installation, (∀ script ∈ scripts, script.name ∈ installation.applied) →
      ∀ count, installation.up count = .ok installation ∧
        installation.database.up count = installation.database := by
  constructor
  · intro moves
    obtain ⟨n, hn, hrun, hsame⟩ := moves_stage moves (Nat.zero_le scripts.length)
    have hlast : next n (.up none) = scripts.length := Nat.min_eq_right (Nat.le_add_left _ _)
    -- Any moves lead from stage to stage, and from each of these all that is left can be applied.
    refine ⟨stage n, stage scripts.length, n, hn, hrun, upTo_stage n, hsame, ?_, upTo_stage _, rfl⟩
    rw [up_stage hn, hlast]
  · intro installation happlied count
    -- Nothing is pending.
    exact ⟨up_of_applied happlied count, database_up_of_applied happlied count⟩

/-- A database with a user, in which nothing is left to be brought up to date. -/
def inhabited : Installation where
  applied := scripts.map (·.name)
  layout := (stage 2).layout
  ledger := { Ledger.fresh with accounts := some ⟨[⟨1, "ada", .password "secret", false⟩], 1⟩ }

/-- Moves down and up again lead to all the keys, and the user stays when they are made again. -/
theorem migrated_inhabited :
    (∃ installation full : Installation, ∃ n ≤ scripts.length,
      [.up (some 1), .fresh, .down (some 1), .up none, .reset].foldlM move empty =
        .ok installation ∧ UpTo n installation ∧ installation.up none = .ok full ∧
      full.layout.uniqueKeys = keysApart) ∧
    (∀ script ∈ scripts, script.name ∈ inhabited.applied) ∧
      inhabited.up none = .ok inhabited := by
  have happlied : ∀ script ∈ scripts, script.name ∈ inhabited.applied :=
    fun _ => List.mem_map_of_mem
  obtain ⟨installation, full, n, hn, hrun, hupTo, -, hup, -, hkeys⟩ :=
    migrated.1 [.up (some 1), .fresh, .down (some 1), .up none, .reset]
  exact ⟨⟨installation, full, n, hn, hrun, hupTo, hup, hkeys⟩, happlied,
    (migrated.2 inhabited happlied none).1⟩

end Installation

end Gatehouse
