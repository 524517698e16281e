import Gatehouse.Proofs.Ledger.Models

/-!
# Renaming the grants of a registered model

The grants on a registered model come under another name by one statement, and what that leaves can
be said user by user: under the new name everybody holds the grant that he held under the old one,
or else the one that he held under the new name before. No user could hold both, because no two
grants are to one user on one model; so the statement fails exactly where somebody would, and then
it does nothing at all. Where the two names are one, nobody would, and there is nothing to do.

A grant stays the same row under its other name. It keeps its id, its place, its holder and its
level, also where the level is none that is known.

## Main definitions

* `Ledger.Rekeyed`: What the statement leaves where it succeeds.

## Theorems

* `Ledger.anyClash_iff`: Where the grants of a name would clash under another one.
* `Ledger.rowOf?_rekeyed`: The grant of a user under the new name.
* `Ledger.rekeyed_rows`: What becomes of the tables.
* `Ledger.renameModelGrants_exact`: When the statement succeeds, and what it leaves.
-/

namespace Gatehouse

namespace Ledger

/-- The grants on a registered model are under another name, and everything else is as it was. -/
structure Rekeyed (old new : String) (before after : Ledger) : Prop where
  accounts : after.accounts = before.accounts
  experiments : after.experimentGrants = before.experimentGrants
  /-- Rows keep their places, their ids, their holders and their levels, and no id is used up. -/
  rows : after.modelRows.map (fun grant => (grant.id, grant.holder, grant.level)) =
    before.modelRows.map fun grant => (grant.id, grant.holder, grant.level)
  issued : after.modelGrants.map (·.issued) = before.modelGrants.map (·.issued)
  /-- A user holds under the new name what he held under the old one, or else under the new one. -/
  held : ∀ holder, after.rowOf? new holder =
    ((before.rowOf? old holder).map ({ · with key := new })).or (before.rowOf? new holder)
  gone : old ≠ new → ∀ grant ∈ after.modelRows, grant.key ≠ old
  others : ∀ name, name ≠ old → name ≠ new →
    after.modelRows.filter (·.key = name) = before.modelRows.filter (·.key = name)

section Rows

variable {ledger : Ledger} {grants : Table Grant} {old new : String}

theorem renamed_self (name : String) (grant : Grant) : renamed name name grant = grant := by
  unfold renamed
  split
  · next hkey => rw [← hkey]
  · rfl

/-- Grants would clash under the other name where somebody holds one under both of two names. -/
theorem anyClash_iff
    (hdistinct : grants.rows.Pairwise fun a b => ¬ (a.key = b.key ∧ a.holder = b.holder)) :
    Grant.anyClash (grants.map (renamed old new)).rows = true ↔ old ≠ new ∧
      ∃ a ∈ grants.rows, ∃ b ∈ grants.rows, a.key = old ∧ b.key = new ∧ a.holder = b.holder := by
  by_cases hsame : old = new
  · -- Under the name that they have, the grants do not clash.
    subst hsame
    have hrows : (grants.map (renamed old old)).rows = grants.rows := by
      change grants.rows.map (renamed old old) = grants.rows
      rw [funext (renamed_self old)]
      exact List.map_id grants.rows
    rw [hrows, Grant.anyClash_of_pairwise hdistinct]
    exact ⟨fun hclash => absurd hclash Bool.false_ne_true, fun hapart => absurd rfl hapart.1⟩
  · exact (anyClash_renamed_iff hsame hdistinct).trans (and_iff_right hsame).symm

/-- The grant of a user under the new name. -/
theorem rowOf?_rekeyed (hgrants : ledger.modelGrants = some grants)
    (hdistinct : grants.rows.Pairwise fun a b => ¬ (a.key = b.key ∧ a.holder = b.holder))
    (hclash : Grant.anyClash (grants.map (renamed old new)).rows = false) (holder : Nat) :
    (ledger.withGrants .model (grants.map (renamed old new))).rowOf? new holder =
      ((ledger.rowOf? old holder).map ({ · with key := new })).or (ledger.rowOf? new holder) := by
  have hrows := modelRows_of_some hgrants
  have hbefore : ledger.modelRows.Pairwise fun a b => ¬ (a.key = b.key ∧ a.holder = b.holder) := by
    rwa [hrows]
  have hafter : (ledger.withGrants .model (grants.map (renamed old new))).modelRows =
      grants.rows.map (renamed old new) := rfl
  have hapart : (ledger.withGrants .model (grants.map (renamed old new))).modelRows.Pairwise
      fun a b => ¬ (a.key = b.key ∧ a.holder = b.holder) := Grant.anyClash_eq_false hclash
  -- On both sides there is one row at most, so they are compared row by row.
  refine Option.ext fun row => ?_
  rw [rowOf?_iff_of_distinct hapart, hafter, List.mem_map, Option.or_eq_some_iff,
    Option.map_eq_some_iff, Option.map_eq_none_iff, rowOf?_iff_of_distinct hbefore, hrows]
  constructor
  · rintro ⟨⟨grant, hgrant, rfl⟩, hkey, hholder⟩
    rw [renamed_holder] at hholder
    by_cases hold : grant.key = old
    · refine .inl ⟨grant, (rowOf?_iff_of_distinct hbefore).2 ⟨hrows ▸ hgrant, hold, hholder⟩, ?_⟩
      rw [renamed, if_pos hold]
    · rw [renamed, if_neg hold] at hkey ⊢
      refine .inr ⟨?_, hgrant, hkey, hholder⟩
      -- A grant under the old name would clash with this one.
      rw [rowOf?_eq_none_iff, hrows]
      intro other hother hname hsame
      refine Bool.eq_false_iff.1 hclash ((anyClash_iff hdistinct).2
        ⟨fun hnames => hold (hkey.trans hnames.symm), other, hother, grant, hgrant, hname, hkey,
          hsame.trans hholder.symm⟩)
  · rintro (⟨grant, hgrant, rfl⟩ | ⟨hnone, hrow, rfl, rfl⟩)
    · rcases (rowOf?_iff_of_distinct hbefore).1 hgrant with ⟨hmem, hkey, hholder⟩
      refine ⟨⟨grant, hrows ▸ hmem, ?_⟩, rfl, hholder⟩
      rw [renamed, if_pos hkey]
    · refine ⟨⟨row, hrow, ?_⟩, rfl, rfl⟩
      rw [rowOf?_eq_none_iff, hrows] at hnone
      exact if_neg fun hkey => hnone row hrow hkey rfl

/-- What becomes of the tables where no two grants clash. -/
theorem rekeyed_rows (hgrants : ledger.modelGrants = some grants)
    (hdistinct : grants.rows.Pairwise fun a b => ¬ (a.key = b.key ∧ a.holder = b.holder))
    (hclash : Grant.anyClash (grants.map (renamed old new)).rows = false) :
    Rekeyed old new ledger (ledger.withGrants .model (grants.map (renamed old new))) where
  accounts := rfl
  experiments := rfl
  rows := by
    rw [modelRows_of_some hgrants]
    change (grants.rows.map (renamed old new)).map _ = _
    rw [List.map_map]
    refine List.map_congr_left ?_
    intro grant _
    rw [Function.comp_apply, renamed_id, renamed_holder, renamed_level]
  issued := by
    rw [hgrants]
    rfl
  held := rowOf?_rekeyed hgrants hdistinct hclash
  gone hne grant hgrant hkey := by
    rcases List.mem_map.1 hgrant with ⟨earlier, -, rfl⟩
    rw [renamed_key] at hkey
    split at hkey
    · exact hne hkey.symm
    · next hother => exact hother hkey
  others name hold hnew := by
    rw [modelRows_of_some hgrants]
    change (grants.rows.map (renamed old new)).filter _ = _
    have hkeys : ((fun grant : Grant => decide (grant.key = name)) ∘ renamed old new) =
        fun grant => decide (grant.key = name) := by
      funext grant
      rw [Function.comp_apply, renamed_key]
      split
      · next hkey => rw [hkey, decide_eq_false hnew.symm, decide_eq_false hold.symm]
      · rfl
    rw [List.filter_map, hkeys]
    -- The rows of a third name stay as they are.
    refine (List.map_congr_left ?_).trans (List.map_id _)
    intro grant hgrant
    have hkey : grant.key = name := of_decide_eq_true (List.mem_filter.1 hgrant).2
    exact if_neg fun hsame => hold (hkey.symm.trans hsame)

end Rows

/-- Where no two grants are to one user on one model, the grants of a name come under another one
exactly if nobody holds grants under both, or if the names are one. Then it is told how many they
are, and everybody holds under the new name what he held under the old one, or else what he held
under the new one. Otherwise the failure is a conflict, and all tables are as they were. -/
theorem renameModelGrants_exact {ledger : Ledger} {grants : Table Grant}
    (hgrants : ledger.modelGrants = some grants)
    (hdistinct : grants.rows.Pairwise fun a b => ¬ (a.key = b.key ∧ a.holder = b.holder))
    (old new : String) :
    ((∃ count after, renameModelGrants old new ledger = .ok (count, after)) ↔
      old = new ∨ ¬ ledger.Shared old new) ∧
    (∀ count after, renameModelGrants old new ledger = .ok (count, after) →
      count = (ledger.modelRows.filter (·.key = old)).length ∧ Rekeyed old new ledger after) ∧
    (∀ e, renameModelGrants old new ledger = .error e →
      e = .conflict (.modelGrants new) ∧ (renameModelGrants old new).after ledger = ledger) := by
  -- The renamed rows clash exactly where somebody holds grants under both names.
  have hclash : Grant.anyClash (grants.map (renamed old new)).rows = true ↔
      old ≠ new ∧ ledger.Shared old new := by
    rw [Shared, modelRows_of_some hgrants]
    exact anyClash_iff hdistinct
  have heq := renameModelGrants_eq ledger old new
  rw [grantTable_eq_ok_iff.2 (show ledger.grants? .model = some grants from hgrants)] at heq
  change _ = ite _ _ _ at heq
  by_cases hshared : old ≠ new ∧ ledger.Shared old new
  · rw [if_pos (hclash.2 hshared)] at heq
    refine ⟨⟨?_, ?_⟩, ?_, ?_⟩
    · rintro ⟨count, after, hok⟩
      cases heq.symm.trans hok
    · rintro (hsame | hapart)
      · exact absurd hsame hshared.1
      · exact absurd hshared.2 hapart
    · intro count after hok
      cases heq.symm.trans hok
    · intro e herror
      rw [Statement.after, heq]
      exact ⟨Except.error.inj (herror.symm.trans heq), rfl⟩
  · have hfree : Grant.anyClash (grants.map (renamed old new)).rows = false :=
      Bool.eq_false_iff.2 (mt hclash.1 hshared)
    rw [if_neg (Bool.eq_false_iff.1 hfree)] at heq
    refine ⟨⟨?_, ?_⟩, ?_, ?_⟩
    · intro _
      by_cases hsame : old = new
      · exact .inl hsame
      · exact .inr fun h => hshared ⟨hsame, h⟩
    · intro _
      exact ⟨_, _, heq⟩
    · intro count after hok
      obtain ⟨hcount, hafter⟩ := Prod.mk.inj (Except.ok.inj (heq.symm.trans hok))
      rw [← hcount, ← hafter, modelRows_of_some hgrants]
      exact ⟨List.countP_eq_length_filter, rekeyed_rows hgrants hdistinct hfree⟩
    · intro e herror
      cases heq.symm.trans herror

/-- Two users hold grants on the model "m", one of whom holds another on "k", and a third on "n". -/
def sharedModels : Table Grant where
  rows := [⟨1, "m", 1, Level.manage.name⟩, ⟨2, "n", 2, Level.read.name⟩,
    ⟨3, "m", 3, Level.edit.name⟩, ⟨4, "k", 3, Level.read.name⟩]
  issued := 4

/-- The grants on "m" are moved to "n", which others hold, and not to "k", which one of their
holders holds too. -/
theorem renameModelGrants_exact_shared :
    let ledger := fresh.withGrants .model sharedModels
    (∃ after, renameModelGrants "m" "n" ledger = .ok (2, after) ∧ Rekeyed "m" "n" ledger after) ∧
    (∃ e, renameModelGrants "m" "k" ledger = .error e ∧ e = .conflict (.modelGrants "k")) := by
  have happart : sharedModels.rows.Pairwise
      fun a b => ¬ (a.key = b.key ∧ a.holder = b.holder) := by decide
  have hgrants : (fresh.withGrants .model sharedModels).modelGrants = some sharedModels := rfl
  constructor
  · exact ⟨_, rfl, ((renameModelGrants_exact hgrants happart "m" "n").2.1 _ _ rfl).2⟩
  · exact ⟨_, rfl, ((renameModelGrants_exact hgrants happart "m" "k").2.2 _ rfl).1⟩

end Ledger

end Gatehouse
