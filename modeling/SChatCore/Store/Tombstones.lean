import SChatCore.Data.Newest
import SChatCore.Store.Relationships

namespace SChatCore.Store

open Data

/-! Which tombstones a pruning leaves. -/

structure Pruned (rel : RelId) (now : Nat)
    (before after : Table TombstoneRow.key) : Prop where
  live : ∀ row ∈ after, row.relId = rel → now < row.expiry
  count : (after.select fun row => row.relId = rel).length =
    min Db.tombstoneCap (before.select fun row =>
      row.relId = rel && decide (now < row.expiry)).length
  subset : ∀ row ∈ after, row ∈ before
  latest : ∀ row ∈ before, row.relId = rel → now < row.expiry →
    row ∉ after → ∀ kept ∈ after, kept.relId = rel → row.expiry ≤ kept.expiry
  others : Table.SameBut TombstoneRow.relId rel before after

theorem trims_pruneTombstones (rel : RelId) (now : Nat) (db : Db) :
    Table.Trims (fun row => row.relId = rel) TombstoneRow.expiry Db.tombstoneCap
      (db.tombstones.delete fun row => row.relId = rel && row.expiry ≤ now)
      (db.pruneTombstones rel now).tombstones := by
  refine Table.trims_outside (fun first second same => ?_) _
  rw [TombstoneRow.key, TombstoneRow.key, same, of_decide_eq_true first, of_decide_eq_true second]

/-- Pruning leaves as many unexpired tombstones as the cap allows, the latest
to expire, and touches no other relationship's. -/
theorem pruneTombstones_exact (rel : RelId) (now : Nat) (db : Db) : Pruned rel now db.tombstones
      (db.pruneTombstones rel now).tombstones := by
  obtain ⟨subset, -, count, highest⟩ := trims_pruneTombstones rel now db
  have unexpired : ((db.tombstones.delete fun row =>
      row.relId = rel && row.expiry ≤ now).select fun row => row.relId = rel) =
      db.tombstones.select fun row =>
        row.relId = rel && decide (now < row.expiry) := by
    refine List.filter_filter.trans (List.filter_congr fun row _ => ?_)
    by_cases own : row.relId = rel <;> simp [own, ← decide_not]
  refine ⟨?_, count.trans (by rw [unexpired]), ?_, ?_, ?_⟩
  · intro row mem own
    have kept := (Table.mem_delete.mp (subset row mem)).2
    simpa [own] using kept
  · exact fun row mem => (Table.mem_delete.mp (subset row mem)).1
  · intro row mem own late gone kept keptMember keptOwn
    refine highest row (Table.mem_delete.mpr ⟨mem, ?_⟩)
      (decide_eq_true own) gone kept keptMember (decide_eq_true keptOwn)
    simpa using fun _ => late
  · refine (Table.SameBut.delete fun row _ hit => ?_).trans
      (Table.SameBut.delete fun row _ hit => ?_)
    · exact of_decide_eq_true (Bool.and_eq_true_iff.mp hit).1
    · exact of_decide_eq_true (Bool.and_eq_true_iff.mp hit).1

end SChatCore.Store
