import Mathlib.Data.Finset.Lattice.Lemmas
import Mathlib.Data.Finset.Range

namespace SChatCore.Attach

/-! One transfer of `count` chunks, as sets of indexes. What landed before the
head is only counted when the head arrives; afterwards only the chunks that
arrive again are marked. -/

inductive Arrival
  | head
  | data (index : Nat)
  | pad
  deriving DecidableEq

inductive Phase
  | orphan (stored : Finset Nat)
  | pending (stored marked : Finset Nat)
  | complete

def Phase.step (count : Nat) : Phase → Arrival → Phase
  | .orphan stored, .head => if stored = Finset.range count then .complete else .pending stored ∅
  | .orphan stored, .data index => .orphan (insert index stored)
  | .pending stored marked, .data index =>
    if insert index marked = Finset.range count then .complete
    else .pending (insert index stored) (insert index marked)
  | phase, _ => phase

def Phase.run (count : Nat) (phase : Phase) (arrivals : List Arrival) : Phase :=
  arrivals.foldl (Phase.step count) phase

def indexes : List Arrival → Finset Nat
  | [] => ∅
  | .data index :: rest => insert index (indexes rest)
  | .head :: rest | .pad :: rest => indexes rest

theorem mem_indexes : index ∈ indexes arrivals ↔ Arrival.data index ∈ arrivals := by
  induction arrivals with
  | nil => simp [indexes]
  | cons arrival rest ih =>
    cases arrival with
    | head | data other | pad => simp [indexes, ih]

namespace Phase

theorem run_cons (phase : Phase) (arrival : Arrival) (rest : List Arrival) :
    run count phase (arrival :: rest) = run count (phase.step count arrival) rest :=
  rfl

theorem run_complete (arrivals : List Arrival) : run count .complete arrivals = .complete := by
  induction arrivals with
  | nil => rfl
  | cons arrival rest ih =>
    cases arrival with
    | head => exact ih
    | data index => exact ih
    | pad => exact ih

theorem run_orphan (headless : .head ∉ arrivals) (stored : Finset Nat) :
    run count (.orphan stored) arrivals = .orphan (stored ∪ indexes arrivals) := by
  induction arrivals generalizing stored with
  | nil => simp [run, indexes]
  | cons arrival rest ih =>
    rw [List.mem_cons, not_or] at headless
    cases arrival with
    | head => exact absurd rfl headless.1
    | data index =>
      refine (ih headless.2 (insert index stored)).trans ?_
      rw [indexes, Finset.insert_union, Finset.union_insert]
    | pad => exact ih headless.2 stored

theorem run_pending (unfinished : marked ≠ Finset.range count)
    (bounded : marked ∪ indexes arrivals ⊆ Finset.range count) (stored : Finset Nat) :
    run count (.pending stored marked) arrivals = .complete ↔
      marked ∪ indexes arrivals = Finset.range count := by
  induction arrivals generalizing stored marked with
  | nil => simpa [run, indexes] using unfinished
  | cons arrival rest ih =>
    cases arrival with
    | head => exact ih unfinished bounded stored
    | pad => exact ih unfinished bounded stored
    | data index =>
      have shift : marked ∪ indexes (.data index :: rest) = insert index marked ∪ indexes rest := by
        rw [indexes, Finset.insert_union, Finset.union_insert]
      rw [shift] at bounded ⊢
      by_cases full : insert index marked = Finset.range count
      · have next : step count (.pending stored marked) (.data index) =
            .complete := if_pos full
        rw [run_cons, next]
        have reached : insert index marked ∪ indexes rest =
            Finset.range count :=
          bounded.antisymm (full ▸ Finset.subset_union_left)
        exact iff_of_true (run_complete rest) reached
      · have next : step count (.pending stored marked) (.data index) =
            .pending (insert index stored) (insert index marked) :=
          if_neg full
        rw [run_cons, next]
        exact ih full bounded (insert index stored)

theorem run_eq_complete_iff (positive : 0 < count) (headless : .head ∉ before)
    (bounded : indexes after ⊆ Finset.range count) :
    run count (.orphan ∅) (before ++ .head :: after) = .complete ↔
      indexes before = Finset.range count ∨ indexes after = Finset.range count := by
  have nonempty : ∅ ≠ Finset.range count := by
    intro empty
    have : (0 : Nat) ∈ (∅ : Finset Nat) := empty ▸ Finset.mem_range.mpr positive
    exact Finset.notMem_empty 0 this
  rw [run, List.foldl_append, ← run, ← run, run_cons, run_orphan headless, Finset.empty_union]
  by_cases full : indexes before = Finset.range count
  · rw [show step count (.orphan (indexes before)) .head = .complete from
      if_pos full]
    exact iff_of_true (run_complete after) (.inl full)
  · rw [show step count (.orphan (indexes before)) .head =
      .pending (indexes before) ∅ from if_neg full]
    rw [run_pending nonempty (by rwa [Finset.empty_union]), Finset.empty_union]
    exact ⟨.inr, fun either => either.resolve_left full⟩

end Phase

end SChatCore.Attach
