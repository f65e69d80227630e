import Mathlib.Algebra.BigOperators.Group.Finset.Basic
import Mathlib.Algebra.Order.BigOperators.Group.Finset
import Mathlib.Data.Fintype.Basic

namespace SChatCore.Data

/-! Gathering the pieces of a whole that arrive in any order, any number of
times, in a place that holds up to `cap`. What exceeds it empties the place,
and so does the piece that makes it whole. -/

variable {ι : Type*} [Fintype ι] [DecidableEq ι] (weight : ι → Nat) (cap : Nat)

def gather (held : Finset ι) (piece : ι) : Bool × Finset ι :=
  if cap < ∑ other ∈ held, weight other + weight piece then (false, ∅)
  else if insert piece held = Finset.univ then (true, ∅)
  else (false, insert piece held)

/-- One of the arrivals makes the pieces whole. -/
def finishes : List ι → Finset ι → Bool
  | [], _ => false
  | piece :: rest, held =>
    (gather weight cap held piece).1 || finishes rest (gather weight cap held piece).2

/-- A piece fits in place of any other one. -/
def Slack : Prop :=
  ∀ first second, first ≠ second → ∑ piece, weight piece + weight first ≤ cap + weight second

variable {weight cap}

theorem gather_unfinished (some : Nonempty ι) (piece : ι) :
    (gather weight cap held piece).2 ≠ Finset.univ := by
  have empty : (∅ : Finset ι) ≠ Finset.univ := fun whole => Finset.univ_nonempty.ne_empty whole.symm
  unfold gather
  split
  · exact empty
  split
  · exact empty
  · assumption

theorem sum_add_le_total {piece : ι} (missing : piece ∉ held) :
    ∑ other ∈ held, weight other + weight piece ≤ ∑ other, weight other := by
  rw [Nat.add_comm, ← Finset.sum_insert missing]
  exact Finset.sum_le_univ_sum_of_nonneg fun _ => Nat.zero_le _

section

variable (fits : ∑ piece, weight piece ≤ cap)
include fits

theorem gather_of_missing (missing : piece ∉ held) : gather weight cap held piece =
      if insert piece held = Finset.univ then (true, ∅)
      else (false, insert piece held) :=
  if_neg (not_lt.mpr ((sum_add_le_total missing).trans fits))

/-- With slack nothing exceeds the cap while a piece is missing. -/
theorem sum_add_le_cap (slack : Slack weight cap) (part : held ≠ Finset.univ) (piece : ι) :
    ∑ other ∈ held, weight other + weight piece ≤ cap := by
  obtain ⟨missing, out⟩ : ∃ missing, missing ∉ held := by
    by_contra every
    exact part (Finset.eq_univ_iff_forall.mpr (by simpa using every))
  have room := @sum_add_le_total _ _ _ weight _ _ out
  by_cases same : piece = missing
  · subst same
    exact room.trans fits
  · have spare := slack piece missing same
    omega

theorem finishes_of_slack (slack : Slack weight cap) (part : held ≠ Finset.univ)
    (arrives : ∀ piece, piece ∈ held ∨ piece ∈ order) :
    finishes weight cap order held = true := by
  induction order generalizing held with
  | nil =>
    refine absurd (Finset.eq_univ_iff_forall.mpr fun piece => ?_) part
    exact (arrives piece).resolve_right List.not_mem_nil
  | cons piece rest ih =>
    have room := sum_add_le_cap fits slack part piece
    unfold finishes gather
    rw [if_neg (not_lt.mpr room)]
    split
    · rfl
    · rename_i still
      refine (Bool.false_or _).trans (ih still fun other => ?_)
      rcases arrives other with old | new
      · exact .inl (Finset.mem_insert_of_mem old)
      · rcases List.mem_cons.mp new with rfl | later
        · exact .inl (Finset.mem_insert_self _ _)
        · exact .inr later

/-- As long as one piece stays out, new pieces pile up. -/
theorem finishes_append (nodup : fresh.Nodup)
    (new : ∀ piece ∈ fresh, piece ∉ held) (out : missing ∉ held) (never : missing ∉ fresh) :
    finishes weight cap (fresh ++ rest) held =
      finishes weight cap rest (held ∪ fresh.toFinset) := by
  induction fresh generalizing held with
  | nil => simp
  | cons piece others ih =>
    obtain ⟨absent, nodup⟩ := List.nodup_cons.mp nodup
    have other : missing ≠ piece := fun same =>
      never (same ▸ List.mem_cons_self)
    have out' : missing ∉ insert piece held := by simp [other, out]
    have part : insert piece held ≠ Finset.univ := fun whole =>
      out' (whole ▸ Finset.mem_univ _)
    have next := @ih (insert piece held) nodup (fun later mem => by
        rw [Finset.mem_insert, not_or]
        exact ⟨fun same => absent (same ▸ mem), new later (List.mem_cons_of_mem _ mem)⟩)
      out' (fun mem => never (List.mem_cons_of_mem _ mem))
    rw [List.cons_append, finishes,
      gather_of_missing fits (new piece List.mem_cons_self), if_neg part]
    refine (Bool.false_or _).trans (next.trans ?_)
    rw [List.toFinset_cons, Finset.union_insert, Finset.insert_union]

/-- All but one piece, then another one that does not fit again, and the last
one finds nothing left. -/
theorem not_finishes {again missing : ι} {others : List ι}
    (differs : again ≠ missing) (nodup : others.Nodup)
    (rest : ∀ piece, piece ∈ others ↔ piece ≠ missing)
    (tight : cap + weight missing < ∑ piece, weight piece + weight again) :
    finishes weight cap (others ++ [again, missing]) ∅ = false := by
  have held : (∅ : Finset ι) ∪ others.toFinset = Finset.univ.erase missing := by
    ext piece
    simp [rest]
  have sum : ∑ piece ∈ Finset.univ.erase missing, weight piece +
      weight missing = ∑ piece, weight piece :=
    Finset.sum_erase_add _ _ (Finset.mem_univ _)
  have lone : insert missing (∅ : Finset ι) ≠ Finset.univ := by
    intro whole
    have mem := whole ▸ Finset.mem_univ again
    exact differs (by simpa using mem)
  rw [finishes_append fits nodup (fun _ _ => Finset.notMem_empty _)
    (Finset.notMem_empty missing) (fun mem => (rest _).mp mem rfl), held]
  have emptied : gather weight cap (Finset.univ.erase missing) again =
      (false, ∅) := if_pos (by omega)
  unfold finishes finishes
  rw [emptied, gather_of_missing fits (Finset.notMem_empty _), if_neg lone]
  rfl

end

end SChatCore.Data
