import Mathlib.Data.UInt

namespace SChatCore.Data

/-! Words of flags. -/

namespace Flags

variable {word flag other : UInt32}

theorem eq_of_bits (same : ∀ index, word.toBitVec.getLsbD index =
    other.toBitVec.getLsbD index) : word = other := by
  apply UInt32.toBitVec_inj.mp
  exact BitVec.eq_of_getLsbD_eq fun index _ => same index

theorem bit_or (index : Nat) : (word ||| flag).toBitVec.getLsbD index =
      (word.toBitVec.getLsbD index || flag.toBitVec.getLsbD index) := by
  rw [UInt32.toBitVec_or, BitVec.getLsbD_or]

theorem bit_and (index : Nat) : (word &&& flag).toBitVec.getLsbD index =
      (word.toBitVec.getLsbD index && flag.toBitVec.getLsbD index) := by
  rw [UInt32.toBitVec_and, BitVec.getLsbD_and]

theorem bit_andNot (index : Nat) : (word &&& ~~~flag).toBitVec.getLsbD index =
      (word.toBitVec.getLsbD index && !flag.toBitVec.getLsbD index) := by
  by_cases bound : index < 32
  · simp [bound]
  · simp [BitVec.getLsbD_of_ge word.toBitVec index (by omega)]

theorem bit_of_apart (apart : word &&& flag = 0) (index : Nat) :
    (word.toBitVec.getLsbD index && flag.toBitVec.getLsbD index) = false := by
  rw [← bit_and, apart]
  simp

theorem or_andNot (apart : flag &&& other = 0) :
    (word ||| flag) &&& ~~~other = word &&& ~~~other ||| flag := by
  refine eq_of_bits fun index => ?_
  have bit := bit_of_apart apart index
  simp only [bit_andNot, bit_or]
  revert bit
  cases word.toBitVec.getLsbD index <;> cases flag.toBitVec.getLsbD index <;>
    cases other.toBitVec.getLsbD index <;> decide

theorem andNot_or (apart : flag &&& other = 0) :
    word &&& ~~~flag ||| other = (word ||| other) &&& ~~~flag := by
  refine eq_of_bits fun index => ?_
  have bit := bit_of_apart apart index
  simp only [bit_andNot, bit_or]
  revert bit
  cases word.toBitVec.getLsbD index <;> cases flag.toBitVec.getLsbD index <;>
    cases other.toBitVec.getLsbD index <;> decide

theorem andNot_of_apart (apart : word &&& flag = 0) : word &&& ~~~flag = word := by
  refine eq_of_bits fun index => ?_
  have bit := bit_of_apart apart index
  rw [bit_andNot]
  revert bit
  cases word.toBitVec.getLsbD index <;> cases flag.toBitVec.getLsbD index <;>
    decide

theorem apart_of_andNot (same : word &&& ~~~flag = word) : word &&& flag = 0 := by
  rw [← same, UInt32.and_assoc, UInt32.not_and_self, UInt32.and_zero]

theorem and_of_or (same : word ||| flag = word) : word &&& flag = flag := by
  refine eq_of_bits fun index => ?_
  have bit := congrArg (fun word => word.toBitVec.getLsbD index) same
  simp only [bit_or] at bit
  rw [bit_and]
  revert bit
  cases word.toBitVec.getLsbD index <;> cases flag.toBitVec.getLsbD index <;>
    decide

theorem within_andNot (within : word &&& other = word) :
    word &&& ~~~flag &&& other = word &&& ~~~flag := by
  rw [UInt32.and_assoc, UInt32.and_comm (~~~flag), ← UInt32.and_assoc, within]

theorem and_or : word &&& (flag ||| other) = word &&& flag ||| word &&& other := by
  refine eq_of_bits fun index => ?_
  simp only [bit_and, bit_or, Bool.and_or_distrib_left]

theorem within_or (within : word &&& other = word) (inside : flag &&& other = flag) :
    (word ||| flag) &&& other = word ||| flag := by
  rw [UInt32.and_comm, and_or, UInt32.and_comm other, UInt32.and_comm other, within, inside]

def Single (flag : UInt32) : Prop := ∃ index, flag.toBitVec = BitVec.twoPow 32 index

theorem and_eq_of_single (single : Single flag) (word : UInt32) :
    word &&& flag = 0 ∨ word &&& flag = flag := by
  obtain ⟨index, bits⟩ := single
  have bit : ∀ other, (word &&& flag).toBitVec.getLsbD other =
      (word.toBitVec.getLsbD index && flag.toBitVec.getLsbD other) := by
    intro other
    rw [bit_and, bits, BitVec.getLsbD_twoPow]
    by_cases same : index = other <;> simp [same]
  cases set : word.toBitVec.getLsbD index with
  | false =>
    refine .inl (eq_of_bits fun other => ?_)
    rw [bit, set]
    simp
  | true =>
    refine .inr (eq_of_bits fun other => ?_)
    rw [bit, set, Bool.true_and]

theorem ite_and_of_single (single : Single flag) (word : UInt32) :
    (if word &&& flag ≠ 0 then flag else 0) = word &&& flag := by
  obtain clear | set := and_eq_of_single single word
  · rw [clear, if_neg (not_not.mpr rfl)]
  · rw [set]
    split
    · rfl
    · rename_i zero
      exact (not_not.mp zero).symm

end Flags

end SChatCore.Data
