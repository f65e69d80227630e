import Mathlib.Data.List.Range
import Mathlib.Data.List.Basic
import Mathlib.Data.Nat.Bitwise

namespace SChatCore.Data

/-! Byte strings read as sets of small numbers, least significant bit first. -/

namespace Bitmap

def bit (k : Nat) : UInt8 := 1 <<< UInt8.ofNat k

def has (bytes : List UInt8) (i : Nat) : Bool :=
  match bytes[i / 8]? with
  | some byte => byte &&& bit (i % 8) ≠ 0
  | none => false

def set (bytes : List UInt8) (i : Nat) : List UInt8 := bytes.modify (i / 8) (· ||| bit (i % 8))

def countOnes (byte : UInt8) : Nat := (List.range 8).countP fun k => byte &&& bit k ≠ 0

def popcount (bytes : List UInt8) : Nat := (bytes.map countOnes).sum

theorem bit_toNat : ∀ k < 8, (bit k).toNat = 2 ^ k := by
  decide

theorem and_bit_ne_zero (byte : UInt8) (bound : k < 8) :
    byte &&& bit k ≠ 0 ↔ byte.toNat.testBit k = true := by
  rw [ne_eq, ← UInt8.toNat_inj, UInt8.toNat_and, bit_toNat k bound, Nat.and_two_pow]
  cases byte.toNat.testBit k with
  | false => simp
  | true => simp

theorem or_bit_and_bit (byte : UInt8) (hj : j < 8) (hk : k < 8) :
    (byte ||| bit j) &&& bit k ≠ 0 ↔ j = k ∨ byte &&& bit k ≠ 0 := by
  rw [and_bit_ne_zero _ hk, and_bit_ne_zero _ hk, UInt8.toNat_or,
    Nat.testBit_or, bit_toNat j hj, Nat.testBit_two_pow, Bool.or_eq_true, decide_eq_true_eq]
  exact or_comm

@[simp] theorem length_set (bytes : List UInt8) (i : Nat) :
    (set bytes i).length = bytes.length := by
  simp [set]

theorem has_set (inside : i / 8 < bytes.length) (j : Nat) :
    has (set bytes i) j = true ↔ i = j ∨ has bytes j = true := by
  unfold has set
  rw [List.getElem?_modify]
  by_cases same : i / 8 = j / 8
  · rw [List.getElem?_eq_getElem (same ▸ inside)]
    simp only [same, Option.map_eq_map, Option.map_some, decide_eq_true_eq, if_true]
    rw [or_bit_and_bit _ (Nat.mod_lt _ (by decide)) (Nat.mod_lt _ (by decide))]
    have numbers : i % 8 = j % 8 ↔ i = j := by omega
    rw [numbers]
  · have different : i ≠ j := fun equal => same (by rw [equal])
    simp [same, different]

@[simp] theorem has_zeros (n i : Nat) : has (List.replicate n 0) i = false := by
  unfold has
  rw [List.getElem?_replicate]
  split
  · rename_i byte found
    split at found
    · cases found
      simp
    · cases found
  · rfl

theorem has_of_outside (outside : bytes.length ≤ i / 8) : has bytes i = false := by
  unfold has
  rw [List.getElem?_eq_none outside]

theorem has_eq_false_iff : has bytes i = false ↔
      ∀ byte, bytes[i / 8]? = some byte → byte.toNat.testBit (i % 8) = false := by
  unfold has
  cases bytes[i / 8]? with
  | none => simp
  | some byte =>
    simp [← and_bit_ne_zero byte (Nat.mod_lt i (by decide : 0 < 8)), ← Bool.not_eq_true]

theorem has_take (bytes : List UInt8) (n i : Nat) :
    has (bytes.take n) i = (decide (i / 8 < n) && has bytes i) := by
  unfold has
  rw [List.getElem?_take]
  by_cases inside : i / 8 < n
  · simp [inside]
  · simp [inside]

theorem has_append_zeros (bytes : List UInt8) (n i : Nat) :
    has (bytes ++ List.replicate n 0) i = has bytes i := by
  by_cases inside : i / 8 < bytes.length
  · unfold has
    rw [List.getElem?_append_left inside]
  · have shifted : has (bytes ++ List.replicate n 0) i =
        has (List.replicate n 0) (i - 8 * bytes.length) := by
      unfold has
      rw [List.getElem?_append_right (by omega)]
      have byte : i / 8 - bytes.length = (i - 8 * bytes.length) / 8 := by omega
      have offset : i % 8 = (i - 8 * bytes.length) % 8 := by omega
      rw [byte, offset]
    rw [shifted, has_zeros, has_of_outside (by omega)]

theorem countOnes_eq (byte : UInt8) (rest : List UInt8) :
    countOnes byte = (List.range 8).countP (has (byte :: rest)) := by
  refine List.countP_congr fun k mem => ?_
  have bound : k < 8 := List.mem_range.mp mem
  unfold has
  have zero : k / 8 = 0 := Nat.div_eq_of_lt bound
  rw [zero, Nat.mod_eq_of_lt bound]
  simp

theorem popcount_eq (bytes : List UInt8) :
    popcount bytes = (List.range (8 * bytes.length)).countP (has bytes) := by
  induction bytes with
  | nil => rfl
  | cons byte rest ih =>
    have split : 8 * (byte :: rest).length = 8 + 8 * rest.length := by
      rw [List.length_cons]
      omega
    have tail : (List.range (8 * rest.length)).countP (has (byte :: rest) ∘ (8 + ·)) =
        (List.range (8 * rest.length)).countP (has rest) := by
      refine List.countP_congr fun k _ => ?_
      unfold has
      have next : (8 + k) / 8 = k / 8 + 1 := by omega
      have offset : (8 + k) % 8 = k % 8 := by omega
      simp only [Function.comp_apply, next, offset, List.getElem?_cons_succ]
    rw [split, List.range_add, List.countP_append, List.countP_map, tail, ← ih, ← countOnes_eq]
    rfl

/-- A set inside `{0, ..., n - 1}` has at least `n` members only when it is
all of it. -/
theorem le_popcount_iff (room : n ≤ 8 * bytes.length) (inside : ∀ i, has bytes i = true → i < n) :
    n ≤ popcount bytes ↔ ∀ i < n, has bytes i = true := by
  have outside : (List.range (8 * bytes.length - n)).countP (has bytes ∘ (n + ·)) = 0 := by
    rw [List.countP_eq_zero]
    intro k _ mem
    have := inside (n + k) mem
    omega
  have count : popcount bytes = (List.range n).countP (has bytes) := by
    rw [popcount_eq, show 8 * bytes.length = n + (8 * bytes.length - n) by omega,
      List.range_add, List.countP_append, List.countP_map, outside, Nat.add_zero]
  have bound : (List.range n).countP (has bytes) ≤ n := by
    simpa using List.countP_le_length (p := has bytes) (l := List.range n)
  have full : (List.range n).countP (has bytes) = n ↔ ∀ i ∈ List.range n, has bytes i = true := by
    have := List.countP_eq_length (p := has bytes) (l := List.range n)
    rwa [List.length_range] at this
  rw [count]
  constructor
  · intro enough i small
    exact full.mp (by omega) i (List.mem_range.mpr small)
  · intro all
    exact (full.mpr fun i mem => all i (List.mem_range.mp mem)).ge

end Bitmap

end SChatCore.Data
