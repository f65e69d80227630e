import Mathlib.Algebra.BigOperators.Group.Finset.Basic
import Mathlib.Algebra.Order.BigOperators.Group.Finset

namespace SChatCore.Data

/-! Cutting a list into pieces of one size; the last one may be shorter. -/

def piece (size : Nat) (list : List α) (index : Nat) : List α :=
  (list.drop (index * size)).take size

def pieceCount (size : Nat) (list : List α) : Nat := (list.length + size - 1) / size

def pieces (size : Nat) (list : List α) : List (List α) :=
  (List.range (pieceCount size list)).map (piece size list)

@[simp] theorem length_pieces (size : Nat) (list : List α) :
    (pieces size list).length = pieceCount size list := by
  simp [pieces]

theorem flatten_range_piece (size : Nat) (list : List α) (count : Nat) :
    ((List.range count).map (piece size list)).flatten = list.take (count * size) := by
  induction count with
  | zero => simp
  | succ count ih =>
    rw [List.range_succ, List.map_append, List.flatten_append, ih, Nat.succ_mul, List.take_add]
    simp [piece]

theorem length_le_pieceCount_mul {size : Nat} (positive : 0 < size)
    (list : List α) : list.length ≤ pieceCount size list * size := by
  unfold pieceCount
  have rounded := Nat.div_add_mod (list.length + size - 1) size
  have remainder := Nat.mod_lt (list.length + size - 1) positive
  rw [Nat.mul_comm] at rounded
  omega

theorem flatten_pieces (positive : 0 < size) (list : List α) :
    (pieces size list).flatten = list := by
  unfold pieces
  rw [flatten_range_piece]
  exact List.take_of_length_le (length_le_pieceCount_mul positive list)

theorem length_piece (size : Nat) (list : List α) (index : Nat) :
    (piece size list index).length = min size (list.length - index * size) := by
  unfold piece
  rw [List.length_take, List.length_drop]

theorem lt_pieceCount_iff (positive : 0 < size) (list : List α) (index : Nat) :
    index < pieceCount size list ↔ index * size < list.length := by
  unfold pieceCount
  rw [Nat.lt_iff_add_one_le, Nat.le_div_iff_mul_le positive, Nat.succ_mul]
  omega

theorem sum_length_piece (positive : 0 < size) (list : List α) :
    ∑ index ∈ Finset.range (pieceCount size list),
      (piece size list index).length = list.length := by
  have total := congrArg List.length (flatten_pieces positive list)
  rw [List.length_flatten, pieces, List.map_map] at total
  have range : Finset.range (pieceCount size list) =
      (List.range (pieceCount size list)).toFinset := by
    ext index
    simp
  rw [← total, range, List.sum_toFinset _ List.nodup_range]
  rfl

end SChatCore.Data
