import Mathlib.Data.Finset.Basic
import Mathlib.Data.List.Dedup
import Mathlib.Data.List.Induction

namespace SChatCore.Transport

/-! Frames seen lately, by fingerprint, so that a duplicate is dropped before
any crypto. -/

structure SeenRing (α : Type) where
  capacity : Nat
  order : List α
  set : Finset α

namespace SeenRing

variable [DecidableEq α]

def new (capacity : Nat) : SeenRing α := ⟨capacity, [], ∅⟩

def evict (capacity : Nat) : List α → Finset α → List α × Finset α
  | [], set => ([], set)
  | old :: rest, set =>
    if (old :: rest).length > capacity then evict capacity rest (set.erase old)
    else (old :: rest, set)

def seenOrMark (ring : SeenRing α) (print : α) : Bool × SeenRing α :=
  if print ∈ ring.set then
    (true, { ring with order := ring.order.filter (· != print) ++ [print] })
  else
    let (order, set) := evict ring.capacity (ring.order ++ [print]) (insert print ring.set)
    (false, { ring with order, set })

def after (capacity : Nat) (prints : List α) : SeenRing α :=
  prints.foldl (fun ring print => (ring.seenOrMark print).2) (new capacity)

/-- The distinct fingerprints presented last, the latest at the end. -/
def latest (capacity : Nat) (prints : List α) : List α :=
  prints.dedup.drop (prints.dedup.length - capacity)

theorem dedup_concat (prints : List α) (print : α) : (prints ++ [print]).dedup =
      prints.dedup.filter (· != print) ++ [print] := by
  induction prints with
  | nil => rfl
  | cons first rest ih =>
    rw [List.cons_append]
    by_cases again : first ∈ rest
    · rw [List.dedup_cons_of_mem (List.mem_append_left _ again), List.dedup_cons_of_mem again, ih]
    · rw [List.dedup_cons_of_notMem again]
      by_cases same : first = print
      · rw [List.dedup_cons_of_mem (by simp [same]), ih,
          List.filter_cons_of_neg (by simpa using same)]
      · rw [List.dedup_cons_of_notMem (by simp [again, same]), ih,
          List.filter_cons_of_pos (by simpa using same), List.cons_append]

theorem evict_of_le {order : List α} {held : Finset α}
    (room : order.length ≤ size) : evict size order held = (order, held) := by
  cases order with
  | nil => rfl
  | cons old rest => rw [evict, if_neg (by omega)]

/-- The ring is the end of the distinct fingerprints, and full if it is not all
of them. -/
structure Holds (prints : List α) (ring : SeenRing α) : Prop where
  same : ∀ print, print ∈ ring.set ↔ print ∈ ring.order
  room : ring.order.length ≤ ring.capacity
  ends : ∃ older, prints.dedup = older ++ ring.order ∧
    (older ≠ [] → ring.order.length = ring.capacity)

theorem Holds.seenOrMark (positive : 0 < ring.capacity) (holds : Holds prints ring) (print : α) :
    Holds (prints ++ [print]) (ring.seenOrMark print).2 := by
  obtain ⟨same, room, older, ends, full⟩ := holds
  obtain ⟨-, nodup, apart⟩ := List.nodup_append.mp (ends ▸ prints.nodup_dedup)
  unfold SeenRing.seenOrMark
  by_cases seen : print ∈ ring.order
  · rw [if_pos ((same print).mpr seen)]
    have length : (ring.order.filter (· != print) ++ [print]).length =
        ring.order.length := by
      rw [← nodup.erase_eq_filter, List.length_append, List.length_erase_of_mem seen]
      exact Nat.sub_add_cancel (List.length_pos_of_mem seen)
    refine ⟨fun other => ?_, length.trans_le room, older, ?_, fun more =>
      length.trans (full more)⟩
    · rw [same]
      by_cases equal : other = print
      · simp [equal, seen]
      · simp [equal]
    · rw [dedup_concat, ends, List.filter_append, List.append_assoc,
        List.filter_eq_self.mpr fun other mem =>
          bne_iff_ne.mpr (apart other mem print seen)]
  · rw [if_neg fun mem => seen ((same print).mp mem)]
    have kept : ring.order.filter (· != print) = ring.order :=
      List.filter_eq_self.mpr fun other mem =>
        bne_iff_ne.mpr fun equal => seen (equal ▸ mem)
    by_cases space : ring.order.length < ring.capacity
    · have all : older = [] := by
        by_contra more
        exact space.ne (full more)
      have fits : (ring.order ++ [print]).length ≤ ring.capacity := by
        rw [List.length_append]
        exact space
      rw [evict_of_le fits]
      refine ⟨fun other => ?_, fits, [], ?_, fun more => absurd rfl more⟩
      · simp [same, or_comm]
      · rw [dedup_concat, ends, all, List.nil_append, kept]
        rfl
    · have length := room.antisymm (not_lt.mp space)
      obtain ⟨oldest, rest, order⟩ := List.exists_cons_of_length_pos (positive.trans_eq length.symm)
      rw [order] at same seen nodup length kept ⊢
      -- the oldest makes room
      rw [List.cons_append, evict, if_pos (by simp [← length]), evict_of_le (by simp [← length])]
      refine ⟨fun other => ?_, (by simp [← length]),
        older.filter (· != print) ++ [oldest], ?_, fun _ => by simp [← length]⟩
      · have fresh := (List.nodup_cons.mp nodup).1
        simp only [Finset.mem_erase, Finset.mem_insert, same, List.mem_append,
          List.mem_cons, List.not_mem_nil, or_false]
        grind
      · rw [dedup_concat, ends, order, List.filter_append, kept]
        simp

theorem capacity_seenOrMark (ring : SeenRing α) (print : α) :
    (ring.seenOrMark print).2.capacity = ring.capacity := by
  unfold seenOrMark
  split
  · rfl
  · rfl

theorem holds_after (positive : 0 < size) (prints : List α) :
    (after size prints).capacity = size ∧ Holds prints (after size prints) := by
  induction prints using List.reverseRecOn with
  | nil => exact ⟨rfl, fun _ => by simp [after, new], Nat.zero_le _, [], rfl,
      fun more => absurd rfl more⟩
  | append_singleton prints print ih =>
    obtain ⟨sized, holds⟩ := ih
    rw [← sized] at positive
    have next := holds.seenOrMark positive print
    unfold after at sized next ⊢
    rw [List.foldl_append]
    exact ⟨(capacity_seenOrMark _ print).trans sized, next⟩

theorem Holds.order_eq {prints : List α} (holds : Holds prints ring) :
    ring.order = latest ring.capacity prints := by
  obtain ⟨-, room, older, ends, full⟩ := holds
  unfold latest
  rw [ends, List.length_append]
  by_cases all : older = []
  · rw [all, List.length_nil, Nat.zero_add, Nat.sub_eq_zero_of_le room]
    rfl
  · rw [full all, Nat.add_sub_cancel, List.drop_left]

theorem seenOrMark_iff (holds : Holds prints ring) (print : α) :
    (ring.seenOrMark print).1 = true ↔ print ∈ latest ring.capacity prints := by
  rw [← holds.order_eq, ← holds.same]
  unfold seenOrMark
  split
  · rename_i seen
    exact iff_of_true rfl seen
  · rename_i fresh
    exact iff_of_false nofun fresh

/-- Set and queue stay in step within the capacity, and a frame counts as seen
exactly if it is one of the latest distinct ones. -/
theorem ring_exact (positive : 0 < size) (prints : List α) :
    (∀ print, print ∈ (after size prints).set ↔ print ∈ (after size prints).order) ∧
      (after size prints).order.Nodup ∧
      (after size prints).order.length ≤ size ∧
      ∀ print, ((after size prints).seenOrMark print).1 = true ↔ print ∈ latest size prints := by
  obtain ⟨sized, holds⟩ := holds_after positive prints
  have seen := seenOrMark_iff holds
  have room := holds.room
  rw [sized] at seen room
  refine ⟨holds.same, ?_, room, seen⟩
  rw [holds.order_eq]
  exact prints.nodup_dedup.sublist (List.drop_sublist _ _)

theorem refreshed_frame_stays : ((after 2 [1, 2, 1, 3]).seenOrMark 1).1 = true ∧
      ((after 2 [1, 2, 1, 3]).seenOrMark 2).1 ≠ true := by
  have exact := (ring_exact (by decide : 0 < 2) [1, 2, 1, 3]).2.2.2
  exact ⟨(exact 1).mpr (by decide), fun seen =>
    absurd ((exact 2).mp seen) (by decide)⟩

end SeenRing

end SChatCore.Transport
