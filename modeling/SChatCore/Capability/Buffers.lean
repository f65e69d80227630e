import SChatCore.Engine.Ram

namespace SChatCore.Engine

open Data Wire

/-! Which chunks the reassembly buffers ignore. -/

namespace PendingChunks

variable {pending : PendingChunks} {index count : UInt16} {data : Bytes}

theorem add_of_refused (refused : index ≥ pending.chunkCount ∨
      (pending.chunks.lookup index).isSome) :
    pending.add index data = (none, pending) :=
  if_pos refused

theorem add_ne (taken : ¬ (index ≥ pending.chunkCount ∨ (pending.chunks.lookup index).isSome)) :
    (pending.add index data).2 ≠ pending := by
  intro same
  have filed : ((pending.add index data).2.chunks.lookup index).isSome := by
    unfold add
    rw [if_neg taken]
    exact Table.isSome_lookup_insertOrIgnore.mpr (.inl rfl)
  rw [same] at filed
  exact taken (.inr filed)

theorem add_new_single : ((new 1 now).add 0 data).1 = some data := by
  show some [data].flatten = some data
  rw [List.flatten_singleton]

theorem add_new_of_part (part : ¬ (count = 1 ∧ index = 0)) :
    ((new count now).add index data).1 = none := by
  unfold add
  split
  · rfl
  · rename_i taken
    refine if_neg fun single => part ?_
    have one : 1 = count.toNat := single
    obtain rfl : count = 1 := UInt16.toNat_inj.mp one.symm
    have below : ¬ index ≥ 1 := fun late => taken (.inl late)
    rw [ge_iff_le, UInt16.le_iff_toNat_le, UInt16.toNat_one] at below
    exact ⟨rfl, UInt16.toNat_inj.mp (by rw [UInt16.toNat_zero]; omega)⟩

end PendingChunks

namespace PendingMap

/-- The chunk is none of the transfer on file, or there is no room for its
transfer, or it is a transfer by itself. -/
def Ignores (map : PendingMap) (maxEntries maxBytes : Nat) (key : Bytes)
    (index count : UInt16) (data : Bytes) : Prop :=
  match map.lookup key with
  | some entry => entry.pending.chunkCount ≠ count ∨
      entry.pending.totalBytes + data.length ≤ maxBytes ∧
        (index ≥ count ∨ (entry.pending.chunks.lookup index).isSome)
  | none => maxEntries ≤ map.rows.length ∨ maxBytes < data.length ∨
      count = 1 ∧ index = 0

/-- A transfer by itself that there is room for. -/
def Whole (map : PendingMap) (maxEntries maxBytes : Nat) (key : Bytes)
    (index count : UInt16) (data : Bytes) : Prop :=
  map.lookup key = none ∧ map.rows.length < maxEntries ∧
    data.length ≤ maxBytes ∧ count = 1 ∧ index = 0

variable {map : PendingMap} {data : Bytes}

theorem new_planned : (PendingChunks.new count now).chunkCount = count := rfl

theorem new_large : (PendingChunks.new count now).totalBytes + data.length >
    maxBytes ↔ maxBytes < data.length := by
  rw [show (PendingChunks.new count now).totalBytes = 0 from rfl, Nat.zero_add]

section

variable (pending : PendingChunks)

theorem lookup_step : (feed.step map maxBytes key index count data pending
        fun map => map.delete fun entry => entry.key = key).2.lookup key =
      if pending.chunkCount ≠ count then some ⟨key, pending⟩
      else if pending.totalBytes + data.length > maxBytes then none
      else if (pending.add index data).1.isSome then none
      else some ⟨key, (pending.add index data).2⟩ := by
  unfold feed.step
  simp only
  split
  · exact (Table.lookup_upsert _ _ _).trans (if_pos rfl)
  split
  · exact (Table.lookup_delete_key _ _).trans (if_pos rfl)
  split
  · exact (Table.lookup_delete_key _ _).trans (if_pos rfl)
  · exact (Table.lookup_upsert _ _ _).trans (if_pos rfl)

theorem blob_step : (feed.step map maxBytes key index count data pending
        fun map => map.delete fun entry => entry.key = key).1 =
      if pending.chunkCount ≠ count then none
      else if pending.totalBytes + data.length > maxBytes then none
      else (pending.add index data).1 := by
  unfold feed.step
  simp only
  split
  · rfl
  split
  · rfl
  split
  · rfl
  · rename_i undone
    exact (Option.not_isSome_iff_eq_none.mp undone).symm

theorem lookup_step_of_ne (differs : other ≠ key) :
    (feed.step map maxBytes key index count data pending
        fun map => map.delete fun entry => entry.key = key).2.lookup other =
      map.lookup other := by
  have admitted : (map.upsert ⟨key, pending⟩).lookup other = map.lookup other :=
    (Table.lookup_upsert _ _ _).trans (if_neg differs.symm)
  unfold feed.step
  simp only
  split
  · exact admitted
  split
  · exact ((Table.lookup_delete_key _ _).trans (if_neg differs)).trans admitted
  split
  · exact ((Table.lookup_delete_key _ _).trans (if_neg differs)).trans admitted
  · exact ((Table.lookup_upsert _ _ _).trans (if_neg differs.symm)).trans admitted

end

theorem lookup_feed_of_ne {other : Bytes} (differs : other ≠ key) :
    (map.feed maxEntries maxBytes key index count data now).2.lookup other =
      map.lookup other := by
  unfold feed
  split
  · split
    · rfl
    · exact lookup_step_of_ne _ differs
  · exact lookup_step_of_ne _ differs

theorem lookup_feed_iff : (map.feed maxEntries maxBytes key index count data now).2.lookup key =
        map.lookup key ↔
      map.Ignores maxEntries maxBytes key index count data := by
  unfold feed Ignores
  cases found : map.lookup key with
  | none =>
    simp only
    split
    · rename_i full
      exact iff_of_true found (.inl full)
    · rename_i room
      rw [lookup_step, if_neg (not_not.mpr new_planned)]
      by_cases large : maxBytes < data.length
      · rw [if_pos (new_large.mpr large)]
        exact iff_of_true rfl (.inr (.inl large))
      rw [if_neg (new_large.not.mpr large)]
      by_cases whole : count = 1 ∧ index = 0
      · obtain ⟨rfl, rfl⟩ := whole
        exact iff_of_true rfl (.inr (.inr ⟨rfl, rfl⟩))
      · have undone := @PendingChunks.add_new_of_part index count data now whole
        rw [if_neg (by rw [undone]; exact Bool.false_ne_true)]
        refine iff_of_false (by rintro ⟨⟩) ?_
        rintro (full | long | single)
        · exact room full
        · exact large long
        · exact whole single
  | some entry =>
    obtain ⟨-, own⟩ := Table.lookup_eq_some.mp found
    rw [lookup_step]
    have same : PendingEntry.mk key entry.pending = entry := by rw [← own]
    by_cases planned : entry.pending.chunkCount = count
    · rw [if_neg (not_not.mpr planned)]
      by_cases large : entry.pending.totalBytes + data.length > maxBytes
      · rw [if_pos large]
        refine iff_of_false (by simp) ?_
        rintro (other | ⟨small, -⟩)
        · exact other planned
        · omega
      rw [if_neg large]
      by_cases refused : index ≥ entry.pending.chunkCount ∨
          (entry.pending.chunks.lookup index).isSome
      · rw [PendingChunks.add_of_refused refused, if_neg (by simp), same]
        rw [planned] at refused
        exact iff_of_true rfl (.inr ⟨by omega, refused⟩)
      · have moved := @PendingChunks.add_ne entry.pending index data refused
        refine iff_of_false ?_ ?_
        · split
          · rintro ⟨⟩
          · intro kept
            have entries := congrArg PendingEntry.pending (Option.some.inj kept)
            exact moved entries
        · rw [planned] at refused
          rintro (other | ⟨-, again⟩)
          · exact other planned
          · exact refused again
    · rw [if_pos planned, same]
      exact iff_of_true rfl (.inl planned)

theorem blob_feed_of_ignores (ignores : map.Ignores maxEntries maxBytes key index count data)
    (blob : Bytes) :
    (map.feed maxEntries maxBytes key index count data now).1 = some blob ↔
      map.Whole maxEntries maxBytes key index count data ∧ data = blob := by
  unfold Ignores at ignores
  unfold feed Whole
  cases found : map.lookup key with
  | none =>
    rw [found] at ignores
    simp only [true_and]
    split
    · rename_i full
      refine iff_of_false (by rintro ⟨⟩) ?_
      omega
    · rename_i room
      rw [blob_step, if_neg (not_not.mpr new_planned)]
      by_cases large : maxBytes < data.length
      · rw [if_pos (new_large.mpr large)]
        refine iff_of_false (by rintro ⟨⟩) ?_
        omega
      rw [if_neg (new_large.not.mpr large)]
      obtain ⟨rfl, rfl⟩ : count = 1 ∧ index = 0 := by
        obtain full | long | single := ignores
        · exact absurd full room
        · exact absurd long large
        · exact single
      rw [PendingChunks.add_new_single, Option.some.injEq]
      exact (and_iff_right ⟨by omega, by omega, rfl, rfl⟩).symm
  | some entry =>
    rw [found] at ignores
    rw [blob_step]
    refine iff_of_false ?_ (by simp)
    obtain other | ⟨small, again⟩ := ignores
    · rw [if_pos other]
      rintro ⟨⟩
    · by_cases planned : entry.pending.chunkCount = count
      · rw [← planned] at again
        rw [if_neg (not_not.mpr planned), if_neg (by omega), PendingChunks.add_of_refused again]
        rintro ⟨⟩
      · rw [if_pos planned]
        rintro ⟨⟩

end PendingMap

end SChatCore.Engine
