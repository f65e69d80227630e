import SChatCore.Engine.Stickers
import SChatCore.Wire.PackScan

namespace SChatCore.Engine

open Wire Data Sticker
open StickerPackDoc (scanHeader scanPartial smallPack)

/-! What a download under way is reported to have. -/

namespace PendingChunks

def contiguous (pending : PendingChunks) : Bytes :=
  ((List.range pending.chunkCount.toNat).takeWhile fun index =>
    (pending.chunks.lookup (UInt16.ofNat index)).isSome).flatMap fun index =>
      ((pending.chunks.lookup (UInt16.ofNat index)).map PieceEntry.data).getD []

def Unfinished (pending : PendingChunks) : Prop :=
  ∃ index, index < pending.chunkCount.toNat ∧ pending.chunks.lookup (UInt16.ofNat index) = none

theorem blob_of_unfinished (unfinished : Unfinished pending) : pending.blob = none := by
  obtain ⟨index, inside, missing⟩ := unfinished
  have stops : ∀ indexes : List Nat, index ∈ indexes → indexes.mapM (fun index =>
        (pending.chunks.lookup (UInt16.ofNat index)).map PieceEntry.data) =
          none := by
    intro indexes mem
    induction indexes with
    | nil => cases mem
    | cons first others ih =>
      rw [List.mapM_cons]
      rcases List.mem_cons.mp mem with rfl | later
      · rw [missing]
        rfl
      · rw [ih later]
        cases (pending.chunks.lookup (UInt16.ofNat first)).map PieceEntry.data <;> rfl
  unfold blob
  rw [stops _ (List.mem_range.mpr inside)]
  rfl

end PendingChunks

def HeaderArrived (part : Bytes) : Prop :=
  part.length ≤ maxPackDocBytes ∧ ∃ fixed rest, scanHeader.run part = .ok (fixed, rest)

theorem scanPartial_eq_none : scanPartial part = none ↔ ¬ HeaderArrived part := by
  unfold scanPartial HeaderArrived
  split
  · rename_i large
    exact iff_of_true rfl fun arrived => absurd arrived.1 (Nat.not_le.mpr large)
  rename_i small
  cases scanned : scanHeader.run part with
  | error error => simp
  | ok outcome =>
    refine iff_of_false (by rintro ⟨⟩) (not_not.mpr ?_)
    exact ⟨Nat.not_lt.mp small, outcome.1, outcome.2, rfl⟩

/-- Until the last piece is there, what is reported is nothing. -/
theorem packProgress_iff (held : buffers.packs.lookup (List.Vector.toList packId) = some entry)
    (unfinished : entry.pending.Unfinished) :
    packProgress packId buffers = scanPartial entry.pending.contiguous ↔
      ¬ HeaderArrived entry.pending.contiguous := by
  have silent : packProgress packId buffers = none := by
    unfold packProgress
    rw [held]
    show entry.pending.blob.bind _ = none
    rw [PendingChunks.blob_of_unfinished unfinished]
    rfl
  rw [silent, ← scanPartial_eq_none, eq_comm]

def firstPiece (data : Bytes) : PendingBuffers := (feedPack smallPack.packId 0 2 data 0 .empty).2

/-- Half a header is no progress yet, and none is reported. -/
theorem half_header_silent :
    let buffers := firstPiece (smallPack.layout.take 20)
    ∃ entry, buffers.packs.lookup smallPack.packId.toList = some entry ∧
      packProgress smallPack.packId buffers = scanPartial entry.pending.contiguous := by
  refine ⟨_, rfl, (packProgress_iff rfl ⟨1, ?_, ?_⟩).mpr ?_⟩
  · decide +kernel
  · decide +kernel
  · exact scanPartial_eq_none.mp (by decide +kernel)

/-- The first of two pieces holds a header and a whole item. -/
theorem first_item_not_reported : let piece := smallPack.layout.take 100
    (∃ entry, (firstPiece piece).packs.lookup smallPack.packId.toList =
        some entry ∧ entry.pending.Unfinished ∧
        entry.pending.contiguous = piece) ∧
      scanPartial piece = some (1, 2) ∧
      packProgress smallPack.packId (firstPiece piece) = none := by
  refine ⟨⟨_, rfl, ⟨1, by decide +kernel, by decide +kernel⟩, by decide +kernel⟩,
    by decide +kernel, by decide +kernel⟩

end SChatCore.Engine
