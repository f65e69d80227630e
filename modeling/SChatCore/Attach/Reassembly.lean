import SChatCore.Attach.Stored
import SChatCore.Attach.Transfer
import SChatCore.Engine.Attaching

namespace SChatCore.Attach

open Data Wire Store Engine Policy

/-! The bitmap of a transfer row. -/

theorem length_resize (bytes : Bytes) (len : Nat) : (resize bytes len).length = len := by
  unfold resize
  rw [List.length_append, List.length_take, List.length_replicate]
  omega

theorem has_resize (bytes : Bytes) (len index : Nat) : Bitmap.has (resize bytes len) index =
      (decide (index / 8 < len) && Bitmap.has bytes index) := by
  unfold resize
  rw [Bitmap.has_append_zeros, Bitmap.has_take]

/-- The bitmap holds exactly the indexes in `marked`. -/
def Marks (row : AttachmentRow) (marked : Finset Nat) : Prop :=
  ∀ index, Bitmap.has row.chunks index = true ↔ index ∈ marked

theorem bitmapLen_room {row : AttachmentRow} (bounded : index < row.chunkCount.toNat) :
    index / 8 < bitmapLen row.chunkCount := by
  unfold bitmapLen
  omega

theorem has_withChunk (marks : Marks row marked)
    (inside : marked ⊆ Finset.range row.chunkCount.toNat)
    (bounded : index.toNat < row.chunkCount.toNat) (other : Nat) :
    Bitmap.has (row.withChunk index) other = true ↔ other ∈ insert index.toNat marked := by
  have room := bitmapLen_room bounded
  unfold AttachmentRow.withChunk
  rw [Bitmap.has_set (by rwa [length_resize]), has_resize, Bool.and_eq_true,
    decide_eq_true_eq, marks other, Finset.mem_insert]
  constructor
  · rintro (rfl | ⟨_, mem⟩)
    · exact .inl rfl
    · exact .inr mem
  · rintro (rfl | mem)
    · exact .inl rfl
    · exact .inr ⟨bitmapLen_room (Finset.mem_range.mp (inside mem)), mem⟩

theorem le_popcount_withChunk (marks : Marks row marked)
    (inside : marked ⊆ Finset.range row.chunkCount.toNat)
    (bounded : index.toNat < row.chunkCount.toNat) :
    row.chunkCount.toNat ≤ Bitmap.popcount (row.withChunk index) ↔
      insert index.toNat marked = Finset.range row.chunkCount.toNat := by
  have has := has_withChunk marks inside bounded
  have subset := Finset.insert_subset (Finset.mem_range.mpr bounded) inside
  have length : (row.withChunk index).length = bitmapLen row.chunkCount := by
    unfold AttachmentRow.withChunk
    rw [Bitmap.length_set, length_resize]
  rw [Bitmap.le_popcount_iff]
  · constructor
    · intro all
      refine subset.antisymm fun other mem => ?_
      exact (has other).mp (all other (Finset.mem_range.mp mem))
    · intro full other small
      rw [has, full]
      exact Finset.mem_range.mpr small
  · rw [length]
    unfold bitmapLen
    omega
  · intro other mem
    exact Finset.mem_range.mp (subset ((has other).mp mem))

variable {sys : Platform} {rel : RelId} {headId : MsgId} {bytes : Bytes}

structure Planned (sys : Platform) (bytes : Bytes)
    (row : AttachmentRow) : Prop where
  chunkCount : row.chunkCount.toNat = pieceCount chunkDataMax bytes
  uncompressedN : row.uncompressedN.toNat = bytes.length
  contentSha256 : row.contentSha256 = sys.sha256 bytes
  unconsumed : row.consumed = false

inductive Holds (sys : Platform) (rel : RelId) (headId : MsgId)
    (bytes : Bytes) : Phase → Db → Prop
  | orphan (unseen : db.attachment headId = none)
      (holds : Stored rel headId bytes db stored) :
      Holds sys rel headId bytes (.orphan stored) db
  | pending (seen : db.attachment headId = some row)
      (planned : Planned sys bytes row) (open_ : row.complete = false)
      (marks : Marks row marked) (subset : marked ⊆ stored)
      (holds : Stored rel headId bytes db stored) :
      Holds sys rel headId bytes (.pending stored marked) db
  | complete (seen : db.attachment headId = some row)
      (planned : Planned sys bytes row) (closed : row.complete = true)
      (holds : Stored rel headId bytes db (Finset.range (pieceCount chunkDataMax bytes))) :
      Holds sys rel headId bytes .complete db

/-- The phase of the transfer together with the policy that lets heads in. -/
structure Receives (sys : Platform) (rel : RelId) (headId : MsgId)
    (bytes : Bytes) (phase : Phase) (eng : Engine) : Prop where
  allowed : attachmentsAllowed eng.db rel = .ok true
  holds : Holds sys rel headId bytes phase eng.db

theorem attachmentsAllowed_congr (same : db'.relationships = db.relationships) (rel : RelId) :
    attachmentsAllowed db' rel = attachmentsAllowed db rel := by
  unfold attachmentsAllowed loadPolicy Db.relationship
  rw [same]

theorem run_tryComplete_short (seen : eng.db.attachment headId = some row)
    (planned : Planned sys bytes row) (holds : Stored rel headId bytes eng.db stored)
    (short : stored ≠ Finset.range (pieceCount chunkDataMax bytes)) :
    (tryComplete sys rel headId).run eng = .ok [] eng := by
  refine (run_tryComplete seen).trans (if_pos (.inr ?_))
  rw [holds.length_chunksFor, planned.chunkCount]
  have strict := Finset.card_lt_card (holds.inside.ssubset_of_ne short)
  rwa [Finset.card_range] at strict

theorem run_tryComplete_full (seen : eng.db.attachment headId = some row)
    (planned : Planned sys bytes row) (open_ : row.complete = false)
    (holds : Stored rel headId bytes eng.db (Finset.range (pieceCount chunkDataMax bytes))) :
    (tryComplete sys rel headId).run eng = .ok [.attachmentComplete rel headId row.msgId] { eng with
        db := (eng.db.setChunks headId (fullBitmap row.chunkCount)).markComplete headId } := by
  rw [run_tryComplete seen, if_neg, if_neg]
  · rw [Mismatched, holds.flatten_chunksFor, planned.uncompressedN, planned.contentSha256]
    simp
  · rw [holds.length_chunksFor, planned.chunkCount, Finset.card_range, open_]
    simp

theorem holds_markComplete (seen : db.attachment headId = some row)
    (planned : Planned sys bytes row)
    (holds : Stored rel headId bytes db
      (Finset.range (pieceCount chunkDataMax bytes))) (chunks : Bytes) :
    Holds sys rel headId bytes .complete ((db.setChunks headId chunks).markComplete headId) := by
  have written : ((db.setChunks headId chunks).markComplete headId).attachment
      headId = some { row with chunks, complete := true } :=
    attachment_markComplete (attachment_setChunks chunks seen)
  exact .complete written ⟨planned.chunkCount, planned.uncompressedN,
    planned.contentSha256, planned.unconsumed⟩ rfl (holds.congr rfl)

theorem receives_tryComplete {eng : Engine} (allowed : attachmentsAllowed eng.db rel = .ok true)
    (seen : eng.db.attachment headId = some row)
    (planned : Planned sys bytes row) (open_ : row.complete = false)
    (marks : Marks row marked) (subset : marked ⊆ stored)
    (holds : Stored rel headId bytes eng.db stored) :
    ∃ events next, (tryComplete sys rel headId).run eng = .ok events next ∧
      Receives sys rel headId bytes
        (if stored = Finset.range (pieceCount chunkDataMax bytes) then .complete
          else .pending stored marked) next := by
  by_cases full : stored = Finset.range (pieceCount chunkDataMax bytes)
  · rw [if_pos full]
    subst full
    refine ⟨_, _, run_tryComplete_full seen planned open_ holds, ?_, ?_⟩
    · exact (attachmentsAllowed_congr rfl rel).trans allowed
    · exact holds_markComplete seen planned holds _
  · rw [if_neg full]
    refine ⟨_, _, run_tryComplete_short seen planned holds full, allowed, ?_⟩
    exact .pending seen planned open_ marks subset holds

structure Announces (sys : Platform) (bytes : Bytes)
    (head : AttachHead) : Prop where
  chunkCount : head.chunkCount.toNat = pieceCount chunkDataMax bytes
  uncompressedN : head.uncompressedN.toNat = bytes.length
  contentSha256 : head.contentSha256 = sys.sha256 bytes

theorem run_onAttachHead_seen (allowed : attachmentsAllowed eng.db rel = .ok true)
    (seen : eng.db.attachment headId = some row) (payload : AttachHeadPayload) :
    (onAttachHead sys rel headId payload).run eng = .ok [] eng := by
  unfold onAttachHead store
  simp only [EStateM.run_bind, run_readDb, allowed, Action.run_ofExcept_ok,
    seen, Option.isSome_some, not_true_eq_false, if_false, if_true]
  rfl

theorem receives_head (announces : Announces sys bytes head)
    (receives : Receives sys rel headId bytes phase eng) :
    ∃ events next, (onAttachHead sys rel headId { head, inline := none }).run eng =
        .ok events next ∧
      Receives sys rel headId bytes (phase.step (pieceCount chunkDataMax bytes) .head) next := by
  obtain ⟨allowed, holds⟩ := receives
  cases holds with
  | orphan unseen holds =>
    obtain ⟨expiry, attachments, inserted, ran⟩ :=
      run_onAttachHead_unseen sys allowed unseen ⟨head, none⟩
    have written := (Table.lookup_insert inserted headId).trans (if_pos rfl)
    rw [ran]
    refine receives_tryComplete ((attachmentsAllowed_congr rfl rel).trans allowed) written ?_ rfl ?_
      (Finset.empty_subset _) (holds.congr rfl)
    · exact ⟨announces.chunkCount, announces.uncompressedN, announces.contentSha256, rfl⟩
    · intro index
      exact iff_of_false Bool.false_ne_true (Finset.notMem_empty index)
  | pending seen planned open_ marks subset holds =>
    exact ⟨_, _, run_onAttachHead_seen allowed seen _, allowed,
      .pending seen planned open_ marks subset holds⟩
  | complete seen planned closed holds =>
    exact ⟨_, _, run_onAttachHead_seen allowed seen _, allowed, .complete seen planned closed holds⟩

def dataChunk (headId : MsgId) (bytes : Bytes) (index : UInt16) : AttachChunk where
  headId := headId
  index := index
  pad := false
  data := piece chunkDataMax bytes index.toNat

theorem not_refused_seen (seen : db.attachment headId = some row)
    (bounded : index.toNat < row.chunkCount.toNat) :
    refusesChunk db rel (dataChunk headId bytes index) = false := by
  unfold refusesChunk
  rw [show db.attachment (dataChunk headId bytes index).headId = some row from seen]
  exact decide_eq_false (UInt16.not_le.mpr bounded)

theorem receives_orphan (small : bytes.length ≤ maxAttach)
    (allowed : attachmentsAllowed eng.db rel = .ok true) (unseen : eng.db.attachment headId = none)
    (holds : Stored rel headId bytes eng.db stored)
    (bounded : index.toNat < pieceCount chunkDataMax bytes) :
    ∃ events next, (onAttachChunk sys rel (dataChunk headId bytes index)).run eng =
        .ok events next ∧
      Receives sys rel headId bytes (.orphan (insert index.toNat stored)) next := by
  have unknown : eng.db.attachment (dataChunk headId bytes index).headId =
      none := unseen
  simp only [run_onAttachChunk, refusesChunk, unknown]
  rw [if_neg (by simp [dataChunk])]
  split
  · rename_i capped
    -- only a piece that is already stored can hit a cap
    have mem : index.toNat ∈ stored := by
      by_contra missing
      cases capped.symm.trans (holds.not_orphanCapped small rfl missing bounded rfl)
    rw [Finset.insert_eq_self.mpr mem]
    exact ⟨_, _, rfl, allowed, .orphan unseen holds⟩
  · obtain ⟨chunks, put, holds⟩ := holds.putChunk bounded eng.clock
    simp only [dataChunk, put]
    exact ⟨_, _, rfl, (attachmentsAllowed_congr rfl rel).trans allowed, .orphan unseen holds⟩

theorem run_onAttachChunk_seen (sys : Platform) (seen : eng.db.attachment headId = some row)
    (planned : Planned sys bytes row) (holds : Stored rel headId bytes eng.db stored)
    (bounded : index.toNat < pieceCount chunkDataMax bytes) :
    ∃ noted, noted.relationships = eng.db.relationships ∧ noted.attachment headId =
        some { row with chunks := row.withChunk index } ∧
      Stored rel headId bytes noted (insert index.toNat stored) ∧
      (onAttachChunk sys rel (dataChunk headId bytes index)).run eng =
        if row.chunkCount.toNat ≤ Bitmap.popcount (row.withChunk index) then
          (tryComplete sys rel headId).run { eng with db := noted }
        else .ok [progress noted rel headId] { eng with db := noted } := by
  have inPlan : index.toNat < row.chunkCount.toNat := planned.chunkCount.symm ▸ bounded
  obtain ⟨chunks, put, holds⟩ := holds.putChunk bounded eng.clock
  have seen' : Db.attachment { eng.db with chunks } headId = some row := seen
  refine ⟨Db.setChunks headId (row.withChunk index) { eng.db with chunks },
    rfl, attachment_setChunks _ seen', holds.congr rfl, ?_⟩
  rw [run_onAttachChunk, if_neg (by simp [dataChunk]),
    if_neg (by simp [not_refused_seen seen inPlan])]
  simp only [dataChunk, put, seen]
  exact apply_ite (fun action : Action _ => action.run _) _ _ _

theorem Planned.withChunks (planned : Planned sys bytes row)
    (chunks : Bytes) : Planned sys bytes { row with chunks } :=
  ⟨planned.chunkCount, planned.uncompressedN, planned.contentSha256, planned.unconsumed⟩

theorem receives_pending (allowed : attachmentsAllowed eng.db rel = .ok true)
    (seen : eng.db.attachment headId = some row)
    (planned : Planned sys bytes row) (open_ : row.complete = false)
    (marks : Marks row marked) (subset : marked ⊆ stored)
    (holds : Stored rel headId bytes eng.db stored)
    (bounded : index.toNat < pieceCount chunkDataMax bytes) :
    ∃ events next, (onAttachChunk sys rel (dataChunk headId bytes index)).run eng =
        .ok events next ∧
      Receives sys rel headId bytes
        ((Phase.pending stored marked).step (pieceCount chunkDataMax bytes)
          (.data index.toNat)) next := by
  have inPlan : index.toNat < row.chunkCount.toNat := planned.chunkCount.symm ▸ bounded
  have inside : marked ⊆ Finset.range row.chunkCount.toNat :=
    planned.chunkCount.symm ▸ subset.trans holds.inside
  have full := le_popcount_withChunk marks inside inPlan
  rw [planned.chunkCount] at full
  obtain ⟨noted, relationships, written, kept, ran⟩ :=
    run_onAttachChunk_seen sys seen planned holds bounded
  have allowed' : attachmentsAllowed noted rel = .ok true :=
    (attachmentsAllowed_congr relationships rel).trans allowed
  have marks' : Marks { row with chunks := row.withChunk index }
      (insert index.toNat marked) := has_withChunk marks inside inPlan
  rw [ran, planned.chunkCount, Phase.step]
  by_cases all : insert index.toNat marked = Finset.range (pieceCount chunkDataMax bytes)
  · rw [if_pos (full.mpr all), if_pos all]
    have everything : insert index.toNat stored = Finset.range (pieceCount chunkDataMax bytes) :=
      kept.inside.antisymm (all ▸ Finset.insert_subset_insert _ subset)
    have completes := @receives_tryComplete sys rel headId bytes _ _ _
      { eng with db := noted } allowed' written (planned.withChunks _) open_
      marks' (Finset.insert_subset_insert _ subset) kept
    rwa [if_pos everything] at completes
  · rw [if_neg (mt full.mp all), if_neg all]
    exact ⟨_, _, rfl, allowed', .pending written (planned.withChunks _) open_
      marks' (Finset.insert_subset_insert _ subset) kept⟩

theorem receives_complete (allowed : attachmentsAllowed eng.db rel = .ok true)
    (seen : eng.db.attachment headId = some row)
    (planned : Planned sys bytes row) (closed : row.complete = true)
    (holds : Stored rel headId bytes eng.db (Finset.range (pieceCount chunkDataMax bytes)))
    (bounded : index.toNat < pieceCount chunkDataMax bytes) :
    ∃ events next, (onAttachChunk sys rel (dataChunk headId bytes index)).run eng =
        .ok events next ∧
      Receives sys rel headId bytes .complete next := by
  obtain ⟨noted, relationships, written, kept, ran⟩ :=
    run_onAttachChunk_seen sys seen planned holds bounded
  rw [Finset.insert_eq_self.mpr (Finset.mem_range.mpr bounded)] at kept
  have still : Receives sys rel headId bytes .complete { eng with db := noted } :=
    ⟨(attachmentsAllowed_congr relationships rel).trans allowed,
      .complete written (planned.withChunks _) closed kept⟩
  have quiet : (tryComplete sys rel headId).run
      { eng with db := noted } = .ok [] { eng with db := noted } :=
    (run_tryComplete written).trans (if_pos (.inl closed))
  rw [ran, quiet]
  split
  · exact ⟨_, _, rfl, still⟩
  · exact ⟨_, _, rfl, still⟩

theorem receives_chunk (small : bytes.length ≤ maxAttach)
    (receives : Receives sys rel headId bytes phase eng)
    (bounded : index.toNat < pieceCount chunkDataMax bytes) :
    ∃ events next, (onAttachChunk sys rel (dataChunk headId bytes index)).run eng =
        .ok events next ∧
      Receives sys rel headId bytes
        (phase.step (pieceCount chunkDataMax bytes) (.data index.toNat)) next := by
  obtain ⟨allowed, holds⟩ := receives
  cases holds with
  | orphan unseen holds => exact receives_orphan small allowed unseen holds bounded
  | pending seen planned open_ marks subset holds =>
    exact receives_pending allowed seen planned open_ marks subset holds bounded
  | complete seen planned closed holds =>
    exact receives_complete allowed seen planned closed holds bounded

end SChatCore.Attach
