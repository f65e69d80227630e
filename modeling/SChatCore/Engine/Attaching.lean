import SChatCore.Engine.Attach

namespace SChatCore.Engine

open Data Data.Action Wire Store Policy

/-! The inbound handlers of a transfer, each as one equation. -/

def Mismatched (sys : Platform) (uncompressedN : UInt32)
    (contentSha256 : Array32) (bytes : Bytes) : Prop :=
  bytes.length ≠ uncompressedN.toNat ∨ sys.sha256 bytes ≠ contentSha256

/-- What a stored chunk of a known head goes on to do. -/
def afterChunk (sys : Platform) (rel : RelId) (chunk : AttachChunk)
    (row : AttachmentRow) : Action (List EngineEvent) :=
  if row.chunkCount.toNat ≤ Bitmap.popcount (row.withChunk chunk.index) then
    tryComplete sys rel chunk.headId
  else do
    let db ← readDb
    return [progress db rel chunk.headId]

instance (uncompressedN : UInt32) (contentSha256 : Array32) (bytes : Bytes) :
    Decidable (Mismatched sys uncompressedN contentSha256 bytes) :=
  inferInstanceAs (Decidable (_ ∨ _))

theorem putChunk_eq_ok {db stored : Db} {now : Nat} :
    db.putChunk headId index data rel now = .ok stored ↔
      db.chunk headId index = some data ∧ stored = db ∨
      db.chunk headId index = none ∧ ∃ chunks, db.chunks.insert ⟨headId, index, data, rel, now⟩ =
          some chunks ∧ stored = { db with chunks } := by
  unfold Db.putChunk
  cases filed : db.chunk headId index with
  | some prev =>
    by_cases same : prev = data
    · simp [same, eq_comm]
    · simp [same]
  | none =>
    obtain ⟨chunks, inserted, -⟩ := Table.insert_of_fresh (ChunkRow.mk headId index data rel now)
      (Option.map_eq_none_iff.mp filed)
    simp [inserted, eq_comm]

theorem attachment_of_putChunk {db stored : Db} {other : MsgId}
    {index : UInt16} {data : Bytes} {now : Nat}
    (put : db.putChunk headId index data rel now = .ok stored) :
    stored.attachment other = db.attachment other := by
  obtain ⟨-, rfl⟩ | ⟨-, chunks, -, rfl⟩ := putChunk_eq_ok.mp put
  · rfl
  · rfl

theorem attachment_setChunks (chunks : Bytes) {db : Db} (found : db.attachment headId = some row) :
    (db.setChunks headId chunks).attachment headId = some { row with chunks } := by
  refine ((Table.lookup_update_key headId headId fun _ => by rfl).trans (if_pos rfl)).trans ?_
  rw [show Table.lookup db.attachments headId = some row from found]
  rfl

theorem attachment_markComplete {db : Db} (found : db.attachment headId = some row) :
    (db.markComplete headId).attachment headId = some { row with complete := true } := by
  refine ((Table.lookup_update_key headId headId fun _ => by rfl).trans (if_pos rfl)).trans ?_
  rw [show Table.lookup db.attachments headId = some row from found]
  rfl

theorem attachment_deleteAttachment (headId : MsgId) (db : Db) :
    (db.deleteAttachment headId).attachment headId = none :=
  (Table.lookup_delete_key headId headId).trans (if_pos rfl)

theorem run_tryComplete (found : eng.db.attachment headId = some row) :
    (tryComplete sys rel headId).run eng = if row.complete = true ∨
          (eng.db.chunksFor headId).length < row.chunkCount.toNat then
        .ok [] eng
      else if Mismatched sys row.uncompressedN row.contentSha256
          (eng.db.chunksFor headId).flatten then
        .ok [.attachmentFailed rel headId] { eng with
          db := (eng.db.deleteChunks headId).deleteAttachment headId }
      else
        .ok [.attachmentComplete rel headId row.msgId] { eng with
          db := (eng.db.setChunks headId (fullBitmap row.chunkCount)).markComplete headId } := by
  unfold tryComplete
  simp only [EStateM.run_bind, run_readDb, found]
  split
  · rename_i complete
    rw [if_pos (.inl complete)]
    rfl
  · rename_i incomplete
    split
    · rename_i short
      rw [if_pos (.inr short)]
      rfl
    · rename_i enough
      rw [if_neg (not_or.mpr ⟨incomplete, enough⟩)]
      split
      · rename_i mismatched
        exact (if_pos mismatched).symm
      · rename_i verified
        exact (if_neg verified).symm

theorem run_onAttachChunk (sys : Platform) (rel : RelId) (eng : Engine) (chunk : AttachChunk) :
    (onAttachChunk sys rel chunk).run eng = if chunk.pad then .ok [] eng
      else if refusesChunk eng.db rel chunk then
        .ok [.attachmentChunkDropped rel chunk.headId] eng
      else
        match eng.db.putChunk chunk.headId chunk.index chunk.data rel eng.clock with
        | .error error => .error (.store error) eng
        | .ok stored =>
          match eng.db.attachment chunk.headId with
          | none => .ok [] { eng with db := stored }
          | some row =>
            (afterChunk sys rel chunk row).run { eng with
              db := stored.setChunks chunk.headId (row.withChunk chunk.index) } := by
  unfold onAttachChunk
  rw [bind_readDb]
  split
  · rfl
  split
  · rfl
  rename_i accepted
  rw [bind_now, EStateM.run_bind, run_tryDb]
  cases put : eng.db.putChunk chunk.headId chunk.index chunk.data rel eng.clock with
  | error error => rfl
  | ok stored =>
    have kept := @attachment_of_putChunk _ _ _ _ chunk.headId _ _ _ put
    simp only [EStateM.run_bind, run_updateDb, Db.noteChunk, kept]
    cases found : eng.db.attachment chunk.headId with
    | none => rfl
    | some row =>
      have inside : ¬ chunk.index ≥ row.chunkCount := by simpa [refusesChunk, found] using accepted
      simp only [if_neg inside, afterChunk]
      by_cases full : row.chunkCount.toNat ≤ Bitmap.popcount (row.withChunk chunk.index)
      · simp only [full, decide_true, if_true]
      · simp only [full, decide_false, if_false]

theorem run_completeInline (head : AttachHead) (bytes : Bytes) :
    (completeInline sys rel headId head bytes).run eng =
      if sys.sha256 bytes ≠ head.contentSha256 then
        .ok [.attachmentFailed rel headId] { eng with db := eng.db.deleteAttachment headId }
      else
        match eng.db.putChunk headId 0 bytes rel eng.clock with
        | .error error => .error (.store error) eng
        | .ok stored => .ok [.attachmentComplete rel headId headId]
            { eng with db := stored.markComplete headId } := by
  unfold completeInline
  split
  · rfl
  · rw [bind_now, EStateM.run_bind, run_tryDb]
    cases eng.db.putChunk headId 0 bytes rel eng.clock with
    | error error => rfl
    | ok stored => rfl

theorem loadPolicy_of_allowed (allowed : attachmentsAllowed db rel = .ok true) :
    ∃ policy, loadPolicy db rel = .ok policy := by
  unfold attachmentsAllowed at allowed
  cases loaded : loadPolicy db rel with
  | error error =>
    rw [loaded] at allowed
    cases allowed
  | ok policy => exact ⟨policy, rfl⟩

theorem final_onAttachHead_idle (payload : AttachHeadPayload)
    (idle : ¬ (attachmentsAllowed eng.db rel = .ok true ∧ eng.db.attachment headId = none)) :
    final ((onAttachHead sys rel headId payload).run eng) =
      eng := by
  unfold onAttachHead store
  rw [bind_readDb]
  cases allowed : attachmentsAllowed eng.db rel with
  | error error => rfl
  | ok permission =>
    cases permission with
    | false => rfl
    | true =>
      have seen : (eng.db.attachment headId).isSome = true :=
        Option.isSome_iff_ne_none.mpr fun unseen => idle ⟨allowed, unseen⟩
      simp only [EStateM.run_bind, run_ofExcept_ok, not_true_eq_false, if_false, seen, if_true]
      rfl

theorem run_onAttachHead_unseen (sys : Platform)
    (allowed : attachmentsAllowed eng.db rel = .ok true) (unseen : eng.db.attachment headId = none)
    (payload : AttachHeadPayload) :
    ∃ expiry attachments, eng.db.attachments.insert ((attachmentOf rel headId .in_
        payload.head expiry).row eng.clock) = some attachments ∧
      (onAttachHead sys rel headId payload).run eng = (match payload.inline with
        | some bytes => completeInline sys rel headId payload.head bytes
        | none => tryComplete sys rel headId).run
          { eng with db := { eng.db with attachments } } := by
  obtain ⟨policy, loaded⟩ := loadPolicy_of_allowed allowed
  obtain ⟨attachments, inserted, -⟩ := Table.insert_of_fresh
    ((attachmentOf rel headId .in_ payload.head (policy.expiryAt eng.clock)).row eng.clock) unseen
  refine ⟨policy.expiryAt eng.clock, attachments, inserted, ?_⟩
  unfold onAttachHead store
  cases payload.inline <;> simp only [EStateM.run_bind, run_readDb, allowed, run_ofExcept_ok, unseen,
    Option.isSome_none, not_true_eq_false, if_false, Bool.false_eq_true,
    run_now, messageExpiry, loaded, Except.map_ok, run_tryDb, Db.insertHead, inserted]

end SChatCore.Engine
