import SChatCore.Engine.Attaching
import SChatCore.Isolation.Ledger

namespace SChatCore.Isolation

open Data Data.Action Wire Store Policy Engine

/-! Attachments: heads and chunks are looked up by head id alone. -/

/-- A head that finds enough chunks on file, foreign ones among them, and
erases them because they do not verify. -/
def TouchesHead (sys : Platform) (eng : Engine) (rel : RelId)
    (msgId : MsgId) (payload : AttachHeadPayload) : Prop :=
  payload.inline = none ∧ attachmentsAllowed eng.db rel = .ok true ∧
    eng.db.attachment msgId = none ∧
    payload.head.chunkCount.toNat ≤ (eng.db.chunksFor msgId).length ∧
    Mismatched sys payload.head.uncompressedN payload.head.contentSha256
      (eng.db.chunksFor msgId).flatten ∧
    ForeignChunk eng.db rel msgId

/-- With the chunk stored, the transfer ends one way or the other. -/
def Finishes (db : Db) (chunk : AttachChunk) (row : AttachmentRow) : Prop :=
  row.chunkCount.toNat ≤ Bitmap.popcount (row.withChunk chunk.index) ∧ row.complete = false ∧
    row.chunkCount.toNat ≤ (db.chunksFor chunk.headId).length

/-- A chunk for a foreign head that marks its bitmap or ends its transfer, or
one that ends our own transfer and erases foreign chunks with it. -/
def TouchesChunk (sys : Platform) (eng : Engine) (rel : RelId) (chunk : AttachChunk) : Prop :=
  chunk.pad = false ∧ refusesChunk eng.db rel chunk = false ∧ ∃ stored row,
      eng.db.putChunk chunk.headId chunk.index chunk.data rel eng.clock = .ok stored ∧
      eng.db.attachment chunk.headId = some row ∧
      (row.relId ≠ rel ∧ row.withChunk chunk.index ≠ row.chunks ∨
        Finishes stored chunk row ∧ (row.relId ≠ rel ∨
          Mismatched sys row.uncompressedN row.contentSha256
              (stored.chunksFor chunk.headId).flatten ∧
            ForeignChunk eng.db rel chunk.headId))

variable {sys : Platform} {rel : RelId} {eng : Engine}
  {headId : MsgId}

theorem isolated_deleteHead (found : eng.db.attachment headId = some row) (own : row.relId = rel) :
    Isolated rel eng.db ((eng.db.deleteChunks headId).deleteAttachment headId) ↔
      ¬ ForeignChunk eng.db rel headId := by
  refine Iff.trans isolated_tables_iff ?_
  refine Iff.trans (and_congr Iff.rfl (and_congr Table.SameBut.delete_iff
    Table.SameBut.delete_iff)) ?_
  constructor
  · rintro ⟨-, -, chunks⟩ ⟨chunk, mem, same, foreign⟩
    exact foreign (chunks chunk mem (by simpa using same))
  · intro none
    refine ⟨.refl _ _ _, fun other mem same => ?_, fun chunk mem same => ?_⟩
    · have key : eng.db.attachments.lookup headId = some other :=
        Table.lookup_eq_some.mpr ⟨mem, by simpa using same⟩
      cases found.symm.trans key
      exact own
    · by_contra foreign
      exact none ⟨chunk, mem, by simpa using same, foreign⟩

theorem isolated_putChunk {now : Nat} (put : db.putChunk headId index data rel now = .ok stored) :
    Isolated rel db stored := by
  obtain ⟨-, rfl⟩ | ⟨-, chunks, inserted, rfl⟩ := putChunk_eq_ok.mp put
  · exact .refl _ _
  · exact { Isolated.refl rel db with
      chunks := Table.SameBut.insert inserted rfl }

theorem isolated_setAttachment (owned : ∀ row, (assign row).relId = row.relId)
    (own : ∀ row, db.attachment headId = some row → row.relId = rel) :
    Isolated rel db { db with
      attachments := db.attachments.update (fun row => row.headId = headId) assign keepsKey } := by
  refine { Isolated.refl rel db with
    attachments := Table.SameBut.update keepsKey fun other mem same => ?_ }
  have mine := own other (Table.lookup_eq_some.mpr ⟨mem, by simpa using same⟩)
  exact ⟨mine, (owned other).trans mine⟩

theorem isolated_finish (own : ∀ row, db.attachment headId = some row → row.relId = rel)
    (chunks : Bytes) :
    Isolated rel db ((db.setChunks headId chunks).markComplete headId) := by
  have marked : Isolated rel db (db.setChunks headId chunks) :=
    isolated_setAttachment (fun _ => rfl) own
  refine marked.trans (isolated_setAttachment (fun _ => rfl) fun row found => ?_)
  have looked : (db.setChunks headId chunks).attachment headId =
      (db.attachment headId).map fun row => { row with chunks } :=
    (Table.lookup_update_key headId headId fun _ => by rfl).trans (if_pos rfl)
  obtain ⟨source, sourceFound, rfl⟩ := Option.map_eq_some_iff.mp (looked.symm.trans found)
  exact own source sourceFound

theorem isolated_tryComplete (found : eng.db.attachment headId = some row) (own : row.relId = rel) :
    Isolated rel eng.db (final ((tryComplete sys rel headId).run eng)).db ↔
      ¬ (row.complete = false ∧ row.chunkCount.toNat ≤ (eng.db.chunksFor headId).length ∧
        Mismatched sys row.uncompressedN row.contentSha256 (eng.db.chunksFor headId).flatten ∧
        ForeignChunk eng.db rel headId) := by
  rw [run_tryComplete found]
  split
  · rename_i idle
    refine iff_of_true (.refl _ _) ?_
    rintro ⟨incomplete, enough, -⟩
    obtain complete | short := idle
    · rw [complete] at incomplete
      cases incomplete
    · omega
  · rename_i due
    obtain ⟨incomplete, enough⟩ := not_or.mp due
    split
    · rename_i mismatched
      refine (isolated_deleteHead found own).trans (not_congr ?_)
      exact ⟨fun foreign => ⟨by simpa using incomplete, by omega, mismatched,
        foreign⟩, fun all => all.2.2.2⟩
    · rename_i verified
      refine iff_of_true (isolated_finish (fun other found' => ?_) _) ?_
      · cases found.symm.trans found'
        exact own
      · exact fun all => verified all.2.2.1

theorem isolated_completeInline {head : AttachHead} {bytes : Bytes}
    (found : eng.db.attachment headId = some row) (own : row.relId = rel) :
    Isolated rel eng.db (final ((completeInline sys rel headId head bytes).run eng)).db := by
  have mine : ∀ other, eng.db.attachment headId = some other → other.relId = rel := by
    intro other found'
    cases found.symm.trans found'
    exact own
  rw [run_completeInline]
  split
  · refine { Isolated.refl rel eng.db with
      attachments := Table.SameBut.delete fun other mem same => ?_ }
    exact mine other (Table.lookup_eq_some.mpr ⟨mem, by simpa using same⟩)
  · cases put : eng.db.putChunk headId 0 bytes rel eng.clock with
    | error error => exact .refl _ _
    | ok stored =>
      refine (isolated_putChunk put).trans (isolated_setAttachment (fun _ => rfl) ?_)
      rw [attachment_of_putChunk put]
      exact mine

theorem isolated_onAttachHead (msgId : MsgId) (payload : AttachHeadPayload) : Isolated rel eng.db
        (final ((onAttachHead sys rel msgId payload).run eng)).db ↔
      ¬ TouchesHead sys eng rel msgId payload := by
  by_cases first : attachmentsAllowed eng.db rel = .ok true ∧ eng.db.attachment msgId = none
  · obtain ⟨allowed, unknown⟩ := first
    obtain ⟨expiry, attachments, inserted, ran⟩ :=
      run_onAttachHead_unseen sys allowed unknown payload
    have began : Isolated rel eng.db { eng.db with attachments } :=
      { Isolated.refl rel eng.db with
        attachments := Table.SameBut.insert inserted rfl }
    have found := (Table.lookup_insert inserted msgId).trans (if_pos rfl)
    rw [ran]
    refine began.iff_of_left.trans ?_
    unfold TouchesHead
    cases payload.inline with
    | some bytes =>
      refine iff_of_true ?_ (by simp)
      exact @isolated_completeInline sys rel { eng with db := { eng.db with attachments } } msgId
        _ _ _ found rfl
    | none =>
      refine (@isolated_tryComplete sys rel { eng with db := { eng.db with attachments } } msgId
        _ found rfl).trans (not_congr ?_)
      exact ⟨fun ⟨_, enough, rest⟩ => ⟨rfl, allowed, unknown, enough, rest⟩,
        fun ⟨_, _, _, enough, rest⟩ => ⟨rfl, enough, rest⟩⟩
  · rw [final_onAttachHead_idle payload first]
    exact iff_of_true (.refl _ _) fun touches =>
      first ⟨touches.2.1, touches.2.2.1⟩

/-- Our own transfer: only the chunks it ends up erasing can be foreign. -/
theorem isolated_afterChunk_of_own (found : stored.attachment chunk.headId = some row)
    (own : row.relId = rel) :
    Isolated rel stored (final ((afterChunk sys rel chunk row).run { eng with
          db := stored.setChunks chunk.headId (row.withChunk chunk.index) })).db ↔
      ¬ (Finishes stored chunk row ∧ Mismatched sys row.uncompressedN row.contentSha256
          (stored.chunksFor chunk.headId).flatten ∧
        ForeignChunk stored rel chunk.headId) := by
  have marked : Isolated rel stored
      (stored.setChunks chunk.headId (row.withChunk chunk.index)) := by
    refine isolated_setAttachment (fun _ => rfl) fun other found' => ?_
    cases found.symm.trans found'
    exact own
  refine marked.iff_of_left.trans ?_
  unfold afterChunk Finishes
  split
  · rename_i full
    refine (@isolated_tryComplete sys rel { eng with
      db := stored.setChunks chunk.headId (row.withChunk chunk.index) } _ _
      (attachment_setChunks _ found) own).trans (not_congr ?_)
    exact ⟨fun ⟨incomplete, enough, rest⟩ => ⟨⟨full, incomplete, enough⟩, rest⟩,
      fun ⟨⟨_, incomplete, enough⟩, rest⟩ => ⟨incomplete, enough, rest⟩⟩
  · rename_i short
    exact iff_of_true (.refl _ _) fun all => short all.1.1

theorem final_afterChunk_of_idle (found : stored.attachment chunk.headId = some row)
    (idle : ¬ Finishes stored chunk row) :
    final ((afterChunk sys rel chunk row).run { eng with
        db := stored.setChunks chunk.headId (row.withChunk chunk.index) }) =
      { eng with
        db := stored.setChunks chunk.headId (row.withChunk chunk.index) } := by
  unfold afterChunk
  split
  · rename_i full
    rw [run_tryComplete (attachment_setChunks _ found), if_pos]
    · rfl
    · by_contra due
      obtain ⟨incomplete, enough⟩ := not_or.mp due
      exact idle ⟨full, by simpa using incomplete, Nat.le_of_not_lt enough⟩
  · rfl

theorem attachment_afterChunk_of_finishes {chunk : AttachChunk} {stored : Db}
    (found : stored.attachment chunk.headId = some row) (finishes : Finishes stored chunk row) :
    (final ((afterChunk sys rel chunk row).run { eng with
        db := stored.setChunks chunk.headId
          (row.withChunk chunk.index) })).db.attachment chunk.headId ≠
      some row := by
  obtain ⟨full, incomplete, enough⟩ := finishes
  unfold afterChunk
  rw [if_pos full, run_tryComplete (attachment_setChunks _ found), if_neg (by
    rintro (complete | short)
    · rw [incomplete] at complete
      cases complete
    · exact absurd enough (not_le.mpr short))]
  split
  · intro same
    cases (attachment_deleteAttachment chunk.headId _).symm.trans same
  · intro same
    have set := attachment_setChunks (fullBitmap row.chunkCount)
      (attachment_setChunks (row.withChunk chunk.index) found)
    have done := (Table.lookup_update_key chunk.headId chunk.headId fun _ => by rfl).trans
      ((if_pos rfl).trans (congrArg (Option.map fun row : AttachmentRow =>
        { row with complete := true }) set))
    have complete := congrArg AttachmentRow.complete (Option.some.inj (done.symm.trans same))
    rw [incomplete] at complete
    cases complete

theorem isolated_afterChunk_of_foreign (found : stored.attachment chunk.headId = some row)
    (foreign : row.relId ≠ rel) :
    Isolated rel stored (final ((afterChunk sys rel chunk row).run { eng with
          db := stored.setChunks chunk.headId (row.withChunk chunk.index) })).db ↔
      ¬ (row.withChunk chunk.index ≠ row.chunks ∨ Finishes stored chunk row) := by
  by_cases finishes : Finishes stored chunk row
  · refine iff_of_false (fun isolated => ?_) (by simp [finishes])
    exact attachment_afterChunk_of_finishes found finishes
      ((isolated.attachments.lookup_eq foreign).mpr found)
  · rw [final_afterChunk_of_idle found finishes]
    simp only [finishes, or_false, not_not]
    constructor
    · intro isolated
      have stays := (isolated.attachments.lookup_eq foreign).mpr found
      exact congrArg AttachmentRow.chunks (Option.some.inj
        ((attachment_setChunks _ found).symm.trans stays))
    · intro same
      refine { Isolated.refl rel stored with
        attachments := Iff.mpr (Table.SameBut.update_iff (fun _ => by rfl) fun _ => by rfl) ?_ }
      intro other mem hit _
      cases found.symm.trans (Table.lookup_eq_some.mpr ⟨mem, by simpa using hit⟩)
      rw [same]

theorem isolated_onAttachChunk (chunk : AttachChunk) : Isolated rel eng.db
        (final ((onAttachChunk sys rel chunk).run eng)).db ↔
      ¬ TouchesChunk sys eng rel chunk := by
  unfold TouchesChunk
  rw [run_onAttachChunk]
  split
  · rename_i pad
    exact iff_of_true (.refl _ _) (by simp [pad])
  split
  · rename_i refused
    exact iff_of_true (.refl _ _) (by simp [refused])
  rename_i data accepted
  rw [Bool.eq_false_iff.mpr data, Bool.eq_false_iff.mpr accepted]
  cases put : eng.db.putChunk chunk.headId chunk.index chunk.data rel eng.clock with
  | error error => exact iff_of_true (.refl _ _) (by simp)
  | ok stored =>
    refine (isolated_putChunk put).iff_of_left.trans ?_
    cases found : eng.db.attachment chunk.headId with
    | none => exact iff_of_true (.refl _ _) (by simp)
    | some row =>
      have known := (attachment_of_putChunk put).trans found
      have chunks : ForeignChunk stored rel chunk.headId ↔
          ForeignChunk eng.db rel chunk.headId := by
        refine exists_congr fun other => ?_
        by_cases foreign : other.relId = rel
        · simp [foreign]
        · rw [(isolated_putChunk put).chunks.mem_iff foreign]
      simp only [Except.ok.injEq, Option.some.injEq, true_and,
        exists_eq_left', exists_and_left, ← chunks]
      by_cases own : row.relId = rel
      · simpa [own] using isolated_afterChunk_of_own known own
      · simpa [own] using isolated_afterChunk_of_foreign known own

end SChatCore.Isolation
