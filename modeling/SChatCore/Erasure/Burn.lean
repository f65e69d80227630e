import SChatCore.Isolation.Control
import SChatCore.Ledger.Once

namespace SChatCore.Erasure

open Data Data.Action Wire Store Engine Ledger Isolation

/-! What a burn leaves behind. -/

section

variable {ρ κ : Type} {key : ρ → κ} {rel : RelId} {table : Table key}

def Absent (owner : ρ → RelId) (rel : RelId) (table : Table key) : Prop :=
  ∀ row ∈ table, owner row ≠ rel

theorem absent_delete : Absent owner rel (table.delete fun row => owner row = rel) :=
  fun _ mem => of_decide_eq_false (Table.mem_delete.mp mem).2

theorem sameBut_delete : Table.SameBut owner rel table (table.delete fun row => owner row = rel) :=
  Table.SameBut.delete fun _ _ hit => of_decide_eq_true hit

theorem sameBut_refl : Table.SameBut owner rel table table := Table.SameBut.refl owner rel table

end

/-- The calls a relationship's session has seen since its namespace was last
deleted: what its tables hold is a function of them. -/
def sessionOf (rel : RelId) (calls : List RatchetCall) : List RatchetCall :=
  calls.foldl (fun seen call => match call with
    | .wipe other => if other = rel then [] else seen
    | .encrypt other _ => if other = rel then seen ++ [call] else seen
    | .decrypt other _ => if other = rel then seen ++ [call] else seen) []

theorem sessionOf_wipe (rel other : RelId) (calls : List RatchetCall) :
    sessionOf other (calls ++ [.wipe rel]) = if rel = other then [] else sessionOf other calls := by
  unfold sessionOf
  rw [List.foldl_append]
  rfl

structure Purged (rel : RelId) (eng : Engine) : Prop where
  relationship : eng.db.relationship rel = none
  messages : Absent MessageRow.relId rel eng.db.messages
  outbox : Absent OutboxRow.relId rel eng.db.outbox
  attachments : Absent AttachmentRow.relId rel eng.db.attachments
  chunks : Absent ChunkRow.relId rel eng.db.chunks
  ciphertexts : Absent CiphertextRow.relId rel eng.db.ciphertexts
  inboundFrames : Absent InboundFrameRow.relId rel eng.db.inboundFrames
  inboundSeqs : Absent InboundSeqRow.relId rel eng.db.inboundSeqs
  tombstones : Absent TombstoneRow.relId rel eng.db.tombstones
  profiles : Absent ProfileRow.relId rel eng.db.profiles
  stickerServes : Absent StickerServeRow.relId rel eng.db.stickerServes
  closeStartedAt : Absent RelSetting.relId rel eng.db.settings.closeStartedAt
  resyncReqAt : Absent RelSetting.relId rel eng.db.settings.resyncReqAt
  activationSent : Absent RelSetting.relId rel eng.db.settings.activationSent
  outSeqFloor : Absent RelSetting.relId rel eng.db.settings.outSeqFloor
  session : sessionOf rel eng.ratchet = []

structure Spares (rel : RelId) (before after : Engine) : Prop where
  rows : Isolated rel before.db after.db
  ciphertexts : Table.SameBut CiphertextRow.relId rel before.db.ciphertexts after.db.ciphertexts
  inboundFrames : Table.SameBut InboundFrameRow.relId rel
    before.db.inboundFrames after.db.inboundFrames
  profiles : Table.SameBut ProfileRow.relId rel before.db.profiles after.db.profiles
  stickerServes : Table.SameBut StickerServeRow.relId rel
    before.db.stickerServes after.db.stickerServes
  closeStartedAt : Table.SameBut RelSetting.relId rel
    before.db.settings.closeStartedAt after.db.settings.closeStartedAt
  resyncReqAt : Table.SameBut RelSetting.relId rel
    before.db.settings.resyncReqAt after.db.settings.resyncReqAt
  activationSent : Table.SameBut RelSetting.relId rel
    before.db.settings.activationSent after.db.settings.activationSent
  outSeqFloor : Table.SameBut RelSetting.relId rel
    before.db.settings.outSeqFloor after.db.settings.outSeqFloor
  sessions : ∀ other, other ≠ rel → sessionOf other after.ratchet = sessionOf other before.ratchet

theorem Spares.refl (rel : RelId) (eng : Engine) : Spares rel eng eng where
  rows := .refl rel _
  ciphertexts := sameBut_refl
  inboundFrames := sameBut_refl
  profiles := sameBut_refl
  stickerServes := sameBut_refl
  closeStartedAt := sameBut_refl
  resyncReqAt := sameBut_refl
  activationSent := sameBut_refl
  outSeqFloor := sameBut_refl
  sessions _ _ := rfl

/-- What the burn has to find in the tables and settings it never deletes
from; and chunks go by the heads, so they have to be stored under the
relationship's own. -/
structure Burnable (rel : RelId) (db : Db) : Prop where
  ciphertexts : Absent CiphertextRow.relId rel db.ciphertexts
  inboundFrames : Absent InboundFrameRow.relId rel db.inboundFrames
  activationSent : Absent RelSetting.relId rel db.settings.activationSent
  outSeqFloor : Absent RelSetting.relId rel db.settings.outSeqFloor
  chunks : ∀ chunk ∈ db.chunks, chunk.relId = rel ↔
    ∃ row ∈ db.attachments, row.headId = chunk.headId ∧ row.relId = rel

theorem any_lookup_iff {db : Db} :
    ((db.attachments.lookup headId).any fun row => row.relId = rel) = true ↔
      ∃ row ∈ db.attachments, row.headId = headId ∧ row.relId = rel := by
  constructor
  · intro hit
    obtain ⟨row, found, own⟩ := Option.any_eq_true _ _ |>.mp hit
    obtain ⟨mem, key⟩ := Table.lookup_eq_some.mp found
    exact ⟨row, mem, key, of_decide_eq_true own⟩
  · rintro ⟨row, mem, rfl, own⟩
    rw [Table.lookup_key mem]
    simp [own]

def burned (rel : RelId) (eng : Engine) : Engine :=
  { eng with
    db := eng.db.burn rel
    ratchet := eng.ratchet ++ [.wipe rel]
    presence := eng.presence.forget rel
    typing := eng.typing.forget rel
    stickerPending := .empty }

theorem run_burn_of_known (known : eng.db.relationship rel = some row) :
    (burnRelationship rel).run eng = .ok () (burned rel eng) := by
  unfold burnRelationship
  rw [bind_readDb, known]
  rfl

theorem run_burn_of_unknown (unknown : eng.db.relationship rel = none) :
    (burnRelationship rel).run eng = .ok () eng := by
  unfold burnRelationship
  rw [bind_readDb, unknown]
  rfl

theorem purged_burned (burnable : Burnable rel eng.db) : Purged rel (burned rel eng) where
  relationship := (gone_burn rel eng.db).relationship
  messages := absent_delete
  outbox := absent_delete
  attachments := absent_delete
  chunks chunk mem own := by
    obtain ⟨mem, kept⟩ := Table.mem_delete.mp mem
    have hit := any_lookup_iff.mpr ((burnable.chunks chunk mem).mp own)
    exact Bool.false_ne_true (kept.symm.trans hit)
  ciphertexts := burnable.ciphertexts
  inboundFrames := burnable.inboundFrames
  inboundSeqs := absent_delete
  tombstones := absent_delete
  profiles := absent_delete
  stickerServes := absent_delete
  closeStartedAt := absent_delete
  resyncReqAt := absent_delete
  activationSent := burnable.activationSent
  outSeqFloor := burnable.outSeqFloor
  session := (sessionOf_wipe rel rel _).trans (if_pos rfl)

theorem spares_burned (burnable : Burnable rel eng.db) : Spares rel eng (burned rel eng) where
  rows := by
    refine isolated_burn.mpr ?_
    rintro ⟨row, mem, own, chunk, chunkMember, same, foreign⟩
    exact foreign ((burnable.chunks chunk chunkMember).mpr ⟨row, mem, same.symm, own⟩)
  ciphertexts := sameBut_refl
  inboundFrames := sameBut_refl
  profiles := sameBut_delete
  stickerServes := sameBut_delete
  closeStartedAt := sameBut_delete
  resyncReqAt := sameBut_delete
  activationSent := sameBut_refl
  outSeqFloor := sameBut_refl
  sessions other foreign := (sessionOf_wipe rel other _).trans (if_neg foreign.symm)

theorem burnable_of_purged (purged : Purged rel (burned rel eng))
    (spared : Isolated rel eng.db (eng.db.burn rel)) :
    Burnable rel eng.db where
  ciphertexts := purged.ciphertexts
  inboundFrames := purged.inboundFrames
  activationSent := purged.activationSent
  outSeqFloor := purged.outSeqFloor
  chunks chunk mem := by
    rw [← any_lookup_iff]
    constructor
    · intro own
      by_contra kept
      exact purged.chunks chunk (Table.mem_delete.mpr ⟨mem, by simpa using kept⟩) own
    · intro hit
      exact Table.SameBut.delete_iff.mp spared.chunks chunk mem hit

/-- A burn is complete, and confined to its relationship, exactly if the
relationship is known and has left nothing in the places the burn does not
clear, or is unknown and has left nothing at all. -/
theorem burn_complete_iff (rel : RelId) (eng : Engine) :
    ∃ after, (burnRelationship rel).run eng = .ok () after ∧
      (Purged rel after ∧ Spares rel eng after ↔ if (eng.db.relationship rel).isSome
        then Burnable rel eng.db
        else Purged rel eng) := by
  cases known : eng.db.relationship rel with
  | none =>
    refine ⟨eng, run_burn_of_unknown known, ?_⟩
    exact and_iff_left (Spares.refl rel eng)
  | some row =>
    refine ⟨_, run_burn_of_known known, ?_⟩
    exact ⟨fun complete => burnable_of_purged complete.1 complete.2.rows,
      fun burnable => ⟨purged_burned burnable, spares_burned burnable⟩⟩

def asked : Engine := final ((sendProfileReq .loopback "alice").run acquainted)

theorem frame_survives_burn : (∃ done, (sendProfileReq .loopback "alice").run acquainted =
      .ok done asked) ∧
    ∃ after, (burnRelationship "alice").run asked = .ok () after ∧ ¬ Purged "alice" after := by
  have known : ∃ row, asked.db.relationship "alice" = some row :=
    Option.isSome_iff_exists.mp (by decide +kernel)
  obtain ⟨rel, known⟩ := known
  refine ⟨eq_ok_of_failure (by decide +kernel), burned "alice" asked,
    run_burn_of_known known, fun purged => ?_⟩
  have row : ∃ row ∈ asked.db.ciphertexts.rows, row.relId = "alice" := by decide +kernel
  obtain ⟨row, mem, own⟩ := row
  exact purged.ciphertexts row mem own

end SChatCore.Erasure
