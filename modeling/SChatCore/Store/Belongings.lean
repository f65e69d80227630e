import SChatCore.Store.Attachments
import SChatCore.Store.Outbox
import SChatCore.Store.Relationships

namespace SChatCore.Store

open Data Wire

/-- Nothing that belongs to a relationship other than `rel` changed. -/
structure Isolated (rel : RelId) (before after : Db) : Prop where
  messages : Table.SameBut MessageRow.relId rel before.messages after.messages
  attachments : Table.SameBut AttachmentRow.relId rel before.attachments after.attachments
  chunks : Table.SameBut ChunkRow.relId rel before.chunks after.chunks
  tombstones : Table.SameBut TombstoneRow.relId rel before.tombstones after.tombstones
  outbox : Table.SameBut OutboxRow.relId rel before.outbox after.outbox
  inboundSeqs : Table.SameBut InboundSeqRow.relId rel before.inboundSeqs after.inboundSeqs
  relationship : ∀ other, other ≠ rel → after.relationship other = before.relationship other

namespace Isolated

theorem refl (rel : RelId) (db : Db) : Isolated rel db db where
  messages := .refl _ _ _
  attachments := .refl _ _ _
  chunks := .refl _ _ _
  tombstones := .refl _ _ _
  outbox := .refl _ _ _
  inboundSeqs := .refl _ _ _
  relationship _ _ := rfl

theorem trans (left : Isolated rel first second)
    (right : Isolated rel second third) : Isolated rel first third where
  messages := left.messages.trans right.messages
  attachments := left.attachments.trans right.attachments
  chunks := left.chunks.trans right.chunks
  tombstones := left.tombstones.trans right.tombstones
  outbox := left.outbox.trans right.outbox
  inboundSeqs := left.inboundSeqs.trans right.inboundSeqs
  relationship other foreign :=
    (right.relationship other foreign).trans (left.relationship other foreign)

theorem symm (isolated : Isolated rel before after) : Isolated rel after before where
  messages := isolated.messages.symm
  attachments := isolated.attachments.symm
  chunks := isolated.chunks.symm
  tombstones := isolated.tombstones.symm
  outbox := isolated.outbox.symm
  inboundSeqs := isolated.inboundSeqs.symm
  relationship other foreign := (isolated.relationship other foreign).symm

theorem iff_of_left (left : Isolated rel first second) :
    Isolated rel first third ↔ Isolated rel second third :=
  ⟨left.symm.trans, left.trans⟩

theorem iff_of_right (right : Isolated rel second third) :
    Isolated rel first third ↔ Isolated rel first second :=
  ⟨fun whole => whole.trans right.symm, fun left => left.trans right⟩

/-! The statements that name a relationship. -/

theorem updateRelationship (assign : RelationshipRow → RelationshipRow)
    (keepsKey : ∀ row, (assign row).relId = row.relId) :
    Isolated rel db (db.updateRelationship rel assign keepsKey) where
  __ := refl rel db
  relationship other foreign :=
    (Db.relationship_updateRelationship rel other assign keepsKey db).trans (if_neg foreign)

theorem noteInboundSeq (appSeq : UInt64) : Isolated rel db (db.noteInboundSeq rel appSeq) where
  __ := refl rel db
  inboundSeqs := .insertOrIgnore rfl

theorem addTombstone (refId : MsgId) (now : Nat) :
    Isolated rel db (db.addTombstone rel refId now) where
  __ := refl rel db
  tombstones := by
    unfold Db.addTombstone
    cases inserted : db.tombstones.insert
        { relId := rel, refId, expiry := now + Db.tombstoneTtlSec } with
    | none =>
      simp only [inserted]
      refine Table.SameBut.update (fun _ => by rfl) fun row _ hit => ?_
      simp only [Bool.and_eq_true, decide_eq_true_eq] at hit
      exact ⟨hit.1, hit.1⟩
    | some result =>
      simp only [inserted]
      exact Table.SameBut.insert inserted rfl

theorem failRelationshipOutbound : Isolated rel db (db.failRelationshipOutbound rel) where
  __ := refl rel db
  messages := by
    refine Table.SameBut.update (fun _ => by rfl) fun row _ hit => ?_
    simp only [Bool.and_eq_true, decide_eq_true_eq] at hit
    exact ⟨hit.1.1, hit.1.1⟩
  outbox := .delete fun row _ hit => by simpa using hit

end Isolated

end SChatCore.Store
