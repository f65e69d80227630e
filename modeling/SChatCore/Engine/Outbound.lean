import SChatCore.Engine.Exchange
import SChatCore.Engine.Sending
import SChatCore.Store.Belongings

namespace SChatCore.Engine

open Data Data.Action Wire Store Policy

/-! What sending and the sticker exchange leave alone: everything received,
everything of the other relationships, and all of this one's columns but the
session state and the time of the last policy sync. -/

def backdrop (db : Db) : Db :=
  { Db.empty with
    attachments := db.attachments
    chunks := db.chunks
    tombstones := db.tombstones
    inboundSeqs := db.inboundSeqs
    inboundFrames := db.inboundFrames
    settings := { db.settings with
      outSeqFloor := .empty
      resyncReqAt := .empty } }

def standing (row : RelationshipRow) : RelationshipRow × PolicyState :=
  ({ row with
      sessionState := .active
      policyFlags := 0
      policyWants := 0
      policyPending := none
      policyLastSyncAt := 0 },
    { ofRow row with lastSyncAt := 0 })

def received (db : Db) : List MessageRow := db.messages.select fun row => row.direction = .in_

structure Outbound (rel : RelId) (before after : Engine) : Prop where
  clock : after.clock = before.clock
  isolated : Isolated rel before.db after.db
  backdrop : backdrop after.db = backdrop before.db
  received : received after.db = received before.db
  standing : (after.db.relationship rel).map standing = (before.db.relationship rel).map standing

namespace Outbound

theorem refl (rel : RelId) (eng : Engine) : Outbound rel eng eng where
  clock := rfl
  isolated := .refl rel eng.db
  backdrop := rfl
  received := rfl
  standing := rfl

theorem trans (left : Outbound rel first second)
    (right : Outbound rel second third) : Outbound rel first third where
  clock := right.clock.trans left.clock
  isolated := left.isolated.trans right.isolated
  backdrop := right.backdrop.trans left.backdrop
  received := right.received.trans left.received
  standing := right.standing.trans left.standing

instance (rel : RelId) : IsPreorder Engine (Outbound rel) where
  refl := refl rel
  trans _ _ _ := trans

theorem of_aside (aside : Aside before after) : Outbound rel before after where
  clock := aside.clock
  isolated := {
    messages := (congrArg Db.messages aside.db :) ▸ .refl _ _ _
    attachments := (congrArg Db.attachments aside.db :) ▸ .refl _ _ _
    chunks := (congrArg Db.chunks aside.db :) ▸ .refl _ _ _
    tombstones := (congrArg Db.tombstones aside.db :) ▸ .refl _ _ _
    outbox := (congrArg Db.outbox aside.db :) ▸ .refl _ _ _
    inboundSeqs := (congrArg Db.inboundSeqs aside.db :) ▸ .refl _ _ _
    relationship := fun other _ =>
      (congrArg (fun db => Db.relationship db other) aside.db :) }
  backdrop := (congrArg Engine.backdrop aside.db :)
  received := (congrArg Engine.received aside.db :)
  standing := (congrArg (fun db => (Db.relationship db rel).map Engine.standing) aside.db :)

theorem tombstones (outbound : Outbound rel eng after) : after.db.tombstones = eng.db.tombstones :=
  (congrArg Db.tombstones outbound.backdrop :)

theorem nextOutSeq : Outbound rel eng { eng with db := (eng.db.nextOutSeq rel).2 } where
  clock := rfl
  isolated := { Isolated.refl rel eng.db with }
  backdrop := rfl
  received := rfl
  standing := rfl

theorem setResyncReqAt (value : Nat) : Outbound rel eng
    { eng with db := eng.db.setResyncReqAt rel value } where
  clock := rfl
  isolated := { Isolated.refl rel eng.db with }
  backdrop := rfl
  received := rfl
  standing := rfl

theorem updateRelationship (kept : ∀ row, eng.db.relationship rel = some row →
      Engine.standing (assign row) = Engine.standing row) :
    Outbound rel eng { eng with
      db := eng.db.updateRelationship rel assign keepsKey } where
  clock := rfl
  isolated := .updateRelationship assign keepsKey
  backdrop := rfl
  received := rfl
  standing := by
    show ((eng.db.updateRelationship rel assign keepsKey).relationship rel).map _ = _
    rw [Db.relationship_updateRelationship, if_pos rfl]
    cases found : eng.db.relationship rel with
    | none => rfl
    | some row => simp [kept row found]

theorem standing_saved (current : { state with lastSyncAt := 0 } =
      { ofRow row with lastSyncAt := 0 }) :
    Engine.standing (saved state row) = Engine.standing row := by
  have ttl : state.ttlSec = row.policyTtlSec := (congrArg PolicyState.ttlSec current :)
  have localWant : state.localWant = row.policyWants &&& 0xff :=
    (congrArg PolicyState.localWant current :)
  have peerWant : state.peerWant = row.policyWants >>> 8 &&& 0xff :=
    (congrArg PolicyState.peerWant current :)
  have back : ofRow (saved state row) = state :=
    ofRow_saved row (by rw [localWant, byteMask_byteMask]) (by rw [peerWant, byteMask_byteMask])
  unfold Engine.standing
  rw [back, current]
  simp [saved, ttl]

theorem savePolicy (current : ∀ row, eng.db.relationship rel = some row →
      { state with lastSyncAt := 0 } = { ofRow row with lastSyncAt := 0 }) :
    Outbound rel eng { eng with db := savePolicy rel state eng.db } :=
  .updateRelationship fun row found => standing_saved (current row found)

theorem failRelationshipOutbound : Outbound rel eng
    { eng with db := eng.db.failRelationshipOutbound rel } where
  clock := rfl
  isolated := .failRelationshipOutbound
  backdrop := rfl
  received := by
    refine Table.select_update_of_disjoint (fun row _ hit => ?_) fun _ => by rfl
    simp only [Bool.and_eq_true, decide_eq_true_eq] at hit
    simp [hit.1.2]
  standing := rfl

theorem insertMessage {now : Nat} (inserted : eng.db.insertMessage now msg = .ok db)
    (own : msg.relId = rel) (out : msg.direction = .out) :
    Outbound rel eng { eng with db } := by
  obtain ⟨messages, stored, rfl⟩ := Db.insertMessage_eq_ok.mp inserted
  refine ⟨rfl, ?_, rfl, ?_, rfl⟩
  · exact { Isolated.refl rel eng.db with
      messages := Table.SameBut.insert stored own }
  · exact Table.select_insert_of_disjoint stored (by simp [NewMessage.row, out])

theorem enqueue {ttlSecs now : Nat}
    (queued : eng.db.enqueue msgId rel record ttlSecs now = .ok db) :
    Outbound rel eng { eng with db } := by
  obtain ⟨outbox, stored, rfl⟩ := Db.enqueue_eq_ok.mp queued
  exact ⟨rfl, { Isolated.refl rel eng.db with
    outbox := Table.SameBut.insert stored rfl }, rfl, rfl, rfl⟩

theorem dequeue (own : ∀ row, eng.db.outbox.lookup msgId = some row → row.relId = rel) :
    Outbound rel eng { eng with db := eng.db.dequeue msgId } where
  clock := rfl
  isolated := { Isolated.refl rel eng.db with
    outbox := Table.SameBut.delete fun row mem same =>
      own row (Table.lookup_eq_some.mpr ⟨mem, by simpa using same⟩) }
  backdrop := rfl
  received := rfl
  standing := rfl

theorem setDelivery (own : ∀ row, eng.db.message msgId = some row →
      row.relId = rel ∧ row.direction = .out) :
    Outbound rel eng { eng with db := eng.db.setDelivery msgId state } := by
  have chosen : ∀ row ∈ eng.db.messages, decide (row.msgId = msgId) = true →
        row.relId = rel ∧ row.direction = .out := fun row mem same =>
    own row (Table.lookup_eq_some.mpr ⟨mem, by simpa using same⟩)
  refine ⟨rfl, ?_, rfl, ?_, rfl⟩
  · refine { Isolated.refl rel eng.db with messages := ?_ }
    refine Table.SameBut.update (fun _ => by rfl) fun row mem same => ?_
    exact ⟨(chosen row mem same).1, (chosen row mem same).1⟩
  · refine Table.select_update_of_disjoint (fun row mem same => ?_) fun _ => by rfl
    simp [(chosen row mem same).2]

end Outbound

theorem outbound_sends : SendSteps rel (Outbound rel) where
  allocate _ := .nextOutSeq
  log _ _ _ _ := ⟨rfl, .refl _ _, rfl, rfl, rfl⟩
  break_ eng := by
    have broken : Outbound rel eng { eng with db := eng.db.setBroken rel } :=
      .updateRelationship fun _ _ => rfl
    exact broken.trans .failRelationshipOutbound
  cache eng _ := ⟨rfl, { Isolated.refl rel eng.db with }, rfl, rfl, rfl⟩
  file _ _ _ _ inserted own out := .insertMessage inserted own out
  queue _ _ _ _ _ _ queued := .enqueue queued
  unqueue _ _ own := .dequeue own
  deliver _ _ own := .setDelivery own

variable (sys : Platform)

theorem outbound_sendEnvelope (payload : Payload) (refId : Option MsgId) :
    Keeps (Outbound rel) (sendEnvelope sys rel payload refId) :=
  outbound_sends.sendEnvelope sys payload refId

theorem outbound_respects : Respects sys rel (Outbound rel) :=
  .of_aside (fun _ _ => .of_aside) fun ctrl => outbound_sendEnvelope sys (.stickerCtrl ctrl) none

theorem outbound_requestResync : Keeps (Outbound rel) (requestResync sys rel) := by
  refine keeps_bind (keeps_bind ?_ fun _ => keeps_returns keeps_readDb) fun request => ?_
  · refine keeps_read fun db => ?_
    split
    · exact keeps_throw _
    · exact keeps_pure _
  · exact keeps_returns (outbound_sendEnvelope sys _ _)

theorem outbound_sendProfile : Keeps (Outbound rel) (sendProfile sys rel) := by
  refine keeps_read fun db => ?_
  split
  · exact keeps_pure _
  · exact keeps_returns (outbound_sendEnvelope sys _ _)

theorem outbound_maybeRequestResync : Keeps (Outbound rel) (maybeRequestResync sys rel) := by
  refine keeps_clock fun now => keeps_read fun db => ?_
  split
  · exact keeps_pure _
  · refine keeps_bind (keeps_writeDb fun _ => .setResyncReqAt now) fun _ => ?_
    exact keeps_returns (outbound_requestResync sys)

theorem outbound_replySync (current : ∀ row, eng.db.relationship rel = some row →
      { state with lastSyncAt := 0 } = { ofRow row with lastSyncAt := 0 }) :
    Outbound rel eng (final ((replySync sys rel state).run eng)) := by
  unfold replySync
  simp only [EStateM.run_bind, run_now]
  split
  · simp only [EStateM.run_bind, run_writeDb]
    have stored : Outbound rel eng { eng with
        db := savePolicy rel (buildSync state eng.clock).1 eng.db } :=
      .savePolicy current
    refine stored.trans ?_
    exact keeps_bind (outbound_sendEnvelope sys _ _) (fun _ => keeps_pure ()) _
  · exact .refl rel eng

theorem outbound_offerSync : Keeps (Outbound rel) (offerSync sys rel) := by
  intro eng
  unfold offerSync
  simp only [EStateM.run_bind, run_readDb]
  unfold loadPolicy
  cases found : eng.db.relationship rel with
  | none => exact .refl rel eng
  | some row =>
    have step : Outbound rel eng (final ((attempt (sendEnvelope sys rel (.chatPolicy
          (buildSync (ofRow row) eng.clock).2) none)).run eng)) :=
      keeps_attempt (outbound_sendEnvelope sys _ none) eng
    simp only [store, run_ofExcept_ok, run_now]
    cases ran : (attempt (sendEnvelope sys rel
        (.chatPolicy (buildSync (ofRow row) eng.clock).2) none)).run
        eng with
    | error error middle =>
      rw [ran] at step
      exact step
    | ok sent middle =>
      rw [ran] at step
      simp only
      split
      · refine step.trans (.savePolicy fun other current => ?_)
        have same := step.standing
        rw [current, found] at same
        exact (congrArg Prod.snd (Option.some.inj same)).symm
      · exact step
      · exact step

theorem outbound_onRelationshipActive : Keeps (Outbound rel) (onRelationshipActive sys rel) :=
  keeps_bind (outbound_requestResync sys) fun _ =>
    keeps_bind (outbound_sendProfile sys) fun _ =>
      outbound_offerSync sys

end SChatCore.Engine
