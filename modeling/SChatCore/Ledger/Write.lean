import SChatCore.Engine.Api
import SChatCore.Engine.Growth
import SChatCore.Ledger.Refine

namespace SChatCore.Ledger

open Data Data.Action Wire Store Policy Engine

/-! Everything an engine does comes down to single writes, each under what the
engine has checked by then. -/

/-- The ratchet made `frame` of an envelope with this id. -/
def Produced (sys : Platform) (calls : List RatchetCall) (msgId : MsgId) (frame : Bytes) : Prop :=
  ∃ history rest rel plain kind body, ∃ env : Envelope,
    calls = history ++ .encrypt rel plain :: rest ∧
      env.encode sys.nfc = .ok plain ∧ env.msgId = msgId ∧
      sys.messageEncrypt history rel plain = .ok (kind, body) ∧
      frameOf kind body = .ok frame

/-- The record wraps the ciphertext on file. -/
def Sealed (db : Db) (rel : RelId) (msgId : MsgId) (record : Bytes) : Prop :=
  ∃ frame padding, db.storedCiphertext rel msgId = some frame ∧
    Wire.buildRecord padding frame = .ok record

/-- Where a change of the agreed TTL puts the horizon of what is on file. -/
def horizon (old new : UInt32) (now : Nat) : Option Nat :=
  if new ≠ ttlNever ∧ (old = ttlNever ∨ new < old) then
    some (now + new.toNat)
  else none

def Named (db : Db) : Prop := ∀ row ∈ db.attachments, row.msgId = row.headId

/-- `guard` is what the book allows; own ids are drawn from `floor` on. -/
inductive Write (sys : Platform) (guard : Book → Move → Prop)
    (floor : Nat) : Engine → Engine → Prop
  | aside {before after : Engine} (aside : Aside before after) :
      Write sys guard floor before after
  | tick (eng : Engine) (seconds : Nat) : Write sys guard floor eng
        { eng with clock := eng.clock + seconds }
  /-- Profiles and the engine's own settings. -/
  | note {eng : Engine} {db : Db} (same : { db with
        profiles := eng.db.profiles
        settings := eng.db.settings } = eng.db)
      (floors : db.settings.outSeqFloor = eng.db.settings.outSeqFloor) :
      Write sys guard floor eng { eng with db }
  /-- Attachments and their chunks. -/
  | media {eng : Engine} {db : Db} (same : { db with
        attachments := eng.db.attachments
        chunks := eng.db.chunks } = eng.db)
      (named : Named eng.db → Named db) :
      Write sys guard floor eng { eng with db }
  /-- Columns other than the cut, the close state and the policy. -/
  | contact {eng : Engine} {rel : RelId}
      {assign : RelationshipRow → RelationshipRow}
      {keepsKey : ∀ row, (assign row).relId = row.relId}
      (kept : ∀ row, contactOf (assign row) = contactOf row)
      (ttl : ∀ row, (assign row).policyTtlSec = row.policyTtlSec)
      (broken : ∀ row, row.sessionState = .broken → (assign row).sessionState = .broken) :
      Write sys guard floor eng { eng with
        db := eng.db.updateRelationship rel assign keepsKey }
  /-- The policy columns, with what the change asks of the rows on file. -/
  | agree {eng : Engine} {rel : RelId} {next : PolicyState}
      {outcome : ApplyOutcome}
      (clamped : ∀ row, eng.db.relationship rel = some row → outcome.clampExpiryTo =
          horizon row.policyTtlSec next.ttlSec eng.clock) :
      Write sys guard floor eng { eng with
        db := clampAndErase rel outcome (savePolicy rel next eng.db) }
  | edit (eng : Engine) (target : MsgId) (payload : Bytes)
      (editSeq : UInt64) : Write sys guard floor eng { eng with
        db := eng.db.markEdited target payload editSeq }
  | blank (eng : Engine) (target : MsgId) :
      Write sys guard floor eng { eng with
        db := eng.db.markTombstoned target }
  | read (eng : Engine) (target : MsgId) (readAt : Nat) :
      Write sys guard floor eng { eng with
        db := eng.db.markRead target readAt }
  | tombstone (eng : Engine) (rel : RelId) (target : MsgId) :
      Write sys guard floor eng { eng with
        db := eng.db.addTombstone rel target eng.clock }
  | prune {eng : Engine} {rel : RelId}
      (allowed : guard (book eng) (.prune rel)) :
      Write sys guard floor eng { eng with
        db := eng.db.pruneTombstones rel eng.clock }
  | opened (eng : Engine) (rel : RelId) (frame : Bytes) :
      Write sys guard floor eng { eng with
        ratchet := eng.ratchet ++ [.decrypt rel frame] }
  | frame (eng : Engine) (rel : RelId) (frame : Bytes) :
      Write sys guard floor eng { eng with
        db := noteInboundFrame sys rel frame eng.clock eng.db }
  | hear {eng : Engine} {rel : RelId} {seq : UInt64}
      (allowed : guard (book eng) (.hear rel seq)) :
      Write sys guard floor eng { eng with
        db := eng.db.noteInboundSeq rel seq }
  | raise {eng : Engine} {rel : RelId} {seq : UInt64}
      (allowed : guard (book eng) (.raise rel seq)) :
      Write sys guard floor eng { eng with
        db := eng.db.raiseHistoryCut rel seq }
  | close {eng : Engine} {rel : RelId}
      (allowed : guard (book eng) (.close rel)) :
      Write sys guard floor eng { eng with
        db := eng.db.setClosing rel }
  | allocate {eng : Engine} {rel : RelId} (allowed : guard (book eng)
        (.allocate rel (eng.db.nextOutSeq rel).1)) :
      Write sys guard floor eng { eng with
        db := (eng.db.nextOutSeq rel).2
        draws := eng.draws + 1 }
  /-- A number and an id are taken and the envelope goes to the ratchet. -/
  | speak {eng : Engine} {rel : RelId} {env : Envelope}
      {plain : Bytes} (drawn : floor ≤ eng.draws)
      (own : env.msgId = sys.randomMsgId eng.draws)
      (encoded : env.encode sys.nfc = .ok plain)
      (allowed : guard (book eng) (.speak rel plain (eng.db.nextOutSeq rel).1)) :
      Write sys guard floor eng { eng with
        db := (eng.db.nextOutSeq rel).2
        draws := eng.draws + 1
        ratchet := eng.ratchet ++ [.encrypt rel plain] }
  | cipher {eng : Engine} {rel : RelId} {msgId : MsgId} {frame : Bytes}
      {db : Db} (produced : Produced sys eng.ratchet msgId frame)
      (stored : storeCiphertext msgId rel frame eng.clock eng.db =
        .ok db) : Write sys guard floor eng { eng with db }
  | post {eng : Engine} {rel : RelId} {env : Envelope} {payload : Bytes}
      {expiry : Option Nat} {db : Db}
      (minted : ∃ index, floor ≤ index ∧ index < eng.draws ∧ env.msgId = sys.randomMsgId index)
      (encoded : env.payload.encode sys.nfc = .ok payload)
      (lasts : messageExpiry eng.db rel eng.clock = .ok expiry)
      (inserted : eng.db.insertMessage eng.clock
        (outboundMessage rel env eng.clock payload expiry) = .ok db)
      (allowed : guard (book eng) (.write env.msgId (entryOf
        ((outboundMessage rel env eng.clock payload expiry).row eng.clock))))
      (unbroken : sessionState eng.db rel ≠ .broken) :
      Write sys guard floor eng { eng with db }
  | deliver {eng : Engine} {rel : RelId} {env : Envelope} {sentAt : Nat}
      {payload : Bytes} {expiry : Option Nat} {db : Db}
      (uncut : isCut rel env eng.clock eng.db = false)
      (encoded : env.payload.encode sys.nfc = .ok payload)
      (lasts : messageExpiry eng.db rel eng.clock = .ok expiry)
      (inserted : eng.db.insertMessage eng.clock
        (inboundMessage rel env sentAt eng.clock payload expiry) = .ok db)
      (allowed : guard (book eng) (.write env.msgId (entryOf
        ((inboundMessage rel env sentAt eng.clock payload expiry).row
          eng.clock)))) : Write sys guard floor eng { eng with db }
  | settle {eng : Engine} {msgId : MsgId} {state : DeliveryState}
      (allowed : guard (book eng) (.settle msgId state)) :
      Write sys guard floor eng { eng with
        db := eng.db.setDelivery msgId state }
  | enqueue {eng : Engine} {rel : RelId} {msgId : MsgId} {record : Bytes}
      {db : Db} (wrapped : Sealed eng.db rel msgId record)
      (queued : eng.db.enqueue msgId rel record messageTtlSecs eng.clock = .ok db)
      (allowed : guard (book eng) (.enqueue msgId rel)) :
      Write sys guard floor eng { eng with db }
  | requeue {eng : Engine} {rel : RelId} {msgId : MsgId} {record : Bytes}
      (wrapped : Sealed eng.db rel msgId record)
      (allowed : guard (book eng) (.enqueue msgId rel)) :
      Write sys guard floor eng { eng with
        db := eng.db.requeue msgId rel record messageTtlSecs eng.clock }
  | handOver {eng : Engine} {msgId : MsgId} {row : OutboxRow}
      (queued : eng.db.outbox.lookup msgId = some row) :
      Write sys guard floor eng { eng with
        writes := eng.writes ++ [(msgId, row.record)] }
  | retry (eng : Engine) (msgId : MsgId) (backoffSecs : Nat) :
      Write sys guard floor eng { eng with
        db := eng.db.noteAttempt msgId backoffSecs eng.clock }
  | dequeue {eng : Engine} {chosen : OutboxRow → Bool}
      (allowed : guard (book eng) (.dequeue { msgId |
        (eng.db.outbox.lookup msgId).any chosen = true })) :
      Write sys guard floor eng { eng with
        db := { eng.db with outbox := eng.db.outbox.delete chosen } }
  | fail {eng : Engine} {rel : RelId}
      (allowed : guard (book eng) (.fail rel)) :
      Write sys guard floor eng { eng with
        db := eng.db.failRelationshipOutbound rel }
  | expire {eng : Engine} (allowed : guard (book eng) (.erase { msgId |
        (eng.db.message msgId).any (MessageRow.expired eng.clock) = true })) :
      Write sys guard floor eng { eng with
        db := eng.db.sweepExpired eng.clock }
  | forget {eng : Engine} {rel : RelId} {keep : List MsgId}
      (allowed : guard (book eng) (.erase { msgId | (eng.db.message msgId).any (fun row =>
          row.relId = rel && !keep.contains row.msgId) = true })) :
      Write sys guard floor eng { eng with
        db := eng.db.eraseHistory rel keep }
  | burn {eng : Engine} {rel : RelId}
      (allowed : guard (book eng) (.burn rel)) :
      Write sys guard floor eng { eng with
        db := eng.db.burn rel
        ratchet := eng.ratchet ++ [.wipe rel]
        presence := eng.presence.forget rel
        typing := eng.typing.forget rel
        stickerPending := .empty }

namespace Write

variable {guard : Book → Move → Prop}

theorem mono (write : Write sys guard floor before after)
    (weaken : ∀ book move, guard book move → weaker book move)
    (below : lower ≤ floor) : Write sys weaker lower before after := by
  cases write with
  | aside aside => exact .aside aside
  | tick => exact .tick _ _
  | note same floors => exact .note same floors
  | media same named => exact .media same named
  | contact kept ttl broken => exact .contact kept ttl broken
  | agree clamped => exact .agree clamped
  | edit => exact .edit _ _ _ _
  | blank => exact .blank _ _
  | read => exact .read _ _ _
  | tombstone => exact .tombstone _ _ _
  | prune allowed => exact .prune (weaken _ _ allowed)
  | opened => exact .opened _ _ _
  | frame => exact .frame _ _ _
  | hear allowed => exact .hear (weaken _ _ allowed)
  | raise allowed => exact .raise (weaken _ _ allowed)
  | close allowed => exact .close (weaken _ _ allowed)
  | allocate allowed => exact .allocate (weaken _ _ allowed)
  | speak drawn own encoded allowed =>
    exact .speak (below.trans drawn) own encoded (weaken _ _ allowed)
  | cipher produced stored => exact .cipher produced stored
  | post minted encoded lasts inserted allowed unbroken =>
    obtain ⟨index, above, drawn, own⟩ := minted
    exact .post ⟨index, below.trans above, drawn, own⟩ encoded lasts inserted
      (weaken _ _ allowed) unbroken
  | deliver uncut encoded lasts inserted allowed =>
    exact .deliver uncut encoded lasts inserted (weaken _ _ allowed)
  | settle allowed => exact .settle (weaken _ _ allowed)
  | enqueue wrapped queued allowed => exact .enqueue wrapped queued (weaken _ _ allowed)
  | requeue wrapped allowed => exact .requeue wrapped (weaken _ _ allowed)
  | handOver queued => exact .handOver queued
  | retry => exact .retry _ _ _
  | dequeue allowed => exact .dequeue (weaken _ _ allowed)
  | fail allowed => exact .fail (weaken _ _ allowed)
  | expire allowed => exact .expire (weaken _ _ allowed)
  | forget allowed => exact .forget (weaken _ _ allowed)
  | burn allowed => exact .burn (weaken _ _ allowed)

theorem draws_le (write : Write sys guard floor before after) : before.draws ≤ after.draws := by
  cases write with
  | aside aside => exact aside.draws
  | allocate => exact Nat.le_succ _
  | speak => exact Nat.le_succ _
  | _ => exact le_rfl

theorem book_aside (aside : Aside before after) : book after = book before :=
  book_congr (congrArg Db.messages aside.db :) (congrArg Db.outbox aside.db :)
    (congrArg Db.inboundSeqs aside.db :) (congrArg (fun db => db.settings.outSeqFloor) aside.db :)
    (congrArg Db.relationships aside.db :) (by rw [aside.ratchet])

theorem book_clampAndErase {eng : Engine} (rel : RelId) (outcome : ApplyOutcome) (db : Db) :
    book { eng with db := clampAndErase rel outcome db } = book { eng with db } := by
  obtain ⟨clamped, shape, source⟩ := clampAndErase_eq rel outcome db
  have same : book { eng with db := clamped } = book { eng with db } := by
    obtain ⟨-, rfl⟩ | ⟨limit, -, rfl⟩ := source
    · rfl
    · exact @book_updateMessages { eng with db } _ _ _ fun _ => rfl
  rw [shape]
  split
  · exact (book_eraseAttachMessages rel _).trans same
  · exact same

theorem spokenOf_append (silent : spokenOf call = none) :
    (calls ++ [call]).filterMap spokenOf = calls.filterMap spokenOf := by
  rw [List.filterMap_append]
  simp [silent]

/-- In the book a write is a move the guard allows, or nothing at all. What is
written as sent goes to a session that is not broken. -/
theorem move (write : Write sys guard floor before after) :
    book after = book before ∨ ∃ move, guard (book before) move ∧
      (book before).apply move = book after ∧
      ∀ msgId entry, move = .write msgId entry → entry.direction = .out →
        sessionState before.db entry.relId ≠ .broken := by
  cases write with
  | aside aside => exact .inl (book_aside aside)
  | note same floors =>
    exact .inl (book_congr (congrArg Db.messages same :)
      (congrArg Db.outbox same :) (congrArg Db.inboundSeqs same :) floors
      (congrArg Db.relationships same :) rfl)
  | media same =>
    exact .inl (book_congr (congrArg Db.messages same :)
      (congrArg Db.outbox same :) (congrArg Db.inboundSeqs same :)
      (congrArg (fun db => db.settings.outSeqFloor) same :)
      (congrArg Db.relationships same :) rfl)
  | contact kept => exact .inl (book_updateRelationship kept)
  | agree => exact .inl ((book_clampAndErase _ _ _).trans (book_updateRelationship fun _ => rfl))
  | edit | blank | read => exact .inl (book_updateMessages fun _ => rfl)
  | opened => exact .inl (book_congr rfl rfl rfl rfl rfl (spokenOf_append rfl))
  | hear allowed => exact .inr ⟨_, allowed, (book_noteInboundSeq _ _).symm, nofun⟩
  | raise allowed => exact .inr ⟨_, allowed, (book_raiseHistoryCut _ _).symm, nofun⟩
  | close allowed => exact .inr ⟨_, allowed, (book_setClosing _).symm, nofun⟩
  | allocate allowed => exact .inr ⟨_, allowed, (book_nextOutSeq _).symm, nofun⟩
  | speak _ _ _ allowed => exact .inr ⟨_, allowed, book_spoken.symm, nofun⟩
  | cipher _ stored =>
    obtain ⟨ciphertexts, -, rfl⟩ := storeCiphertext_eq_ok stored
    exact .inl rfl
  | post _ _ _ inserted allowed unbroken =>
    refine .inr ⟨_, allowed, (book_insertMessage inserted).symm, ?_⟩
    intro msgId entry same _
    cases same
    exact unbroken
  | deliver _ _ _ inserted allowed =>
    refine .inr ⟨_, allowed, (book_insertMessage inserted).symm, ?_⟩
    intro msgId entry same out
    cases same
    cases out
  | settle allowed => exact .inr ⟨_, allowed, (book_setDelivery _ _).symm, nofun⟩
  | enqueue _ queued allowed => exact .inr ⟨_, allowed, (book_enqueue queued).symm, nofun⟩
  | requeue _ allowed => exact .inr ⟨_, allowed, (book_requeue _ _ _ _ _).symm, nofun⟩
  | retry => exact .inl (book_noteAttempt _ _ _)
  | prune allowed => exact .inr ⟨_, allowed, rfl, nofun⟩
  | dequeue allowed => exact .inr ⟨_, allowed, (book_deleteOutbox _).symm, nofun⟩
  | fail allowed => exact .inr ⟨_, allowed, (book_failRelationshipOutbound _).symm, nofun⟩
  | expire allowed | forget allowed =>
    exact .inr ⟨_, allowed, (book_deleteMessages _ rfl).symm, nofun⟩
  | burn allowed =>
    refine .inr ⟨_, allowed, (book_burn _).symm.trans ?_, nofun⟩
    symm
    exact book_congr rfl rfl rfl rfl rfl (spokenOf_append rfl)
  | _ => exact .inl rfl

end Write

def Writes (sys : Platform) (guard : Book → Move → Prop) (floor : Nat) : Engine → Engine → Prop :=
  Relation.ReflTransGen (Write sys guard floor)

instance (sys : Platform) (guard : Book → Move → Prop) (floor : Nat) :
    IsPreorder Engine (Writes sys guard floor) where
  refl _ := .refl
  trans _ _ _ := .trans

/-- With ids drawn from where the run starts. -/
def Traced (sys : Platform) (guard : Book → Move → Prop) (before after : Engine) : Prop :=
  Writes sys guard before.draws before after

section

variable {guard : Book → Move → Prop}

theorem Writes.draws_le (writes : Writes sys guard floor before after) :
    before.draws ≤ after.draws := by
  induction writes with
  | refl => exact le_rfl
  | tail _ write ih => exact ih.trans write.draws_le

theorem Writes.mono (writes : Writes sys guard floor before after)
    (weaken : ∀ book move, guard book move → weaker book move)
    (below : lower ≤ floor) : Writes sys weaker lower before after :=
  Relation.ReflTransGen.mono (fun _ _ write => write.mono weaken below) _ _ writes

theorem Writes.book (writes : Writes sys guard floor before after) :
    Relation.ReflTransGen (Book.Step guard) (Ledger.book before) (Ledger.book after) := by
  induction writes with
  | refl => exact .refl
  | tail _ write ih =>
    obtain same | ⟨move, allowed, moved, -⟩ := write.move
    · rw [same]
      exact ih
    · exact ih.tail ⟨move, allowed, moved⟩

theorem Writes.invariant {holds : Engine → Prop}
    (step : ∀ before after, Write sys guard floor before after → holds before → holds after)
    (writes : Writes sys guard floor before after) (start : holds before) : holds after := by
  induction writes with
  | refl => exact start
  | tail _ write ih => exact step _ _ write ih

instance : IsPreorder Engine (Traced sys guard) where
  refl _ := .refl
  trans _ _ _ left right := left.trans (right.mono (fun _ _ allowed => allowed) left.draws_le)

theorem Traced.of_write (write : Write sys guard before.draws before after) :
    Traced sys guard before after :=
  .single write

theorem Traced.of_aside (aside : Aside before after) :
    Traced sys guard before after :=
  .of_write (.aside aside)

theorem traced_of_writes (writes : ∀ floor, Keeps (Writes sys guard floor) action) :
    Keeps (Traced sys guard) action :=
  fun eng => writes eng.draws eng

end

/-- What an engine may be made to say: any payload, but a resync request only
as it is. -/
structure Permits (sys : Platform)
    (said : Book → RelId → Payload → Prop) : Prop where
  request : ∀ eng rel, said (book eng) rel (.resyncReq (requestOf sys eng.db rel))
  other : ∀ book rel payload, payload.envelopeType ≠ .resyncReq → said book rel payload

abbrev Evolves (sys : Platform) (said : Book → RelId → Payload → Prop) : Engine → Engine → Prop :=
  Traced sys (Routine sys.nfc said)

variable {sys : Platform} {said : Book → RelId → Payload → Prop}
  {rel : RelId} {eng : Engine} {floor : Nat}

theorem writes_draw : Keeps (Writes sys (Routine sys.nfc said) floor) draw :=
  keeps_modifyGet fun _ =>
    .single (.aside (.of_db rfl rfl rfl (Nat.le_succ _) rfl))

theorem pending_of_legal (lawful : legal state .transmitted = true) :
    state = .queued ∨ state = .transmitted := by
  cases state <;> first | exact .inl rfl | exact .inr rfl | cases lawful

theorem writes_markTransmitted (msgId : MsgId) : Keeps (Writes sys (Routine sys.nfc said) floor)
      (markTransmitted msgId) := by
  intro eng
  unfold markTransmitted
  rw [run_transition]
  split
  · exact .refl
  · rename_i row found
    split
    · rename_i lawful
      exact .single (.settle ⟨rfl, entryOf row,
        congrArg (Option.map entryOf) found, pending_of_legal lawful⟩)
    · exact .refl

theorem writes_attemptRecord {msgId : MsgId} {row : OutboxRow}
    (queued : eng.db.outbox.lookup msgId = some row) :
    Writes sys (Routine sys.nfc said) floor eng
      (final ((attemptRecord sys msgId row.record).run eng)) := by
  unfold attemptRecord
  rw [run_bind_ok (run_sendRecord sys eng msgId row.record)]
  refine trans_of (Writes sys _ floor) (.single (.handOver queued)) ?_
  split
  · refine keeps_bind (keeps_writeDb fun _ => .single (.dequeue trivial)) (fun _ => ?_) _
    exact writes_markTransmitted msgId
  · exact .refl

theorem writes_markBroken : Keeps (Writes sys (Routine sys.nfc said) floor) (markBroken rel) := by
  refine keeps_writeDb fun eng => ?_
  have broken : Writes sys (Routine sys.nfc said) floor eng
      { eng with db := eng.db.setBroken rel } :=
    .single (.contact (fun _ => rfl) (fun _ => rfl) fun _ _ => rfl)
  exact broken.tail (.fail trivial)

theorem writes_failSession (error : SignalError) : Keeps (Writes sys (Routine sys.nfc said) floor)
      (failSession rel error : Action α) := by
  unfold failSession
  split
  · exact keeps_bind writes_markBroken fun _ => keeps_throw _
  · exact keeps_throw _

theorem writes_commitEnvelope {env : Envelope} {record : Bytes}
    (minted : ∃ index, floor ≤ index ∧ index < eng.draws ∧ env.msgId = sys.randomMsgId index)
    (wrapped : Sealed eng.db rel env.msgId record) (unbroken : sessionState eng.db rel ≠ .broken) :
    Writes sys (Routine sys.nfc said) floor eng (final
      ((commitEnvelope sys rel env eng.clock record).run eng)) := by
  unfold commitEnvelope store wire
  rw [bind_readDb, EStateM.run_bind]
  cases lasts : messageExpiry eng.db rel eng.clock with
  | error error => exact .refl
  | ok expiry =>
    rw [run_ofExcept_ok]
    simp only
    rw [EStateM.run_bind]
    cases encoded : env.payload.encode sys.nfc with
    | error error => exact .refl
    | ok payload =>
      rw [run_ofExcept_ok]
      simp only
      rw [EStateM.run_bind, run_tryDb]
      cases inserted : eng.db.insertMessage eng.clock
          (outboundMessage rel env eng.clock payload expiry) with
      | error error => exact .refl
      | ok ledgered =>
        have wrote : Writes sys (Routine sys.nfc said) floor eng { eng with db := ledgered } := by
          refine .single (.post minted encoded lasts inserted ⟨?_, .inl rfl⟩ unbroken)
          obtain ⟨messages, stored, -⟩ := Db.insertMessage_eq_ok.mp inserted
          exact congrArg (Option.map entryOf) (Table.insert_eq_some.mp stored).1
        have own := (Db.message_insertMessage inserted env.msgId).trans (if_pos rfl)
        obtain ⟨messages, stored, rfl⟩ := Db.insertMessage_eq_ok.mp inserted
        simp only
        rw [EStateM.run_bind, run_tryDb]
        simp only
        cases queued : Db.enqueue env.msgId rel record messageTtlSecs
            eng.clock { eng.db with messages } with
        | error error => exact wrote
        | ok waiting =>
          have waits := wrote.tail (.enqueue wrapped queued
            ⟨entryOf _, congrArg (Option.map entryOf) own, rfl, rfl, .inl rfl⟩)
          have entry := (Db.lookup_enqueue queued env.msgId).trans (if_pos rfl)
          exact trans_of (Writes sys _ floor) waits (@writes_attemptRecord sys said
              { eng with db := waiting } floor _ _ entry)

theorem writes_encrypt {env : Envelope}
    (silent : Writes sys (Routine sys.nfc said) floor eng minted)
    (spoken : Writes sys (Routine sys.nfc said) floor eng { minted with
        ratchet := minted.ratchet ++ [.encrypt rel plain] })
    (encoded : env.encode sys.nfc = .ok plain) :
    Writes sys (Routine sys.nfc said) floor eng (final
      ((encrypt sys rel env.msgId plain minted.clock).run minted)) := by
  unfold encrypt
  simp only [EStateM.run_bind, run_readDb]
  split
  · exact silent
  · split
    · exact silent
    · exact silent
    · split
      · split <;> exact silent
      · rw [run_encryptFresh]
        refine trans_of (Writes sys _ floor) spoken ?_
        cases made : sys.messageEncrypt minted.ratchet rel plain with
        | error error => exact writes_failSession error _
        | ok result =>
          obtain ⟨kind, body⟩ := result
          simp only
          rw [EStateM.run_bind]
          cases framed : frameOf kind body with
          | error error => exact .refl
          | ok frame =>
            rw [run_ofExcept_ok]
            simp only
            rw [EStateM.run_bind, run_tryDb]
            cases stored : storeCiphertext env.msgId rel frame minted.clock minted.db with
            | error error => exact .refl
            | ok db =>
              exact .single (.cipher ⟨minted.ratchet, [], rel, plain,
                kind, body, env, rfl, encoded, rfl, made, framed⟩ stored)

theorem writes_wrapUp {env : Envelope} {frame : Bytes} {sent : α}
    (minted : ∃ index, floor ≤ index ∧ index < eng.draws ∧ env.msgId = sys.randomMsgId index)
    (stored : eng.db.storedCiphertext rel env.msgId = some frame)
    (unbroken : sessionState eng.db rel ≠ .broken) :
    Writes sys (Routine sys.nfc said) floor eng (final ((do
      let record ← Engine.buildRecord sys frame
      commitEnvelope sys rel env eng.clock record
      return sent : Action α).run eng)) := by
  rw [EStateM.run_bind, run_buildRecord]
  have drawn : Writes sys (Routine sys.nfc said) floor eng
      { eng with draws := eng.draws + 1 } := writes_draw eng
  cases built : Wire.buildRecord (sys.padding eng.draws) frame with
  | error error => exact drawn
  | ok record =>
    refine trans_of (Writes sys _ floor) drawn ?_
    refine related_bind ?_ fun _ => keeps_pure _
    obtain ⟨index, above, below, own⟩ := minted
    exact @writes_commitEnvelope sys said rel { eng with draws := eng.draws + 1 } floor env record
      ⟨index, above, below.trans (Nat.lt_succ_self _), own⟩
      ⟨frame, _, stored, built⟩ unbroken

theorem evolves_sendEnvelope {payload : Payload} (refId : Option MsgId)
    (permitted : said (book eng) rel payload) :
    Evolves sys said eng (final ((sendEnvelope sys rel payload refId).run eng)) := by
  show Writes sys _ eng.draws eng _
  unfold sendEnvelope
  rw [EStateM.run_bind, run_loadRelationship]
  split
  · rename_i row next loaded
    split at loaded
    · cases loaded
      rw [bind_readDb, EStateM.run_bind]
      cases gateOutbound eng.db row payload.envelopeType with
      | error error => exact .refl
      | ok _ =>
        simp only [run_ofExcept_ok]
        rw [bind_now, run_bind_ok (run_updateDb eng _), run_bind_ok (run_randomMsgId sys _)]
        have rises := floor_le_nextOutSeq rel eng.db
        have silent : Writes sys (Routine sys.nfc said) eng.draws eng { eng with
              db := (eng.db.nextOutSeq rel).2
              draws := eng.draws + 1 } :=
          .single (.allocate rises)
        rw [EStateM.run_bind]
        cases encoded : Envelope.encode sys.nfc {
            msgId := sys.randomMsgId eng.draws
            appSeq := (eng.db.nextOutSeq rel).1
            sentAt := UInt64.ofNat eng.clock
            refId := refId
            payload := payload } with
        | error error => exact silent
        | ok plain =>
          have spoken : Writes sys (Routine sys.nfc said) eng.draws eng { eng with
                db := (eng.db.nextOutSeq rel).2
                draws := eng.draws + 1
                ratchet := eng.ratchet ++ [.encrypt rel plain] } :=
            .single (.speak le_rfl rfl encoded ⟨rises, _, encoded, rfl, permitted⟩)
          have sealing := writes_encrypt silent spoken encoded
          refine final_bind (fun error middle ran => ?_) fun frame middle ran => ?_
          · rw [ran] at sealing
            exact sealing
          rw [ran] at sealing
          refine trans_of (Writes sys _ eng.draws) sealing ?_
          obtain ⟨unbroken, -, ciphertexts, ratchet, rfl, caches⟩ := encrypt_eq_ok ran
          obtain ⟨row, cached, own, rfl⟩ := caches.own
          exact @writes_wrapUp _ said rel _ eng.draws _ _ _ _
            ⟨eng.draws, le_rfl, Nat.lt_succ_self _, rfl⟩
            (by simp [Db.storedCiphertext, cached, Option.filter, own]) unbroken
    · cases loaded
  · rename_i loaded
    split at loaded
    · cases loaded
    · cases loaded
      exact .refl

end SChatCore.Ledger
