import SChatCore.Engine.Send

namespace SChatCore.Engine

open Data Data.Action Wire Store Policy

/-! Exactly when an envelope goes out, and what it leaves. -/

def Passes (db : Db) (rel : RelId) (t : EnvelopeType) : Prop :=
  ∃ row, db.relationship rel = some row ∧ gateOutbound db row t = .ok ()

theorem passes_iff {t : EnvelopeType} : Passes db rel t ↔
      ∃ row, db.relationship rel = some row ∧ row.sessionState ≠ .broken ∧
        ¬ (row.role = .inviter ∧ row.state = .request) ∧
        (row.closeState.isSome = true → settlesClose t = true) ∧
        allows row.peerCaps t = true ∧ policyDenies (ofRow row) t = false := by
  refine exists_congr fun row => and_congr_right fun found => ?_
  have key : row.relId = rel := (Table.lookup_eq_some.mp found).2
  have caps : db.peerCaps row.relId = row.peerCaps := by simp [Db.peerCaps, key, found]
  have closing : db.closeState row.relId = row.closeState := by simp [Db.closeState, key, found]
  have loaded : loadPolicy db row.relId = .ok (ofRow row) := by simp [loadPolicy, key, found]
  unfold gateOutbound
  rw [caps, closing, loaded]
  by_cases broken : row.sessionState = .broken
  · simp [broken]
  by_cases request : row.role = .inviter ∧ row.state = .request
  · simp [broken, request]
  by_cases closes : row.closeState.isSome = true ∧ ¬ settlesClose t = true
  · simp [broken, request, closes]
  have settled : row.closeState.isSome = true → settlesClose t = true := not_and_not_right.mp closes
  rw [if_neg broken, if_neg request, if_neg closes]
  by_cases capable : allows row.peerCaps t = true
  · simpa [broken, request, capable] using fun _ => settled
  · simp [broken, request, capable]

def envelopeFor (sys : Platform) (eng : Engine) (rel : RelId)
    (payload : Payload) (refId : Option MsgId) : Envelope where
  msgId := sys.randomMsgId eng.draws
  appSeq := (eng.db.nextOutSeq rel).1
  sentAt := UInt64.ofNat eng.clock
  refId := refId
  payload := payload

/-- The frame on file under the id, or else what the ratchet makes. -/
def Framed (sys : Platform) (eng : Engine) (rel : RelId)
    (msgId : MsgId) (plain frame : Bytes) : Prop :=
  match eng.db.ciphertexts.lookup msgId with
  | some row => row.relId = rel ∧ row.frameBytes = frame
  | none => ∃ kind body,
      sys.messageEncrypt eng.ratchet rel plain = .ok (kind, body) ∧ frameOf kind body = .ok frame

/-- The gate, the codec, the ratchet and the store each do their part. -/
structure Transmits (sys : Platform) (eng : Engine) (rel : RelId)
    (payload : Payload) (refId : Option MsgId) : Prop where
  passes : Passes eng.db rel payload.envelopeType
  framed : ∃ plain frame, (envelopeFor sys eng rel payload refId).encode sys.nfc = .ok plain ∧
      Framed sys eng rel (sys.randomMsgId eng.draws) plain frame ∧
      recordHeaderBytes + frame.length ≤ maxRecordBytes
  newMessage : eng.db.message (sys.randomMsgId eng.draws) = none
  newEntry : eng.db.outbox.lookup (sys.randomMsgId eng.draws) = none

section

variable {sys : Platform} {eng : Engine} {rel : RelId}

theorem run_encrypt {msgId : MsgId} {plain frame : Bytes} {now : Nat}
    (found : eng.db.relationship rel = some row) (active : row.sessionState ≠ .broken)
    (small : plain.length ≤ maxEnvelopeBytes) (framed : Framed sys eng rel msgId plain frame) :
    ∃ ciphertexts ratchet, (encrypt sys rel msgId plain now).run eng = .ok frame { eng with
          db := { eng.db with ciphertexts }
          ratchet } := by
  have state : sessionState eng.db rel = .active := by
    cases session : row.sessionState with
    | active => simp [sessionState, found, session]
    | broken => exact absurd session active
  unfold encrypt
  rw [bind_readDb, if_neg (by omega), state]
  unfold Framed at framed
  split at framed
  · rename_i cached filed
    obtain ⟨rfl, rfl⟩ := framed
    refine ⟨eng.db.ciphertexts, eng.ratchet, ?_⟩
    simp only [filed]
    exact congrArg (EStateM.run · eng) (if_neg (not_not.mpr rfl))
  · rename_i fresh
    obtain ⟨kind, body, encrypted, wrapped⟩ := framed
    obtain ⟨ciphertexts, stored, -⟩ := Table.insert_of_fresh
      (CiphertextRow.mk msgId rel frame now) fresh
    refine ⟨ciphertexts, eng.ratchet ++ [.encrypt rel plain], ?_⟩
    simp only [fresh]
    rw [run_encryptFresh, encrypted]
    simp only [EStateM.run_bind, wrapped, run_ofExcept_ok, run_tryDb, storeCiphertext, stored]
    rfl

theorem run_attemptRecord {msgId : MsgId} {record : Bytes} {row : MessageRow}
    (found : eng.db.message msgId = some row) (queued : row.state = .queued) :
    ∃ next, (attemptRecord sys msgId record).run eng = .ok () next := by
  unfold attemptRecord
  simp only [EStateM.run_bind, run_sendRecord]
  split
  · simp only [EStateM.run_bind, run_writeDb, markTransmitted, run_transition]
    have still : (eng.db.dequeue msgId).message msgId = some row := found
    rw [still]
    simp only [queued]
    exact ⟨_, rfl⟩
  · exact ⟨_, rfl⟩

theorem run_commitEnvelope {env : Envelope} {now : Nat} {record payload : Bytes}
    (found : eng.db.relationship rel = some row)
    (encoded : env.payload.encode sys.nfc = .ok payload)
    (newMessage : eng.db.message env.msgId = none)
    (newEntry : eng.db.outbox.lookup env.msgId = none) :
    ∃ next, (commitEnvelope sys rel env now record).run eng = .ok () next := by
  have expiry : messageExpiry eng.db rel now = .ok ((ofRow row).expiryAt now) := by
    simp [messageExpiry, loadPolicy, found]
  obtain ⟨ledgered, inserted⟩ := @Db.insertMessage_of_fresh now
    (outboundMessage rel env now payload ((ofRow row).expiryAt now))
    eng.db newMessage
  obtain ⟨messages, wrote, rfl⟩ := Db.insertMessage_eq_ok.mp inserted
  obtain ⟨queuedDb, queued⟩ := @Db.enqueue_of_fresh env.msgId
    { eng.db with messages } newEntry rel record messageTtlSecs now
  obtain ⟨outbox, stored, rfl⟩ := Db.enqueue_eq_ok.mp queued
  have own : Table.lookup messages env.msgId = some ((outboundMessage rel env
      now payload ((ofRow row).expiryAt now)).row now) :=
    (Table.lookup_insert wrote env.msgId).trans (if_pos rfl)
  obtain ⟨next, ran⟩ := @run_attemptRecord sys
    { eng with db := { eng.db with messages, outbox } } _ record _ own rfl
  refine ⟨next, ?_⟩
  unfold commitEnvelope
  simp only [EStateM.run_bind, run_readDb, expiry, store, wire, encoded,
    run_ofExcept_ok, run_tryDb, inserted, queued]
  exact ran

theorem run_sendEnvelope_of_transmits {payload : Payload}
    (transmits : Transmits sys eng rel payload refId) :
    ∃ sent next, (sendEnvelope sys rel payload refId).run eng =
      .ok sent next := by
  obtain ⟨⟨row, found, gate⟩, ⟨plain, frame, encoded, framed, short⟩,
    newMessage, newEntry⟩ := transmits
  let env := envelopeFor sys eng rel payload refId
  obtain ⟨payloadBytes, payloadEncoded, -, -⟩ := Envelope.encode_eq_ok.mp encoded
  have active : row.sessionState ≠ .broken := by
    intro broken
    simp [gateOutbound, broken] at gate
  -- the engine once the number is allocated and the id drawn
  let minted : Engine := { eng with
    db := (eng.db.nextOutSeq rel).2
    draws := eng.draws + 1 }
  obtain ⟨ciphertexts, ratchet, encrypts⟩ := @run_encrypt sys minted rel
    row env.msgId plain frame eng.clock found active
    (Envelope.length_le_of_encode encoded) framed
  obtain ⟨record, built⟩ := @Wire.buildRecord_isOk (sys.padding (eng.draws + 1)) frame short
  let sealed : Engine := { minted with
    db := { minted.db with ciphertexts }
    ratchet
    draws := eng.draws + 2 }
  obtain ⟨next, committed⟩ := @run_commitEnvelope sys sealed rel row env
    eng.clock record payloadBytes found payloadEncoded newMessage newEntry
  refine ⟨{ msgId := env.msgId, appSeq := env.appSeq }, next, ?_⟩
  have loaded : (loadRelationship rel).run eng = .ok row eng := by rw [run_loadRelationship, found]
  have gated : (ofExcept id (gateOutbound eng.db row
      payload.envelopeType) : Action Unit).run eng = .ok () eng := by
    rw [gate]
    rfl
  have wrote : (wire (env.encode sys.nfc)).run minted =
      .ok plain minted := by
    rw [encoded]
    rfl
  have wrapped : (buildRecord sys frame).run { sealed with
      draws := eng.draws + 1 } = .ok record sealed := by
    rw [run_buildRecord]
    simp only [built]
    rfl
  unfold sendEnvelope
  rw [run_bind_ok loaded, bind_readDb, run_bind_ok gated, bind_now, run_bind_ok
    (run_updateDb eng _), run_bind_ok (run_randomMsgId sys _)]
  refine (run_bind_ok wrote).trans ?_
  refine (run_bind_ok encrypts).trans ?_
  refine (run_bind_ok wrapped).trans ?_
  exact run_bind_ok committed

end

structure Caches (rel : RelId) (msgId : MsgId) (frame : Bytes)
    (before after : Table CiphertextRow.msgId) : Prop where
  own : ∃ row, after.lookup msgId = some row ∧ row.relId = rel ∧ row.frameBytes = frame
  rest : ∀ other, other ≠ msgId → after.lookup other = before.lookup other

/-- The ledger with the row of the envelope, sent or still waiting. -/
def Files (sys : Platform) (rel : RelId) (env : Envelope) (now : Nat)
    (before after : Table MessageRow.msgId) : Prop :=
  ∃ payload expiry state, env.payload.encode sys.nfc = .ok payload ∧
    before.insert { (outboundMessage rel env now payload expiry).row now with
      state } = some after

structure Queues (rel : RelId) (msgId : MsgId)
    (before after : Table OutboxRow.msgId) : Prop where
  fresh : before.lookup msgId = none
  own : ∀ entry, after.lookup msgId = some entry → entry.relId = rel
  rest : ∀ other, other ≠ msgId → after.lookup other = before.lookup other

section

variable {now : Nat}

theorem Files.fresh (files : Files sys rel env now before after) :
    before.lookup env.msgId = none := by
  obtain ⟨_, _, _, -, inserted⟩ := files
  exact (Table.insert_eq_some.mp inserted).1

theorem Files.rest (files : Files sys rel env now before after) (differs : other ≠ env.msgId) :
    after.lookup other = before.lookup other := by
  obtain ⟨_, _, _, -, inserted⟩ := files
  exact (Table.lookup_insert inserted other).trans (if_neg differs.symm)

theorem Files.own (files : Files sys rel env now before after) :
    ∃ row, after.lookup env.msgId = some row ∧ row.relId = rel ∧
      row.direction = .out ∧ row.appSeq = env.appSeq ∧
      row.envType = env.envelopeType.code := by
  obtain ⟨_, _, _, -, inserted⟩ := files
  exact ⟨_, (Table.lookup_insert inserted env.msgId).trans (if_pos rfl), rfl, rfl, rfl, rfl⟩

end

theorem encrypt_eq_ok {now : Nat} (ran : (encrypt sys rel msgId plain now).run eng =
      .ok frame next) :
    sessionState eng.db rel ≠ .broken ∧ Framed sys eng rel msgId plain frame ∧
      ∃ ciphertexts ratchet,
        next = { eng with db := { eng.db with ciphertexts }, ratchet } ∧
          Caches rel msgId frame eng.db.ciphertexts ciphertexts := by
  unfold encrypt at ran
  rw [bind_readDb] at ran
  split at ran
  · cases ran
  split at ran
  · cases ran
  · cases ran
  rename_i active
  refine ⟨by rw [active]; decide, ?_⟩
  split at ran
  · rename_i row cached
    split at ran <;> cases ran
    rename_i own
    rw [Framed, cached]
    exact ⟨⟨not_not.mp own, rfl⟩, _, _, rfl, ⟨row, cached, not_not.mp own, rfl⟩, fun _ _ => rfl⟩
  rename_i fresh
  obtain ⟨history, called, calling, afterCall⟩ := run_bind_eq_ok ran
  cases calling
  split at afterCall
  · unfold failSession at afterCall
    split at afterCall
    · obtain ⟨_, _, -, thrown⟩ := run_bind_eq_ok afterCall
      cases thrown
    · cases afterCall
  rename_i kind body encrypted
  obtain ⟨built, framed, framing, afterFrame⟩ := run_bind_eq_ok afterCall
  obtain ⟨wrapped, rfl⟩ := run_ofExcept_eq_ok framing
  obtain ⟨_, stored, storing, returned⟩ := run_bind_eq_ok afterFrame
  cases returned
  rw [run_tryDb] at storing
  rw [Framed, fresh]
  split at storing
  · rename_i wrote
    cases storing
    obtain ⟨ciphertexts, inserted, rfl⟩ := storeCiphertext_eq_ok wrote
    refine ⟨⟨kind, body, encrypted, wrapped⟩, _, _, rfl, ⟨_, (Table.lookup_insert
      inserted msgId).trans (if_pos rfl), rfl, rfl⟩, fun other differs => ?_⟩
    exact (Table.lookup_insert inserted other).trans (if_neg differs.symm)
  · cases storing

theorem attemptRecord_eq_ok (ran : (attemptRecord sys msgId record).run eng = .ok () next) :
    ∃ messages outbox writes, next = { eng with
        db := { eng.db with messages, outbox }, writes } ∧
      (messages = eng.db.messages ∨ messages = (eng.db.setDelivery msgId .transmitted).messages) ∧
      (outbox = eng.db.outbox ∨ outbox = (eng.db.dequeue msgId).outbox) := by
  unfold attemptRecord at ran
  simp only [EStateM.run_bind, run_sendRecord] at ran
  split at ran
  · simp only [EStateM.run_bind, run_writeDb, markTransmitted, run_transition] at ran
    split at ran
    · cases ran
    · split at ran <;> cases ran
      exact ⟨_, _, _, rfl, .inr rfl, .inr rfl⟩
  · cases ran
    exact ⟨_, _, _, rfl, .inl rfl, .inl rfl⟩

theorem files_of_insert {now : Nat} {payload : Bytes} {db : Db}
    (encoded : env.payload.encode sys.nfc = .ok payload)
    (inserted : db.messages.insert ((outboundMessage rel env now payload
      expiry).row now) = some filed)
    (marked : messages = filed ∨ messages = (Db.setDelivery env.msgId
      .transmitted { db with messages := filed }).messages) :
    Files sys rel env now db.messages messages := by
  obtain rfl | rfl := marked
  · exact ⟨payload, expiry, .queued, encoded, inserted⟩
  obtain ⟨fresh, appended⟩ := Table.insert_eq_some.mp inserted
  refine ⟨payload, expiry, .transmitted, encoded, Table.insert_eq_some.mpr ⟨fresh, ?_⟩⟩
  show filed.rows.map _ = _
  rw [appended, List.map_append]
  refine congrArg₂ _ ?_ (by simp [NewMessage.row, outboundMessage])
  refine (List.map_congr_left fun row mem => ?_).trans (List.map_id _)
  have other : row.msgId ≠ env.msgId := Table.lookup_eq_none.mp fresh row mem
  exact if_neg (by simpa using other)

theorem queues_of_insert {ttlSecs now : Nat} {db : Db}
    (stored : db.outbox.insert (Db.outboxEntry msgId rel record ttlSecs now) = some waiting)
    (left : outbox = waiting ∨ outbox = (Db.dequeue msgId { db with outbox := waiting }).outbox) :
    Queues rel msgId db.outbox outbox := by
  have own := (Table.lookup_insert stored msgId).trans (if_pos rfl)
  have rest : ∀ other, other ≠ msgId →
      waiting.lookup other = db.outbox.lookup other := fun other differs =>
    (Table.lookup_insert stored other).trans (if_neg differs.symm)
  have gone := fun other =>
    Db.lookup_dequeue msgId other { db with outbox := waiting }
  refine ⟨(Table.insert_eq_some.mp stored).1, fun entry found => ?_,
    fun other differs => ?_⟩ <;> obtain rfl | rfl := left
  · cases own.symm.trans found
    rfl
  · cases ((gone msgId).trans (if_pos rfl)).symm.trans found
  · exact rest other differs
  · exact ((gone other).trans (if_neg differs)).trans (rest other differs)

theorem commitEnvelope_eq_ok {now : Nat} (ran : (commitEnvelope sys rel env now record).run eng =
      .ok () next) :
    ∃ messages outbox writes, next = { eng with
        db := { eng.db with messages, outbox }, writes } ∧
      Files sys rel env now eng.db.messages messages ∧
      Queues rel env.msgId eng.db.outbox outbox := by
  obtain ⟨db, _, reading, afterRead⟩ := run_bind_eq_ok ran
  cases reading
  obtain ⟨expiry, _, expiring, afterExpiry⟩ := run_bind_eq_ok afterRead
  obtain ⟨-, rfl⟩ := run_ofExcept_eq_ok expiring
  obtain ⟨payload, _, encoding, afterEncode⟩ := run_bind_eq_ok afterExpiry
  obtain ⟨encoded, rfl⟩ := run_ofExcept_eq_ok encoding
  obtain ⟨_, _, inserting, afterInsert⟩ := run_bind_eq_ok afterEncode
  obtain ⟨_, _, queueing, attempted⟩ := run_bind_eq_ok afterInsert
  rw [run_tryDb] at inserting queueing
  split at inserting
  · rename_i inserted
    cases inserting
    obtain ⟨filed, wrote, rfl⟩ := Db.insertMessage_eq_ok.mp inserted
    split at queueing
    · rename_i queued
      cases queueing
      obtain ⟨waiting, stored, rfl⟩ := Db.enqueue_eq_ok.mp queued
      obtain ⟨messages, outbox, writes, rfl, marked, left⟩ := attemptRecord_eq_ok attempted
      refine ⟨messages, outbox, writes, rfl, ?_, queues_of_insert stored left⟩
      exact files_of_insert encoded wrote marked
    · cases queueing
  · cases inserting

theorem sendEnvelope_eq_ok {payload : Payload} {sent : Sent}
    (ran : (sendEnvelope sys rel payload refId).run eng = .ok sent next) :
    ∃ ciphertexts ratchet messages outbox writes, next = { eng with
        db := { (eng.db.nextOutSeq rel).2 with
          ciphertexts, messages, outbox }
        ratchet
        draws := eng.draws + 2
        writes } ∧
      sent = ⟨sys.randomMsgId eng.draws, (eng.db.nextOutSeq rel).1⟩ ∧
      Passes eng.db rel payload.envelopeType ∧
      (∃ plain frame, (envelopeFor sys eng rel payload refId).encode sys.nfc = .ok plain ∧
          Framed sys eng rel sent.msgId plain frame ∧
          recordHeaderBytes + frame.length ≤ maxRecordBytes ∧
          Caches rel sent.msgId frame eng.db.ciphertexts ciphertexts) ∧
      Files sys rel (envelopeFor sys eng rel payload refId) eng.clock eng.db.messages messages ∧
      Queues rel sent.msgId eng.db.outbox outbox := by
  obtain ⟨row, _, load, afterLoad⟩ := run_bind_eq_ok ran
  rw [run_loadRelationship] at load
  split at load
  · rename_i found
    cases load
    obtain ⟨db, _, read, afterRead⟩ := run_bind_eq_ok afterLoad
    cases read
    obtain ⟨_, _, gate, afterGate⟩ := run_bind_eq_ok afterRead
    obtain ⟨passed, rfl⟩ := run_ofExcept_eq_ok gate
    obtain ⟨now, _, clock, afterNow⟩ := run_bind_eq_ok afterGate
    cases clock
    obtain ⟨appSeq, _, number, afterSeq⟩ := run_bind_eq_ok afterNow
    cases number
    obtain ⟨msgId, _, draws, afterId⟩ := run_bind_eq_ok afterSeq
    cases draws
    obtain ⟨plain, _, wrote, afterWire⟩ := run_bind_eq_ok afterId
    obtain ⟨encoded, rfl⟩ := run_ofExcept_eq_ok wrote
    obtain ⟨frame, _, encrypts, afterFrame⟩ := run_bind_eq_ok afterWire
    obtain ⟨-, framed, ciphertexts, ratchet, rfl, caches⟩ := encrypt_eq_ok encrypts
    obtain ⟨record, _, wraps, afterRecord⟩ := run_bind_eq_ok afterFrame
    obtain ⟨_, _, commits, done⟩ := run_bind_eq_ok afterRecord
    cases done
    rw [run_buildRecord] at wraps
    split at wraps
    · rename_i built
      cases wraps
      obtain ⟨messages, outbox, writes, rfl, files, queues⟩ := commitEnvelope_eq_ok commits
      exact ⟨ciphertexts, ratchet, messages, outbox, writes, rfl, rfl,
        ⟨row, found, passed⟩, ⟨plain, frame, encoded, framed,
          short_of_buildRecord built, caches⟩, files, queues⟩
    · cases wraps
  · cases load

theorem run_sendEnvelope_isOk_iff {payload : Payload} {refId : Option MsgId} :
    (∃ sent next, (sendEnvelope sys rel payload refId).run eng =
      .ok sent next) ↔ Transmits sys eng rel payload refId := by
  refine ⟨?_, run_sendEnvelope_of_transmits⟩
  rintro ⟨sent, next, ran⟩
  obtain ⟨_, _, _, _, _, -, rfl, passes, ⟨plain, frame, encoded, framed,
    short, -⟩, files, queues⟩ := sendEnvelope_eq_ok ran
  exact ⟨passes, ⟨plain, frame, encoded, framed, short⟩, files.fresh, queues.fresh⟩

end SChatCore.Engine
