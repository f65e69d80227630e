import SChatCore.Engine.Outbound
import SChatCore.Engine.Transmit

namespace SChatCore.Engine

open Data Data.Action Wire Store Policy

/-! Sending while the libraries do their part. -/

/-- The ratchet encrypts, its frames fit a record, those on file included,
and the next `count` ids drawn are new, to the store as to `reserved`, which
the ledger does not have either. -/
structure Healthy (sys : Platform) (eng : Engine) (count : Nat)
    (reserved : MsgId) : Prop where
  encrypts : ∀ history rel plain, plain.length ≤ maxEnvelopeBytes → ∃ kind body frame,
      sys.messageEncrypt history rel plain = .ok (kind, body) ∧ frameOf kind body = .ok frame ∧
        recordHeaderBytes + frame.length ≤ maxRecordBytes
  cached : ∀ msgId row, eng.db.ciphertexts.lookup msgId = some row →
    recordHeaderBytes + row.frameBytes.length ≤ maxRecordBytes
  spare : eng.db.message reserved = none
  distinct : ∀ first second, eng.draws ≤ first → first < second → second < eng.draws + count →
      sys.randomMsgId first ≠ sys.randomMsgId second
  unused : ∀ index, eng.draws ≤ index → index < eng.draws + count →
    sys.randomMsgId index ≠ reserved ∧ eng.db.message (sys.randomMsgId index) = none ∧
      eng.db.outbox.lookup (sys.randomMsgId index) = none ∧
      eng.db.ciphertexts.lookup (sys.randomMsgId index) = none

/-- Everything but what a send that goes through writes. -/
def unsent (eng : Engine) : Engine :=
  { eng with
    db := { eng.db with
      messages := .empty
      outbox := .empty
      ciphertexts := .empty
      settings := { eng.db.settings with outSeqFloor := .empty } }
    ratchet := []
    draws := 0
    writes := [] }

def Sendable (sys : Platform) (db : Db) (rel : RelId)
    (payload : Payload) (refId : Option MsgId) : Prop :=
  Passes db rel payload.envelopeType ∧ Envelope.Encodable sys.nfc payload refId

theorem healthy_loopback (cached : eng.db.ciphertexts = .empty)
    (spare : eng.db.message reserved = none)
    (distinct : ∀ second < count, ∀ first < second,
      Platform.loopback.randomMsgId (eng.draws + first) ≠
        Platform.loopback.randomMsgId (eng.draws + second))
    (unused : ∀ index < count, Platform.loopback.randomMsgId (eng.draws + index) ≠ reserved ∧
        eng.db.message (Platform.loopback.randomMsgId (eng.draws + index)) = none ∧
        eng.db.outbox.lookup (Platform.loopback.randomMsgId (eng.draws + index)) = none) :
    Healthy Platform.loopback eng count reserved where
  encrypts history rel plain small := by
    refine ⟨.signal, plain, tagSignal :: plain, rfl, rfl, ?_⟩
    simp only [maxEnvelopeBytes] at small
    simp only [List.length_cons, recordHeaderBytes, maxRecordBytes]
    omega
  cached msgId row found := by
    rw [cached] at found
    cases found
  spare := spare
  distinct first second lower order upper := by
    have differs := distinct (second - eng.draws) (by omega) (first - eng.draws) (by omega)
    rwa [Nat.add_sub_cancel' lower, Nat.add_sub_cancel' (by omega)] at differs
  unused index lower upper := by
    obtain ⟨unreserved, message, entry⟩ := unused (index - eng.draws) (by omega)
    rw [Nat.add_sub_cancel' lower] at unreserved message entry
    exact ⟨unreserved, message, entry, by rw [cached]; rfl⟩

def SameUnsent (before after : Engine) : Prop := unsent after = unsent before

section

variable {payload : Payload}

theorem sendable_of_run (ran : (sendEnvelope sys rel payload refId).run eng = .ok sent next) :
    Sendable sys eng.db rel payload refId := by
  obtain ⟨_, _, _, _, _, -, -, passes, ⟨plain, _, encoded, -⟩, -⟩ := sendEnvelope_eq_ok ran
  exact ⟨passes, (Envelope.encodable_iff _).mpr ⟨plain, encoded⟩⟩

theorem settles_sendEnvelope (payload : Payload) (refId : Option MsgId) :
    Settles SameUnsent (sendEnvelope sys rel payload refId) := by
  intro eng sent next ran
  obtain ⟨_, _, _, _, _, rfl, -⟩ := sendEnvelope_eq_ok ran
  rfl

theorem Healthy.transmits (healthy : Healthy sys eng (count + 2) reserved)
    (sendable : Sendable sys eng.db rel payload refId) :
    Transmits sys eng rel payload refId := by
  obtain ⟨passes, fits⟩ := sendable
  obtain ⟨-, newMessage, newEntry, newCiphertext⟩ := healthy.unused eng.draws le_rfl (by omega)
  obtain ⟨plain, encoded⟩ := (Envelope.encodable_iff
    (envelopeFor sys eng rel payload refId)).mp fits
  obtain ⟨kind, body, frame, encrypted, framed, short⟩ := healthy.encrypts
    eng.ratchet rel plain (Envelope.length_le_of_encode encoded)
  refine ⟨passes, ⟨plain, frame, encoded, ?_, short⟩, newMessage, newEntry⟩
  unfold Framed
  rw [newCiphertext]
  exact ⟨kind, body, encrypted, framed⟩

theorem Healthy.sent {sent : Sent} (healthy : Healthy sys eng (count + 2) reserved)
    (ran : (sendEnvelope sys rel payload refId).run eng =
      .ok sent next) : Healthy sys next count reserved := by
  obtain ⟨ciphertexts, ratchet, messages, outbox, writes, rfl, rfl, -,
    ⟨_, frame, -, -, short, caches⟩, files, queues⟩ := sendEnvelope_eq_ok ran
  have unreserved := (healthy.unused eng.draws le_rfl (by omega)).1
  refine ⟨healthy.encrypts, fun msgId row found => ?_, ?_,
    fun first second lower order upper => ?_, fun index lower upper => ?_⟩
  · by_cases same : msgId = sys.randomMsgId eng.draws
    · obtain ⟨cached, looked, -, rfl⟩ := caches.own
      rw [same] at found
      cases looked.symm.trans found
      exact short
    · exact healthy.cached msgId row ((caches.rest msgId same).symm.trans found)
  · exact (files.rest unreserved.symm).trans healthy.spare
  · have above : eng.draws + 2 ≤ first := lower
    have below : second < eng.draws + 2 + count := upper
    exact healthy.distinct first second (by omega) order (by omega)
  · have above : eng.draws + 2 ≤ index := lower
    have below : index < eng.draws + 2 + count := upper
    have differs : sys.randomMsgId index ≠ sys.randomMsgId eng.draws :=
      (healthy.distinct eng.draws index le_rfl (by omega) (by omega)).symm
    obtain ⟨notReserved, message, entry, ciphertext⟩ := healthy.unused index (by omega) (by omega)
    exact ⟨notReserved, (files.rest differs).trans message, (queues.rest _ differs).trans entry,
      (caches.rest _ differs).trans ciphertext⟩

/-- At most so many rows are new. -/
def Adds (count : Nat) (before after : Engine) : Prop :=
  after.db.messages.rows.length ≤ before.db.messages.rows.length + count

theorem adds_of_send (ran : (sendEnvelope sys rel payload refId).run eng =
      .ok sent next) : Adds 1 eng next := by
  obtain ⟨_, _, messages, _, _, rfl, -, -, -, ⟨_, _, _, -, inserted⟩, -⟩ := sendEnvelope_eq_ok ran
  have rows := congrArg List.length (Table.insert_eq_some.mp inserted).2
  rw [List.length_append] at rows
  exact rows.le

theorem run_sendEnvelope {count : Nat} {reserved : MsgId}
    (healthy : Healthy sys eng (count + 2) reserved)
    (sendable : Sendable sys eng.db rel payload refId) :
    ∃ sent next, (sendEnvelope sys rel payload refId).run eng = .ok sent next ∧
        unsent next = unsent eng ∧
        Healthy sys next count reserved := by
  obtain ⟨sent, next, ran⟩ := run_sendEnvelope_of_transmits (healthy.transmits sendable)
  exact ⟨sent, next, ran, settles_sendEnvelope _ _ _ _ _ ran, healthy.sent ran⟩

end

def NotCapGated (error : EngineError) : Prop := ∀ t, error ≠ .capGated t

theorem raises_wire (result : Except WireError α) : Raises NotCapGated (wire result) :=
  raises_ofExcept (fun _ => nofun) result

theorem raises_tryDb (change : Db → Except StoreError Db) : Raises NotCapGated (tryDb change) := by
  refine raises_bind (raises_of_ok fun _ => rfl) fun db => ?_
  split
  · exact raises_of_ok fun _ => rfl
  · exact raises_throw nofun

theorem notCapGated_session (error : SessionError) : NotCapGated (.session error) := nofun

theorem raises_encrypt (msgId : MsgId) (plain : Bytes) (now : Nat) :
    Raises NotCapGated (encrypt sys rel msgId plain now) := by
  refine raises_bind (raises_of_ok fun _ => rfl) fun db => ?_
  split
  · exact raises_throw (notCapGated_session _)
  split
  · exact raises_throw (notCapGated_session _)
  · exact raises_throw (notCapGated_session _)
  split
  · split
    · exact raises_throw (notCapGated_session _)
    · exact raises_pure _
  refine raises_bind (raises_of_ok fun _ => rfl) fun _ => ?_
  split
  · unfold failSession
    split
    · exact raises_bind (raises_of_ok fun _ => rfl) fun _ => raises_throw (notCapGated_session _)
    · exact raises_throw (notCapGated_session _)
  refine raises_bind (raises_ofExcept notCapGated_session _) fun frame => ?_
  exact raises_bind (raises_tryDb _) fun _ => raises_pure _

theorem raises_commitEnvelope (env : Envelope) (now : Nat) (record : Bytes) :
    Raises NotCapGated (commitEnvelope sys rel env now record) := by
  refine raises_bind (raises_of_ok fun _ => rfl) fun db => ?_
  refine raises_bind (raises_ofExcept (fun _ => nofun) _) fun expiry => ?_
  refine raises_bind (raises_wire _) fun payload => ?_
  refine raises_bind (raises_tryDb _) fun _ => ?_
  refine raises_bind (raises_tryDb _) fun _ => ?_
  refine raises_bind (raises_of_ok fun _ => rfl) fun sent => ?_
  split
  · refine raises_bind (raises_of_ok fun _ => rfl) fun _ => ?_
    refine raises_bind (raises_of_ok fun _ => rfl) fun db => ?_
    split
    · exact raises_throw nofun
    · split
      · exact raises_of_ok fun _ => rfl
      · exact raises_throw nofun
  · exact raises_pure _

theorem gate_of_capGated {payload : Payload} {t : EnvelopeType}
    (ran : (sendEnvelope sys rel payload refId).run eng = .error (.capGated t) next) :
    ∃ row, eng.db.relationship rel = some row ∧
      gateOutbound eng.db row payload.envelopeType = .error (.capGated t) := by
  unfold sendEnvelope at ran
  rw [EStateM.run_bind, run_loadRelationship] at ran
  cases found : eng.db.relationship rel with
  | none =>
    rw [found] at ran
    cases ran
  | some row =>
    refine ⟨row, rfl, ?_⟩
    rw [found] at ran
    simp only [bind_readDb] at ran
    cases gate : gateOutbound eng.db row payload.envelopeType with
    | error error =>
      rw [gate] at ran
      cases ran
      rfl
    | ok _ =>
      -- nothing behind the gate raises it
      have passed : (ofExcept id (gateOutbound eng.db row
          payload.envelopeType) : Action Unit).run eng = .ok () eng := by
        rw [gate]
        rfl
      rw [run_bind_ok passed] at ran
      refine absurd rfl ((?_ : Raises NotCapGated _) eng _ next ran t)
      refine raises_bind (raises_of_ok fun _ => rfl) fun now => ?_
      refine raises_bind (raises_of_ok fun _ => rfl) fun appSeq => ?_
      refine raises_bind (raises_of_ok fun _ => rfl) fun msgId => ?_
      refine raises_bind (raises_wire _) fun plain => ?_
      refine raises_bind (raises_encrypt _ _ _) fun frame => ?_
      refine raises_bind (raises_bind (raises_of_ok fun _ => rfl) fun _ =>
        raises_wire _) fun record => ?_
      exact raises_bind (raises_commitEnvelope _ _ _) fun _ => raises_pure _

end SChatCore.Engine
