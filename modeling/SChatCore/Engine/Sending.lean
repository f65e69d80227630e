import SChatCore.Engine.Send

namespace SChatCore.Engine

open Data Data.Action Wire Store Policy

/-! What a send does whether or not it goes through, step by step. -/

/-- The relation has every step of a send under `rel`. -/
structure SendSteps (rel : RelId) (related : Engine → Engine → Prop) :
    Prop where
  allocate : ∀ eng, related eng { eng with db := (eng.db.nextOutSeq rel).2 }
  log : ∀ eng ratchet draws writes, related eng { eng with ratchet, draws, writes }
  break_ : ∀ eng, related eng { eng with
    db := (eng.db.setBroken rel).failRelationshipOutbound rel }
  cache : ∀ eng ciphertexts, related eng { eng with db := { eng.db with ciphertexts } }
  file : ∀ eng now msg db, eng.db.insertMessage now msg = .ok db →
    msg.relId = rel → msg.direction = .out → related eng { eng with db }
  queue : ∀ eng msgId record ttlSecs now db, eng.db.enqueue msgId rel record ttlSecs now = .ok db →
      related eng { eng with db }
  unqueue : ∀ eng msgId, (∀ row, eng.db.outbox.lookup msgId = some row → row.relId = rel) →
      related eng { eng with db := eng.db.dequeue msgId }
  deliver : ∀ eng msgId, (∀ row, eng.db.message msgId = some row →
    row.relId = rel ∧ row.direction = .out) → related eng
      { eng with db := eng.db.setDelivery msgId .transmitted }

namespace SendSteps

variable (steps : SendSteps rel related)

include steps

theorem draw : Keeps related draw := keeps_modifyGet fun _ => steps.log _ _ _ _

variable [IsPreorder Engine related]

theorem failSession (error : SignalError) : Keeps related (failSession rel error : Action α) := by
  unfold Engine.failSession
  split
  · exact keeps_bind (keeps_writeDb steps.break_) fun _ => keeps_throw _
  · exact keeps_throw _

variable (sys : Platform)

theorem encrypt (msgId : MsgId) (plain : Bytes) (now : Nat) :
    Keeps related (encrypt sys rel msgId plain now) := by
  refine keeps_read fun db => ?_
  split
  · exact keeps_throw _
  split
  · exact keeps_throw _
  · exact keeps_throw _
  split
  · split
    · exact keeps_throw _
    · exact keeps_pure _
  refine keeps_bind (keeps_modifyGet fun _ => steps.log _ _ _ _) fun history => ?_
  split
  · exact steps.failSession _
  · refine keeps_bind (keeps_ofExcept _ _) fun frame => ?_
    refine keeps_returns (keeps_tryDb fun eng db stored => ?_)
    obtain ⟨ciphertexts, -, rfl⟩ := storeCiphertext_eq_ok stored
    exact steps.cache eng _

theorem attemptRecord (message : ∀ row, eng.db.message msgId = some row →
      row.relId = rel ∧ row.direction = .out)
    (entry : ∀ row, eng.db.outbox.lookup msgId = some row → row.relId = rel) :
    related eng (final ((attemptRecord sys msgId record).run eng)) := by
  have logged := steps.log eng eng.ratchet eng.draws (eng.writes ++ [(msgId, record)])
  unfold Engine.attemptRecord
  rw [run_bind_ok (run_sendRecord sys eng msgId record)]
  refine trans_of related logged ?_
  split
  · refine trans_of related (steps.unqueue { eng with
      writes := eng.writes ++ [(msgId, record)] } msgId entry) ?_
    unfold markTransmitted
    rw [bind_writeDb, run_transition]
    split
    · exact refl_of related _
    · split
      · exact steps.deliver _ msgId message
      · exact refl_of related _
  · exact refl_of related _

theorem commitEnvelope (env : Envelope) (now : Nat) (record : Bytes) :
    Keeps related (commitEnvelope sys rel env now record) := by
  refine keeps_read fun db => ?_
  refine keeps_bind (keeps_store _) fun expiry => ?_
  refine keeps_bind (keeps_wire _) fun payload => ?_
  intro eng
  rw [EStateM.run_bind, run_tryDb]
  cases inserted : eng.db.insertMessage now (outboundMessage rel env now payload expiry) with
  | error error => exact refl_of related eng
  | ok ledgered =>
    have filed := steps.file eng now _ ledgered inserted rfl rfl
    simp only
    rw [EStateM.run_bind, run_tryDb]
    cases queued : ledgered.enqueue env.msgId rel record messageTtlSecs now with
    | error error => exact filed
    | ok waiting =>
      refine trans_of related filed (trans_of related (steps.queue
        { eng with db := ledgered } _ _ _ _ waiting queued)
        (steps.attemptRecord sys ?_ ?_))
      · intro row found
        obtain ⟨outbox, -, rfl⟩ := Db.enqueue_eq_ok.mp queued
        have own := (Db.message_insertMessage inserted env.msgId).trans (if_pos rfl)
        cases own.symm.trans found
        exact ⟨rfl, rfl⟩
      · intro row found
        have own := (Db.lookup_enqueue queued env.msgId).trans (if_pos rfl)
        cases own.symm.trans found
        rfl

theorem sendEnvelope (payload : Payload) (refId : Option MsgId) :
    Keeps related (sendEnvelope sys rel payload refId) := by
  refine keeps_bind (keeps_loadRelationship rel) fun row => ?_
  refine keeps_read fun db => ?_
  refine keeps_bind (keeps_ofExcept _ _) fun _ => ?_
  refine keeps_clock fun now => ?_
  refine keeps_bind (keeps_updateDb steps.allocate) fun appSeq => ?_
  refine keeps_bind (keeps_map _ steps.draw) fun msgId => ?_
  refine keeps_bind (keeps_wire _) fun plain => ?_
  refine keeps_bind (steps.encrypt sys _ _ _) fun frame => ?_
  refine keeps_bind (keeps_bind steps.draw fun _ => keeps_wire _) fun record => ?_
  exact keeps_returns (steps.commitEnvelope sys _ _ _)

end SendSteps

/-! What sending an envelope leaves exactly as it was, whether or not it
succeeds. -/

def bystanders (eng : Engine) : Engine :=
  { eng with
    db := { eng.db with
      relationships := .empty
      messages := .empty
      outbox := .empty
      ciphertexts := .empty
      settings := { eng.db.settings with outSeqFloor := .empty } }
    ratchet := []
    draws := 0
    writes := [] }

def SameBystanders (before after : Engine) : Prop := bystanders after = bystanders before

instance : IsPreorder Engine SameBystanders where
  refl _ := rfl
  trans _ _ _ left right := Eq.trans right left

theorem sameBystanders_sends (rel : RelId) : SendSteps rel SameBystanders where
  allocate _ := rfl
  log _ _ _ _ := rfl
  break_ _ := rfl
  cache _ _ := rfl
  file _ _ _ _ inserted _ _ := by
    obtain ⟨messages, -, rfl⟩ := Db.insertMessage_eq_ok.mp inserted
    rfl
  queue _ _ _ _ _ _ queued := by
    obtain ⟨outbox, -, rfl⟩ := Db.enqueue_eq_ok.mp queued
    rfl
  unqueue _ _ _ := rfl
  deliver _ _ _ := rfl

end SChatCore.Engine
