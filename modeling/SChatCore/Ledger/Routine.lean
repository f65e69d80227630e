import SChatCore.Engine.Resync
import SChatCore.Ledger.Write

namespace SChatCore.Ledger

open Data Data.Action Wire Store Policy Engine

/-! What the engine does in the course of its work, handler by handler, is
routine. -/

variable {sys : Platform} {said : Book → RelId → Payload → Prop}
  {rel : RelId}

def Current (rel : RelId) (eng : Engine) (state : PolicyState) : Prop :=
  ∀ row, eng.db.relationship rel = some row → state.ttlSec = row.policyTtlSec

theorem horizon_self (ttl : UInt32) (now : Nat) : horizon ttl ttl now = none := by
  unfold horizon
  rw [if_neg]
  rintro ⟨finite, never | less⟩
  · exact finite never
  · exact UInt32.lt_irrefl ttl less

theorem current_of_load (loaded : loadPolicy eng.db rel = .ok state) :
    Current rel eng state := by
  obtain ⟨row, found, rfl⟩ := loadPolicy_eq_ok.mp loaded
  intro other looked
  cases found.symm.trans looked
  rfl

theorem current_of_saved {eng : Engine} (saved : db.relationships =
      (savePolicy rel state eng.db).relationships) :
    Current rel { eng with db } state := by
  intro row found
  have looked := Db.relationship_updateRelationship rel rel
    (Policy.saved state) (fun _ => rfl) eng.db
  unfold Db.relationship at found looked
  rw [saved] at found
  obtain ⟨old, -, rfl⟩ := Option.map_eq_some_iff.mp ((looked.trans (if_pos rfl)).symm.trans found)
  rfl

theorem evolves_loaded {rest : PolicyState → Action α}
    (continues : ∀ state, loadPolicy eng.db rel = .ok state →
      Evolves sys said eng (final ((rest state).run eng))) :
    Evolves sys said eng (final ((do
      let db ← readDb
      let state ← store (loadPolicy db rel)
      rest state).run eng)) := by
  rw [bind_readDb, EStateM.run_bind, store]
  cases loaded : loadPolicy eng.db rel with
  | error error => exact refl_of (Evolves sys said) eng
  | ok state => exact continues state loaded

theorem evolves_savePolicy {eng : Engine} {state : PolicyState} (current : Current rel eng state) :
    Evolves sys said eng { eng with db := savePolicy rel state eng.db } := by
  refine .of_write (@Write.agree _ _ _ eng rel state {} fun row found => ?_)
  rw [current row found, horizon_self]

theorem evolves_contact (kept : ∀ row, contactOf (assign row) = contactOf row ∧
      (assign row).policyTtlSec = row.policyTtlSec ∧
      (assign row).sessionState = row.sessionState) :
    Keeps (Evolves sys said) (writeDb (Db.updateRelationship rel assign keepsKey)) :=
  keeps_writeDb fun _ => .of_write (.contact (fun row => (kept row).1)
    (fun row => (kept row).2.1) fun row => (kept row).2.2.trans)

section

variable (permits : Permits sys said)

include permits

theorem evolves_send (payload : Payload) (refId : Option MsgId)
    (plain : payload.envelopeType ≠ .resyncReq) :
    Keeps (Evolves sys said) (sendEnvelope sys rel payload refId) :=
  fun _ => evolves_sendEnvelope refId (permits.other _ _ _ plain)

theorem evolves_respects : Respects sys rel (Evolves sys said) :=
  .of_aside (fun _ _ => .of_aside) fun ctrl => evolves_send permits (.stickerCtrl ctrl) none nofun

theorem evolves_requestResync : Keeps (Evolves sys said) (requestResync sys rel) := by
  intro eng
  unfold requestResync buildRequest refuseIfBroken
  simp only [EStateM.run_bind, run_readDb]
  by_cases broken : sessionState eng.db rel = .broken
  · simp only [broken, if_true]
    exact refl_of (Evolves sys said) eng
  · simp only [broken, if_false]
    exact related_bind (evolves_sendEnvelope none (permits.request eng rel)) fun _ => keeps_pure _

theorem evolves_sendProfile : Keeps (Evolves sys said) (sendProfile sys rel) := by
  refine keeps_read fun db => ?_
  split
  · exact keeps_pure _
  · exact keeps_returns (evolves_send permits _ _ nofun)

theorem evolves_offerSync : Keeps (Evolves sys said) (offerSync sys rel) := by
  refine fun eng => evolves_loaded fun state loaded => ?_
  rw [bind_now]
  have sends := keeps_attempt (@evolves_send sys said rel permits
    (.chatPolicy (buildSync state eng.clock).2) none nofun) eng
  have stands := keeps_attempt (@outbound_sendEnvelope sys rel
    (.chatPolicy (buildSync state eng.clock).2) none) eng
  simp only
  refine final_bind (fun error middle ran => ?_) fun sent middle ran => ?_
  · rw [ran] at sends
    exact sends
  rw [ran] at sends stands
  refine trans_of (Evolves sys said) sends ?_
  split
  · refine evolves_savePolicy fun row found => ?_
    obtain ⟨old, known, rfl⟩ := loadPolicy_eq_ok.mp loaded
    have same := stands.standing
    have looked : middle.db.relationship rel = some row := found
    rw [final_ok, looked, known] at same
    exact (congrArg (fun pair => pair.2.ttlSec) (Option.some.inj same)).symm
  · exact refl_of (Evolves sys said) _
  · exact refl_of (Evolves sys said) _

theorem evolves_onRelationshipActive : Keeps (Evolves sys said) (onRelationshipActive sys rel) :=
  keeps_bind (evolves_requestResync permits) fun _ =>
    keeps_bind (evolves_sendProfile permits) fun _ => evolves_offerSync permits

theorem evolves_maybeRequestResync : Keeps (Evolves sys said) (maybeRequestResync sys rel) := by
  refine keeps_clock fun now => keeps_read fun db => ?_
  split
  · exact keeps_pure _
  · refine keeps_bind (keeps_writeDb fun _ => .of_write (.note rfl rfl)) fun _ => ?_
    exact keeps_returns (evolves_requestResync permits)

theorem evolves_replySync (current : Current rel eng state) : Evolves sys said eng
      (final ((replySync sys rel state).run eng)) := by
  unfold replySync
  rw [bind_now]
  split
  · have saves : Evolves sys said eng { eng with
        db := savePolicy rel (buildSync state eng.clock).1 eng.db } :=
      evolves_savePolicy current
    refine trans_of (Evolves sys said) saves ?_
    exact keeps_returns (evolves_send permits (.chatPolicy _) none nofun) _
  · exact refl_of (Evolves sys said) eng

theorem evolves_activate (role : Role) : Keeps (Evolves sys said) (activate sys rel role) := by
  refine keeps_read fun db => ?_
  split
  · refine keeps_bind (keeps_writeDb fun _ => .of_write (.note rfl rfl)) fun _ => ?_
    exact evolves_onRelationshipActive permits
  · exact keeps_pure _

theorem evolves_closeGap (gap : Bool) : Keeps (Evolves sys said) (closeGap sys rel gap) :=
  keeps_closeGap sys (evolves_maybeRequestResync permits) gap

end

theorem evolves_ledgerInbound {eng : Engine} {env : Envelope} {sentAt : Nat}
    (uncut : isCut rel env eng.clock eng.db = false) :
    Evolves sys said eng (final ((ledgerInbound sys rel env sentAt).run eng)) := by
  unfold ledgerInbound store wire
  split
  · exact refl_of (Evolves sys said) eng
  · rw [bind_readDb, bind_now, EStateM.run_bind]
    cases lasts : messageExpiry eng.db rel eng.clock with
    | error error => exact refl_of (Evolves sys said) eng
    | ok expiry =>
      rw [run_ofExcept_ok]
      simp only
      rw [EStateM.run_bind]
      cases encoded : env.payload.encode sys.nfc with
      | error error => exact refl_of (Evolves sys said) eng
      | ok payload =>
        rw [run_ofExcept_ok]
        simp only
        rw [run_tryDb]
        split
        · rename_i db inserted
          refine .of_write (.deliver uncut encoded lasts inserted ⟨?_, .inr rfl⟩)
          obtain ⟨messages, stored, -⟩ := Db.insertMessage_eq_ok.mp inserted
          exact congrArg (Option.map entryOf) (Table.insert_eq_some.mp stored).1
        · exact refl_of (Evolves sys said) eng

theorem evolves_markEdited (target : MsgId) (payload : Bytes) (editSeq : UInt64) :
    Keeps (Evolves sys said) (writeDb (Db.markEdited target payload editSeq)) :=
  keeps_writeDb fun _ => .of_write (.edit _ _ _ _)

theorem evolves_applyEdit (env : Envelope) (body : String) :
    Keeps (Evolves sys said) (applyEdit rel env body) := by
  unfold applyEdit
  split
  · exact keeps_pure _
  · refine keeps_read fun db => keeps_clock fun now => ?_
    simp only
    split
    · exact keeps_returns (evolves_markEdited _ _ _)
    · exact keeps_pure _

theorem evolves_media (named : ∀ db, Named db → Named (change db)) (same : ∀ db, { change db with
      attachments := db.attachments
      chunks := db.chunks } = db) :
    Keeps (Evolves sys said) (writeDb change) :=
  keeps_writeDb fun _ => .of_write (.media (same _) (named _))

theorem named_deleteAttachment (headId : MsgId) (db : Db) (named : Named db) :
    Named (db.deleteAttachment headId) :=
  fun row mem => named row (Table.mem_delete.mp mem).1

theorem named_updateAttachment {chosen : AttachmentRow → Bool}
    {assign : AttachmentRow → AttachmentRow}
    (rows : next.attachments.rows = db.attachments.rows.map
      fun row => if chosen row then assign row else row)
    (kept : ∀ row, (assign row).msgId = row.msgId ∧
      (assign row).headId = row.headId) (named : Named db) : Named next := by
  intro row mem
  rw [Table.mem_def, rows] at mem
  obtain ⟨old, filed, rfl⟩ := List.mem_map.mp mem
  split
  · rw [(kept old).1, (kept old).2]
    exact named old filed
  · exact named old filed

theorem named_setChunks (headId : MsgId) (chunks : Bytes) (db : Db) :
    Named db → Named (db.setChunks headId chunks) :=
  named_updateAttachment rfl fun _ => ⟨rfl, rfl⟩

theorem named_markComplete (headId : MsgId) (db : Db) : Named db → Named (db.markComplete headId) :=
  named_updateAttachment rfl fun _ => ⟨rfl, rfl⟩

theorem evolves_onDeleteTarget (target : MsgId) :
    Keeps (Evolves sys said) (onDeleteTarget target) := by
  have erased : ∀ (heads : List AttachmentRow) (db other : Db),
      { heads.foldl (fun db row =>
          (db.deleteChunks row.headId).deleteAttachment row.headId) other with
        attachments := db.attachments
        chunks := db.chunks } = { other with
          attachments := db.attachments
          chunks := db.chunks } := by
    intro heads
    induction heads with
    | nil => exact fun _ _ => rfl
    | cons row rest ih => exact fun db other => ih db _
  have named : ∀ (heads : List AttachmentRow) (db : Db), Named db →
      Named (heads.foldl (fun db row =>
        (db.deleteChunks row.headId).deleteAttachment row.headId) db) := by
    intro heads
    induction heads with
    | nil => exact fun _ => id
    | cons row rest ih => exact fun db held => ih _ (named_deleteAttachment _ _ held)
  exact evolves_media (fun db => named _ db) fun db => erased _ db db

theorem evolves_applyDelete (env : Envelope) : Keeps (Evolves sys said) (applyDelete rel env) := by
  unfold applyDelete
  split
  · exact keeps_pure _
  · rename_i target _
    intro eng
    rw [bind_now]
    have erases : Evolves sys said eng (final ((onDeleteTarget target).run eng)) :=
      evolves_onDeleteTarget target eng
    refine trans_of (Evolves sys said) erases ?_
    refine trans_of (Evolves sys said) (.of_write (.tombstone _ rel target)) ?_
    have blanks : Keeps (Evolves sys said) (do
        let db ← readDb
        writeDb (Db.markTombstoned target)
        return if (db.message target).isSome then
          [EngineEvent.deleted rel target] else []) :=
      keeps_read fun db => keeps_returns (keeps_writeDb fun _ =>
        .of_write (.blank _ _))
    exact blanks _

theorem evolves_onRead (refId : Option MsgId) : Keeps (Evolves sys said) (onRead rel refId) := by
  refine keeps_read fun db => ?_
  refine keeps_bind (keeps_store _) fun policy => ?_
  split
  · exact keeps_pure _
  · split
    · refine keeps_clock fun now => ?_
      refine keeps_returns (keeps_writeDb fun _ => .of_write (.read _ _ _))
    · exact keeps_pure _

theorem evolves_onProfile (profile : Profile) :
    Keeps (Evolves sys said) (onProfile rel profile) := by
  refine keeps_clock fun now => ?_
  refine keeps_returns (keeps_updateDb fun eng => .of_write (.note ?_ ?_))
  all_goals
    unfold Db.applyInboundProfile
    simp only
    split <;> rfl

theorem applyCapSet_rules (state : PolicyState) (capId : UInt8) (on : Bool) :
    (applyCapSet state capId on).2.clampExpiryTo = none ∧
      (applyCapSet state capId on).1.ttlSec = state.ttlSec := by
  unfold applyCapSet
  simp only
  split
  · exact ⟨rfl, rfl⟩
  · cases on <;> exact ⟨rfl, rfl⟩

theorem applySync_rules (state : PolicyState) (policy : ChatPolicy) :
    (applySync state policy).2.clampExpiryTo = none ∧
      (applySync state policy).1.ttlSec = state.ttlSec := by
  unfold applySync
  simp only
  split <;> exact ⟨rfl, rfl⟩

theorem policyStep_horizon {now : Nat} (stepped : policyStep state policy msgId now =
      some (next, outcome, respond)) :
    outcome.clampExpiryTo = horizon state.ttlSec next.ttlSec now := by
  unfold policyStep at stepped
  split at stepped
  · cases stepped
    exact (horizon_self _ _).symm
  · split at stepped
    · obtain ⟨⟨_, _⟩, accepted, same⟩ := Option.map_eq_some_iff.mp stepped
      cases same
      unfold applyAccept at accepted
      split at accepted
      · cases accepted
      · split at accepted
        · cases accepted
        · cases accepted
          rfl
    · split at stepped
      · have rules := applyCapSet_rules state policy.capId policy.capOn
        simp only [Option.some.injEq, Prod.mk.injEq] at stepped
        obtain ⟨rfl, rfl, -⟩ := stepped
        rw [rules.1, rules.2, horizon_self]
      · split at stepped
        · have rules := applySync_rules state policy
          simp only [Option.some.injEq, Prod.mk.injEq] at stepped
          obtain ⟨rfl, rfl, -⟩ := stepped
          rw [rules.1, rules.2, horizon_self]
        · cases stepped

theorem buildAccept_horizon {now : Nat}
    (built : buildAccept state now = some (next, policy, outcome)) :
    outcome.clampExpiryTo = horizon state.ttlSec next.ttlSec now := by
  unfold buildAccept at built
  split at built
  · cases built
  · split at built
    · cases built
    · cases built
      rfl

theorem buildCapSet_horizon (now : Nat)
    (built : buildCapSet state capId on = some (next, policy, outcome)) :
    outcome.clampExpiryTo = horizon state.ttlSec next.ttlSec now := by
  unfold buildCapSet at built
  simp only at built
  split at built
  · cases built
  · split at built
    · cases built
    · cases built
      split <;> exact (horizon_self _ _).symm

def agreed (rel : RelId) (next : PolicyState) (outcome : ApplyOutcome) (eng : Engine) : Engine :=
  { eng with
    db := clampAndErase rel outcome (savePolicy rel next eng.db) }

theorem evolves_agreed {rest : List EngineEvent → Action α}
    (loaded : loadPolicy eng.db rel = .ok state)
    (clamped : outcome.clampExpiryTo = horizon state.ttlSec next.ttlSec eng.clock)
    (continues : ∀ events, Evolves sys said (agreed rel next outcome eng)
      (final ((rest events).run (agreed rel next outcome eng)))) :
    Evolves sys said eng (final ((do
      writeDb (savePolicy rel next)
      let events ← applyOutcome rel outcome
      rest events).run eng)) := by
  have written : Evolves sys said eng (agreed rel next outcome eng) := by
    refine .of_write (.agree fun row found => ?_)
    rw [← current_of_load loaded row found]
    exact clamped
  exact trans_of (Evolves sys said) written (continues _)

theorem evolves_applyChatPolicy (permits : Permits sys said)
    (env : Envelope) (policy : ChatPolicy) :
    Keeps (Evolves sys said) (applyChatPolicy sys rel env policy) := by
  refine fun eng => evolves_loaded fun state loaded => ?_
  rw [bind_now]
  split
  · exact refl_of (Evolves sys said) eng
  · rename_i next outcome respond stepped
    refine evolves_agreed loaded (policyStep_horizon stepped) fun events => ?_
    refine related_bind ?_ fun _ => keeps_pure _
    cases respond with
    | false => exact refl_of (Evolves sys said) _
    | true =>
      exact evolves_replySync permits (current_of_saved
        (congrArg Db.relationships (clampAndErase_rest rel outcome _) :))

theorem evolves_putChunk (headId : MsgId) (index : UInt16) (data : Bytes) (now : Nat) :
    Keeps (Evolves sys said) (tryDb (Db.putChunk headId index data rel now)) := by
  refine keeps_tryDb fun eng db stored => ?_
  unfold Db.putChunk at stored
  simp only at stored
  split at stored
  · split at stored
    · cases stored
    · cases stored
      exact .of_write (.media rfl id)
  · split at stored
    · cases stored
      exact .of_write (.media rfl id)
    · cases stored

theorem evolves_insertHead (own : head.msgId = head.headId) (now : Nat) :
    Keeps (Evolves sys said) (tryDb (Db.insertHead now head)) := by
  refine keeps_tryDb fun eng db stored => ?_
  unfold Db.insertHead at stored
  split at stored
  · rename_i attachments inserted
    cases stored
    refine .of_write (.media rfl fun named row mem => ?_)
    rcases (Table.mem_insert inserted).mp mem with old | rfl
    · exact named row old
    · exact own
  · cases stored

theorem evolves_tryComplete (headId : MsgId) :
    Keeps (Evolves sys said) (tryComplete sys rel headId) := by
  refine keeps_read fun db => ?_
  split
  · exact keeps_pure _
  · split
    · exact keeps_pure _
    · split
      · exact keeps_pure _
      · split
        · refine keeps_bind (evolves_media (fun _ => id) fun _ => rfl) fun _ => ?_
          exact keeps_returns (evolves_media (named_deleteAttachment _) fun _ => rfl)
        · refine keeps_bind (evolves_media (named_setChunks _ _) fun _ => rfl) fun _ => ?_
          exact keeps_returns (evolves_media (named_markComplete _) fun _ => rfl)

theorem evolves_completeInline (headId : MsgId) (head : AttachHead) (bytes : Bytes) :
    Keeps (Evolves sys said) (completeInline sys rel headId head bytes) := by
  unfold completeInline
  split
  · exact keeps_returns (evolves_media (named_deleteAttachment _) fun _ => rfl)
  · refine keeps_clock fun now => ?_
    refine keeps_bind (evolves_putChunk _ _ _ _) fun _ => ?_
    exact keeps_returns (evolves_media (named_markComplete _) fun _ => rfl)

theorem evolves_onAttachHead (msgId : MsgId) (payload : AttachHeadPayload) :
    Keeps (Evolves sys said) (onAttachHead sys rel msgId payload) := by
  refine keeps_read fun db => ?_
  refine keeps_bind (keeps_store _) fun allowed => ?_
  split
  · exact keeps_pure _
  · split
    · exact keeps_pure _
    · refine keeps_clock fun now => ?_
      refine keeps_bind (keeps_store _) fun expiry => ?_
      refine keeps_bind (evolves_insertHead rfl _) fun _ => ?_
      split
      · exact evolves_completeInline _ _ _
      · exact evolves_tryComplete _

theorem evolves_onAttachChunk (chunk : AttachChunk) :
    Keeps (Evolves sys said) (onAttachChunk sys rel chunk) := by
  refine keeps_read fun db => ?_
  split
  · exact keeps_pure _
  · split
    · exact keeps_pure _
    · refine keeps_clock fun now => ?_
      refine keeps_bind (evolves_putChunk _ _ _ _) fun _ => ?_
      refine keeps_bind (keeps_updateDb fun eng => ?_) fun noted => ?_
      · unfold Db.noteChunk
        split
        · exact .of_write (.media rfl id)
        · simp only
          split
          · exact .of_write (.media rfl id)
          · exact .of_write (.media rfl (named_setChunks _ _ _))
      · split
        · exact keeps_pure _
        · exact keeps_returns keeps_readDb
        · exact evolves_tryComplete _

/-! Retransmission: every frame belongs to a row still to be delivered. -/

/-- The row is still to be delivered and its frame is on file. -/
def Live (rel : RelId) (eng : Engine) (frame : Retransmit) : Prop :=
  (∃ row, eng.db.message frame.msgId = some row ∧
    row.relId = rel ∧ row.direction = .out ∧ (entryOf row).pending) ∧
  eng.db.storedCiphertext rel frame.msgId = some frame.frame

theorem evolves_requeueAll {eng : Engine} {frames : List Retransmit}
    (live : ∀ frame ∈ frames, Live rel eng frame) :
    Evolves sys said eng (final ((requeueAll sys rel frames).run eng)) := by
  induction frames generalizing eng with
  | nil => exact refl_of (Evolves sys said) eng
  | cons frame rest ih =>
    rw [run_requeueAll_cons]
    have drawn : Evolves sys said eng { eng with draws := eng.draws + 1 } :=
      .of_aside (.of_db rfl rfl rfl (Nat.le_succ _) rfl)
    split
    · rename_i record built
      obtain ⟨⟨row, found, own, out, pending⟩, stored⟩ := live frame List.mem_cons_self
      have queued : Evolves sys said { eng with draws := eng.draws + 1 } { eng with
            db := eng.db.requeue frame.msgId rel record messageTtlSecs eng.clock
            draws := eng.draws + 1 } :=
        .of_write (@Write.requeue _ _ _ { eng with draws := eng.draws + 1 } rel frame.msgId record
          ⟨_, _, stored, built⟩ ⟨entryOf row,
            congrArg (Option.map entryOf) found, own, out, pending⟩)
      exact trans_of (Evolves sys said) drawn (trans_of _ queued
        (ih fun other mem => live other (.tail _ mem)))
    · exact drawn

theorem live_retransmits : ∀ frame ∈ retransmits rel request eng,
      Live rel (requested rel request eng) frame := by
  intro frame mem
  obtain ⟨row, listed, covered, -, -, sameId, -⟩ := mem_retransmits.mp mem
  obtain ⟨stored, own, out, -, pending⟩ := mem_unsettled.mp listed
  refine ⟨⟨row, ?_, own, out, pending⟩, (stored_retransmits frame mem :)⟩
  have found : (eng.db.notePeerCaps rel request.caps).message row.msgId =
    some row := Table.lookup_key stored
  refine (message_acknowledged _ _ _).trans ?_
  rw [sameId, found, Option.map_some, if_neg]
  simp only [coveredIds, List.contains_iff_mem, List.mem_map, List.mem_filter]
  rintro ⟨other, ⟨among, shown⟩, same⟩
  have equal := Table.eq_of_key_eq (mem_unsettled.mp among).1 stored same
  rw [equal, covered] at shown
  cases shown

theorem evolves_replyPolicy (permits : Permits sys said) :
    Keeps (Evolves sys said) (replyPolicy sys rel) := by
  refine fun eng => evolves_loaded fun state loaded => ?_
  exact evolves_replySync permits (current_of_load loaded)

/-! The calls of the application that neither erase nor close. -/

section

variable (permits : Permits sys said)

include permits

theorem evolves_acceptRequest : Keeps (Evolves sys said) (acceptRequest sys rel) := by
  refine keeps_read fun db => ?_
  split
  · exact keeps_throw _
  · split
    · exact keeps_throw _
    · refine keeps_bind (evolves_contact fun _ => ⟨rfl, rfl, rfl⟩) fun _ => ?_
      exact evolves_onRelationshipActive permits

theorem evolves_pushInlineEmoji (body : String) :
    Keeps (Evolves sys said) (pushInlineEmoji sys rel body) := by
  refine keeps_forM fun front _ => keeps_read fun db => ?_
  split
  · exact keeps_pure _
  · exact (evolves_respects permits).obliges.sendBodies _ _ _

theorem evolves_sendText (body : String) (replyTo : Option MsgId) :
    Keeps (Evolves sys said) (sendText sys rel body replyTo) := by
  unfold sendText
  split
  · exact keeps_throw _
  · refine keeps_bind (keeps_returns (keeps_wire _)) fun body => ?_
    refine keeps_bind (evolves_send permits _ _ nofun) fun sent => ?_
    exact keeps_returns (evolves_pushInlineEmoji permits body)

theorem evolves_sendEdit (target : MsgId) (body : String) :
    Keeps (Evolves sys said) (sendEdit sys rel target body) := by
  refine keeps_read fun db => keeps_clock fun now => ?_
  split
  · exact keeps_throw _
  · split
    · exact keeps_throw _
    · split
      · exact keeps_throw _
      · refine keeps_bind (keeps_returns (keeps_wire _)) fun body => ?_
        refine keeps_bind (evolves_send permits _ _ nofun) fun sent => ?_
        exact keeps_returns (evolves_markEdited _ _ _)

theorem evolves_sendDelete (target : MsgId) :
    Keeps (Evolves sys said) (sendDelete sys rel target) := by
  refine keeps_bind (evolves_send permits _ _ nofun) fun sent => ?_
  intro eng
  rw [bind_now]
  have blanks : Evolves sys said eng { eng with db := eng.db.markTombstoned target } :=
    .of_write (.blank _ _)
  exact trans_of (Evolves sys said) blanks (.of_write (.tombstone _ rel target))

theorem evolves_sendTyping (typing : Bool) :
    Keeps (Evolves sys said) (sendTyping sys rel typing) := by
  refine keeps_bind (keeps_map_get id) fun eng => ?_
  split
  · exact keeps_pure _
  · refine keeps_bind (keeps_onlyIf _ (keeps_modify fun _ =>
      .of_aside (.of_db rfl rfl rfl le_rfl rfl))) fun _ => ?_
    exact keeps_returns (evolves_send permits _ _ nofun)

theorem evolves_proposeRules (ttlSec : UInt32) (screenshot attachDownload : Bool) :
    Keeps (Evolves sys said) (proposeRules sys rel ttlSec screenshot attachDownload) := by
  refine fun eng => evolves_loaded fun state loaded => ?_
  have drawn : Evolves sys said eng { eng with draws := eng.draws + 1 } := writes_draw eng
  rw [run_bind_ok (run_randomMsgId sys eng)]
  refine trans_of (Evolves sys said) drawn ?_
  split
  · exact refl_of (Evolves sys said) _
  · rename_i next policy built
    have kept : next.ttlSec = state.ttlSec := by
      unfold buildPropose at built
      split at built
      · cases built
      · cases built
        rfl
    refine related_bind (@evolves_savePolicy _ _ rel { eng with
      draws := eng.draws + 1 } _ fun row found => ?_) fun _ => ?_
    · exact kept.trans (current_of_load loaded row found)
    · exact keeps_returns (evolves_send permits _ _ nofun)

theorem evolves_acceptRules : Keeps (Evolves sys said) (acceptRules sys rel) := by
  refine fun eng => evolves_loaded fun state loaded => ?_
  rw [bind_now]
  split
  · exact refl_of (Evolves sys said) eng
  · rename_i next policy outcome built
    refine evolves_agreed loaded (buildAccept_horizon built) fun events => ?_
    exact keeps_returns (evolves_send permits (.chatPolicy policy) none nofun) _

theorem evolves_setCapability (capId : UInt8) (on : Bool) :
    Keeps (Evolves sys said) (setCapability sys rel capId on) := by
  refine fun eng => evolves_loaded fun state loaded => ?_
  split
  · exact refl_of (Evolves sys said) eng
  · rename_i next policy outcome built
    refine evolves_agreed loaded (buildCapSet_horizon _ built) fun events => ?_
    exact keeps_returns (evolves_send permits (.chatPolicy policy) none nofun) _

theorem evolves_sendAttachment (spec : AttachmentSpec) :
    Keeps (Evolves sys said) (sendAttachment sys rel spec) := by
  refine keeps_bind (keeps_ofExcept _ _) fun spec => ?_
  refine keeps_bind (keeps_ofExcept _ _) fun plan => ?_
  refine keeps_bind (evolves_send permits _ _ nofun) fun sent => ?_
  refine keeps_clock fun now => keeps_read fun db => ?_
  refine keeps_bind (keeps_store _) fun expiry => ?_
  refine keeps_bind (evolves_insertHead rfl _) fun _ => ?_
  refine keeps_bind ?_ fun _ => ?_
  · unfold stashInline
    split
    · exact keeps_bind (evolves_putChunk _ _ _ _) fun _ =>
        evolves_media (named_markComplete _) fun _ => rfl
    · exact keeps_pure _
  · refine keeps_returns (keeps_forM fun payload mem => keeps_returns ?_)
    obtain ⟨chunk, -, rfl⟩ := List.mem_map.mp mem
    exact evolves_send permits _ none nofun

theorem evolves_sendSticker (packId : Array16) (itemId : UInt16) : Keeps (Evolves sys said)
      (sendSticker sys rel packId itemId) := by
  refine keeps_read fun db => ?_
  split
  · exact keeps_returns (evolves_send permits _ _ nofun)
  · exact keeps_throw _

end

theorem evolves_attachmentViewed (headId : MsgId) :
    Keeps (Evolves sys said) (attachmentViewed headId) := by
  refine keeps_read fun db => ?_
  split
  · exact keeps_pure _
  · split
    · exact keeps_bind (evolves_media (fun _ => id) fun _ => rfl) fun _ =>
        evolves_media (fun _ => named_updateAttachment rfl fun _ => ⟨rfl, rfl⟩) fun _ => rfl
    · exact keeps_pure _

theorem evolves_declineRules : Keeps (Evolves sys said) (declineRules rel) := by
  refine fun eng => evolves_loaded fun state loaded => ?_
  exact evolves_savePolicy fun row found => current_of_load loaded row found

theorem evolves_backOff (row : OutboxRow) : Keeps (Evolves sys said) (backOff row) := by
  intro eng
  exact .of_write (.retry _ _ _)

theorem evolves_dequeue (msgId : MsgId) : Keeps (Evolves sys said) (writeDb (Db.dequeue msgId)) :=
  keeps_writeDb fun _ => .of_write (.dequeue trivial)

theorem evolves_drainRow {eng : Engine} {failed : List String}
    {row : OutboxRow} (queued : eng.db.outbox.lookup row.msgId = some row) :
    Evolves sys said eng (final ((drainRow sys failed row).run eng)) := by
  unfold drainRow
  rw [bind_readDb]
  split
  · exact keeps_returns (evolves_dequeue _) eng
  · split
    · exact keeps_returns (evolves_backOff row) eng
    · rw [run_bind_ok (run_sendRecord sys eng _ _)]
      refine trans_of (Evolves sys said) (.of_write (.handOver queued)) ?_
      split
      · refine keeps_bind (evolves_dequeue _) (fun _ => ?_) _
        exact keeps_returns (traced_of_writes fun _ => writes_markTransmitted _)
      · exact keeps_returns (evolves_backOff row) _

theorem outbox_drainRow {eng : Engine} {failed : List String}
    {row : OutboxRow} {other : MsgId} (differs : other ≠ row.msgId) :
    (final ((drainRow sys failed row).run eng)).db.outbox.lookup other =
      eng.db.outbox.lookup other := by
  have backs : ∀ eng : Engine, (final ((backOff row).run eng)).db.outbox.lookup other =
        eng.db.outbox.lookup other := by
    intro eng
    show (eng.db.noteAttempt row.msgId _ _).outbox.lookup other = _
    unfold Db.noteAttempt
    rw [Table.lookup_update_key, if_neg differs]
  have leaves : ∀ eng : Engine, (eng.db.dequeue row.msgId).outbox.lookup other =
        eng.db.outbox.lookup other := fun eng =>
    (Db.lookup_dequeue row.msgId other eng.db).trans (if_neg differs)
  unfold drainRow
  rw [bind_readDb]
  split
  · exact leaves eng
  · split
    · exact backs eng
    · rw [run_bind_ok (run_sendRecord sys eng _ _)]
      split
      · rw [bind_writeDb, EStateM.run_bind, markTransmitted, run_transition]
        split
        · rename_i found
          split at found
          · cases found
          · split at found <;> cases found
            exact leaves eng
        · rename_i found
          split at found
          · cases found
            exact leaves eng
          · split at found <;> cases found
            exact leaves eng
      · exact backs _

theorem evolves_drainRows {eng : Engine} {failed : List String}
    {rows : List OutboxRow} (nodup : (rows.map OutboxRow.msgId).Nodup)
    (queued : ∀ row ∈ rows, eng.db.outbox.lookup row.msgId = some row) :
    Evolves sys said eng (final ((drainRows sys failed rows).run eng)) := by
  induction rows generalizing eng failed with
  | nil => exact refl_of (Evolves sys said) eng
  | cons row rest ih =>
    obtain ⟨apart, distinct⟩ := List.nodup_cons.mp nodup
    have first := @evolves_drainRow sys said eng failed row (queued row List.mem_cons_self)
    have kept : ∀ other ∈ rest, (final ((drainRow sys failed row).run
        eng)).db.outbox.lookup other.msgId = some other := by
      intro other mem
      refine (outbox_drainRow fun same => apart ?_).trans (queued other (.tail _ mem))
      exact same ▸ List.mem_map_of_mem mem
    unfold drainRows
    refine final_bind (fun error middle ran => ?_) fun result middle ran => ?_
    · rw [ran] at first
      exact first
    rw [ran] at first kept
    refine trans_of (Evolves sys said) first ?_
    exact related_bind (ih distinct kept) fun _ => keeps_pure _

end SChatCore.Ledger
