import SChatCore.Engine.Api
import SChatCore.Isolation.Control

namespace SChatCore.Isolation

open Data Data.Action Wire Store Policy Engine

/-! The whole path of a plaintext. What a handler touches can be read off the
engine before the frame. -/

theorem putChunk_eq (headId : MsgId) (index : UInt16) (data : Bytes)
    (rel : RelId) (now : Nat) (db : Db) :
    db.putChunk headId index data rel now = (Db.putChunk headId index data rel now
        { Db.empty with chunks := db.chunks }).map fun stored =>
          { db with chunks := stored.chunks } := by
  unfold Db.putChunk Db.chunk
  simp only
  cases db.chunks.lookup (headId, index) with
  | some row =>
    simp only [Option.map_some]
    split <;> rfl
  | none =>
    simp only [Option.map_none]
    cases db.chunks.insert (ChunkRow.mk headId index data rel now) <;> rfl

theorem erases_of_same (same : { first with lastSyncAt := 0 } = { second with lastSyncAt := 0 })
    (policy : ChatPolicy) (msgId : MsgId) (now : Nat) :
    ((policyStep first policy msgId now).any fun step =>
        step.2.1.eraseAttachments) =
      (policyStep second policy msgId now).any fun step =>
        step.2.1.eraseAttachments := by
  have blind : ∀ state : PolicyState, ((policyStep state policy msgId now).any fun step =>
          step.2.1.eraseAttachments) =
        (policyStep { state with lastSyncAt := 0 } policy msgId now).any
          fun step => step.2.1.eraseAttachments := by
    intro state
    unfold policyStep applyAccept applyCapSet applySync
    split
    · rfl
    · split
      · simp only
        cases state.pending with
        | none => rfl
        | some pending =>
          simp only
          split <;> rfl
      · split
        · simp only
          split
          · rfl
          · split <;> rfl
        · split
          · simp only
            split <;> rfl
          · rfl
  rw [blind first, same, ← blind second]

section

variable (poised : Poised sys rel env eng ready)

include poised

theorem foreignMessage_iff : ForeignMessage ready.db rel msgId kind ↔
      ForeignMessage eng.db rel msgId kind := by
  refine exists_congr fun row => ?_
  by_cases own : row.relId = rel
  · simp [own]
  · exact and_congr (poised.isolated.messages.lookup_eq own) Iff.rfl

theorem foreignChunk_iff : ForeignChunk ready.db rel headId ↔ ForeignChunk eng.db rel headId := by
  unfold ForeignChunk
  rw [poised.chunks]

theorem exists_policy_iff {kind : PolicyState → Prop}
    (blind : ∀ first second : PolicyState, { first with lastSyncAt := 0 } =
      { second with lastSyncAt := 0 } → (kind first ↔ kind second)) :
    (∃ state, loadPolicy ready.db rel = .ok state ∧ kind state) ↔
      ∃ state, loadPolicy eng.db rel = .ok state ∧ kind state := by
  have same := poised.standing
  simp only [loadPolicy_eq_ok]
  cases before : eng.db.relationship rel with
  | none =>
    rw [before] at same
    have after := Option.map_eq_none_iff.mp same
    simp [after]
  | some row =>
    rw [before] at same
    obtain ⟨current, after, equal⟩ := Option.map_eq_some_iff.mp same
    have policies := congrArg Prod.snd equal
    simp only [after, Option.some.injEq, exists_eq_left']
    simpa using blind _ _ policies

theorem touchesRead_iff : TouchesRead ready.db rel env ↔ TouchesRead eng.db rel env := by
  unfold TouchesRead
  refine exists_congr fun target => ?_
  simp only [foreignMessage_iff poised, exists_and_left]
  refine and_congr Iff.rfl ?_
  simp only [← and_assoc, exists_and_right]
  refine and_congr (exists_policy_iff poised fun first second same => ?_) Iff.rfl
  exact iff_of_eq (congrArg (· = true) (congrArg PolicyState.receipts same :))

theorem attachmentsAllowed_iff : attachmentsAllowed ready.db rel = .ok true ↔
      attachmentsAllowed eng.db rel = .ok true := by
  have spelled : ∀ db : Db, attachmentsAllowed db rel = .ok true ↔
      ∃ state, loadPolicy db rel = .ok state ∧ state.attachments = true := by
    intro db
    unfold attachmentsAllowed
    cases loadPolicy db rel <;> simp
  rw [spelled, spelled]
  refine exists_policy_iff poised fun first second same => ?_
  exact iff_of_eq (congrArg (· = true) (congrArg PolicyState.attachments same :))

theorem touchesHead_iff {payload : AttachHeadPayload} : TouchesHead sys ready rel msgId payload ↔
      TouchesHead sys eng rel msgId payload := by
  unfold TouchesHead Db.chunksFor Db.chunkRowsFor Db.attachment
  rw [attachmentsAllowed_iff poised, foreignChunk_iff poised, poised.attachments, poised.chunks]

theorem touchesChunk_iff : TouchesChunk sys ready rel chunk ↔
      TouchesChunk sys eng rel chunk := by
  have refuses : refusesChunk ready.db rel chunk = refusesChunk eng.db rel chunk := by
    unfold refusesChunk orphanCapped Db.orphanHeadStats Db.orphanRelStats Db.attachment
    rw [poised.attachments, poised.chunks]
  unfold TouchesChunk Db.attachment
  rw [refuses, poised.attachments, poised.clock, putChunk_eq, poised.chunks,
    putChunk_eq chunk.headId chunk.index chunk.data rel eng.clock
    eng.db]
  refine and_congr Iff.rfl (and_congr Iff.rfl ?_)
  cases Db.putChunk chunk.headId chunk.index chunk.data rel eng.clock
      { Db.empty with chunks := eng.db.chunks } with
  | error error => simp [Except.map]
  | ok stored =>
    simp only [Except.map, Except.ok.injEq, exists_and_left, exists_eq_left',
      foreignChunk_iff poised]
    rfl

theorem foreignHead_iff : ForeignHead ready.db rel headId ↔ ForeignHead eng.db rel headId := by
  unfold ForeignHead Db.attachment
  rw [poised.attachments, foreignChunk_iff poised]

theorem mem_liveAttachHeads_iff (other : env.envelopeType ≠ .attachHead) :
    headId ∈ liveAttachHeads ready.db rel ↔ headId ∈ liveAttachHeads eng.db rel := by
  rw [mem_liveAttachHeads, mem_liveAttachHeads]
  constructor
  · rintro ⟨row, found, own, type, live⟩
    cases before : eng.db.message headId with
    | none =>
      exfalso
      obtain ⟨-, ⟨-, ours⟩ | ⟨-, control, -⟩⟩ := poised.added headId row found before
      · exact code_ne_attachHead other (ours.symm.trans type)
      · exact control type
    | some old =>
      cases (poised.kept headId old before).1.symm.trans found
      exact ⟨row, rfl, own, type, live⟩
  · rintro ⟨row, found, rest⟩
    exact ⟨row, (poised.kept headId row found).1, rest⟩

theorem touchesPolicy_iff {policy : ChatPolicy} (other : env.envelopeType ≠ .attachHead) :
    TouchesPolicy ready rel env policy ↔
      TouchesPolicy eng rel env policy := by
  have spelled : ∀ eng : Engine, TouchesPolicy eng rel env policy ↔
      (∃ state, loadPolicy eng.db rel = .ok state ∧
        ((policyStep state policy env.msgId eng.clock).any fun step =>
          step.2.1.eraseAttachments) = true) ∧
      ∃ headId, headId ∈ liveAttachHeads eng.db rel ∧ ForeignHead eng.db rel headId := by
    intro eng
    unfold TouchesPolicy
    constructor
    · rintro ⟨state, headId, loaded, erases, rest⟩
      exact ⟨⟨state, loaded, erases⟩, headId, rest⟩
    · rintro ⟨⟨state, loaded, erases⟩, headId, rest⟩
      exact ⟨state, headId, loaded, erases, rest⟩
  rw [spelled, spelled, poised.clock]
  refine and_congr (exists_policy_iff poised fun first second same => ?_)
    (exists_congr fun headId => and_congr (mem_liveAttachHeads_iff poised other)
      (foreignHead_iff poised))
  rw [erases_of_same same]

theorem retransmit_of_poised (found : eng.db.message row.msgId = some row) :
    retransmit ready.db ready.clock rel request row =
      retransmit eng.db eng.clock rel request row := by
  unfold retransmit Db.storedCiphertext
  rw [poised.clock, (poised.kept row.msgId row found).2.2]

theorem misqueued_iff : Misqueued ready rel request ↔ Misqueued eng rel request := by
  constructor
  · rintro ⟨row, mem, frame, entry, sent, queued, foreign⟩
    obtain ⟨stored, own, out, rest⟩ := mem_unsettled.mp mem
    have found : ready.db.message row.msgId = some row := Table.lookup_key stored
    cases before : eng.db.message row.msgId with
    | none =>
      exfalso
      obtain ⟨-, ⟨inbound, -⟩ | ⟨-, -, entries⟩⟩ := poised.added row.msgId row found before
      · cases inbound.symm.trans out
      · exact foreign (entries entry queued)
    | some old =>
      obtain ⟨message, entries, -⟩ := poised.kept row.msgId old before
      cases message.symm.trans found
      refine ⟨row, mem_unsettled.mpr
        ⟨(Table.lookup_eq_some.mp before).1, own, out, rest⟩, frame, entry,
        (retransmit_of_poised poised before).symm.trans sent,
        entries.symm.trans queued, foreign⟩
  · rintro ⟨row, mem, frame, entry, sent, queued, foreign⟩
    obtain ⟨stored, rest⟩ := mem_unsettled.mp mem
    have before : eng.db.message row.msgId = some row := Table.lookup_key stored
    obtain ⟨message, entries, -⟩ := poised.kept row.msgId row before
    exact ⟨row, mem_unsettled.mpr ⟨(Table.lookup_eq_some.mp message).1, rest⟩,
      frame, entry, (retransmit_of_poised poised before).trans sent,
      entries.trans queued, foreign⟩

theorem touches_iff : Touches sys ready rel env ↔ Touches sys eng rel env := by
  unfold Touches
  cases payload : env.payload <;> simp only
  case edit edit =>
    unfold TouchesEdit Db.isTombstoned
    simp only [poised.historyCut, poised.clock, poised.tombstones, foreignMessage_iff poised]
  case delete =>
    unfold TouchesDelete
    simp only [foreignMessage_iff poised, foreignChunk_iff poised, poised.attachments]
  case contactClose =>
    unfold TouchesClose
    simp only [foreignChunk_iff poised, poised.attachments]
  case resyncReq request =>
    unfold TouchesResync
    rw [poised.rate, poised.clock, poised.session, misqueued_iff poised]
  case attachHead payload => exact touchesHead_iff poised
  case attachChunk chunk => exact touchesChunk_iff poised
  case read => exact touchesRead_iff poised
  case chatPolicy policy =>
      refine touchesPolicy_iff poised ?_
      simp [Envelope.envelopeType, payload, Payload.envelopeType]

end

/-- The frame is processed to the end and its handler reaches out. -/
def Leaks (sys : Platform) (eng : Engine) (rel : RelId) (plain : Bytes) : Prop :=
  ∃ env row, Accepts sys eng rel plain env row ∧ Activates sys eng rel ∧
    isCut rel env eng.clock eng.db = false ∧
    Touches sys eng rel env

section

variable {sys : Platform} {rel : RelId}

theorem staged_apart : Staged sys rel (Apart rel) :=
  staged_of_outbound (fun _ _ step => step.isolated)
    (fun eng _ => { Isolated.refl rel eng.db with })
    fun eng _ _ own stored => { Isolated.refl rel eng.db with
      messages := Table.SameBut.insert stored own }

theorem isolated_of_not_leaks (quiet : ¬ Leaks sys eng rel plain) : Isolated rel eng.db
      (final ((handlePlaintext sys rel plain).run eng)).db := by
  by_cases accepted : ∃ env row, Accepts sys eng rel plain env row
  · obtain ⟨env, row, accepts⟩ := accepted
    by_cases dispatched : ∃ filed, Dispatches sys rel eng plain env filed
    · obtain ⟨ready, dispatches⟩ := dispatched
      have tail := staged_apart.tail dispatches
      obtain ⟨row, woken, accepts, activated, uncut, ledgered⟩ := dispatches
      have poised := poised_of_activate activated
      have atReady := poised.ledger accepts.decoded accepts.found ledgered
      obtain ⟨current, known⟩ := atReady.known accepts.found
      have activates := activates_heard.mp (@activates_of_run sys rel
        (heard rel env eng) woken row accepts.found activated)
      rw [poised.isCut] at uncut
      have apart := apart_dispatch known fun touches => quiet
        ⟨env, row, accepts, activates, uncut, (touches_iff atReady).mp touches⟩
      exact atReady.isolated.trans (Isolated.trans apart tail)
    · have noted : Isolated rel eng.db (heard rel env eng).db := .noteInboundSeq env.appSeq
      exact noted.trans (staged_apart.undispatched accepts
        fun filed dispatches => dispatched ⟨filed, dispatches⟩)
  · rw [final_handlePlaintext_of_not fun env row accepts =>
      accepted ⟨env, row, accepts⟩]
    exact .refl _ _

theorem not_isolated_of_leaks (healthy : ∀ env, Envelope.decode sys.nfc plain = .ok env →
      eng.db.message env.msgId = none → Healthy sys eng 6 env.msgId)
    (leaks : Leaks sys eng rel plain) :
    ¬ Isolated rel eng.db (final ((handlePlaintext sys rel plain).run eng)).db := by
  obtain ⟨env, row, accepts, activates, uncut, touches⟩ := leaks
  obtain ⟨woken, activated, -, -, stays⟩ := @run_activate sys rel
    (heard rel env eng) 0 env.msgId row accepts.found
    ((healthy env accepts.decoded accepts.admits.newId).congr rfl rfl rfl rfl)
    (activates_heard.mpr activates)
  have poised := poised_of_activate activated
  obtain ⟨current, known⟩ := poised.known accepts.found
  obtain ⟨ready, ledgered⟩ := accepts.ledgers activated stays.spare
  have atReady := poised.ledger accepts.decoded accepts.found ledgered
  obtain ⟨last, knownLast⟩ := atReady.known accepts.found
  have tail := staged_apart.tail ⟨row, woken, accepts, activated,
    poised.isCut.trans uncut, ledgered⟩
  rw [atReady.isolated.iff_of_left]
  refine fun apart => not_apart_dispatch knownLast ?_
    ((touches_iff atReady).mpr touches) ((Isolated.iff_of_right tail).mp apart)
  obtain ⟨-, rfl⟩ | ⟨-, -, messages, -, rfl⟩ := ledgerInbound_eq_ok accepts.decoded known ledgered
  · exact stays.cached
  · exact stays.cached

end

/-- A plaintext leaves the other relationships alone unless it leaks; where
the libraries do their part, only then. -/
theorem isolated_iff_not_leaks (sys : Platform) (eng : Engine) (rel : RelId) (plain : Bytes) :
    (¬ Leaks sys eng rel plain → Isolated rel eng.db
      (final ((handlePlaintext sys rel plain).run eng)).db) ∧
    ((∀ env, Envelope.decode sys.nfc plain = .ok env → eng.db.message env.msgId = none →
          Healthy sys eng 6 env.msgId) →
      Isolated rel eng.db (final ((handlePlaintext sys rel plain).run eng)).db →
      ¬ Leaks sys eng rel plain) :=
  ⟨isolated_of_not_leaks, fun healthy isolated leaks =>
    not_isolated_of_leaks healthy leaks isolated⟩

def bobsMessage : MessageRow where
  msgId := .replicate 16 2
  relId := "bob"
  direction := .in_
  appSeq := 1
  sentAt := 0
  receivedAt := some 0
  envType := EnvelopeType.msg.code
  refId := none
  payload := [104, 105]
  state := .received
  expiresAt := none
  createdAt := 0
  edited := false
  tombstone := false
  readAt := none
  editCount := 0
  lastEditSeq := 0

def twoContacts : Engine :=
  Engine.new { Db.empty with
    relationships := ⟨[newRelationship "alice" .inviter .active "" [] false 0,
      newRelationship "bob" .inviter .active "" [] false 0], by decide⟩
    messages := ⟨[bobsMessage], List.nodup_singleton _⟩ } 0

/-- From the first contact, about the message with this id. -/
def fromAlice (payload : Payload) (refId : Option MsgId) : Envelope where
  msgId := .replicate 16 1
  appSeq := 1
  sentAt := 0
  refId := refId
  payload := payload

theorem admits_fromAlice {payload : Payload} (open_ : requiredCap payload.envelopeType = none) :
    Admits twoContacts "alice" (fromAlice payload refId) where
  allowed := by
    have type : (fromAlice payload refId).envelopeType =
        payload.envelopeType := rfl
    rw [allows, type, open_]
    rfl
  unclosed closing := by
    have quiet : twoContacts.db.closeState "alice" = none := by decide
    rw [quiet] at closing
    cases closing
  timely := Nat.zero_le _
  newId := show twoContacts.db.message (.replicate 16 1) = none by decide
  newSeq := show twoContacts.db.hasInboundSeq "alice" 1 = false by decide

theorem relationship_alice : twoContacts.db.relationship "alice" =
    some (newRelationship "alice" .inviter .active "" [] false 0) := by
  decide

theorem healthy_fromAlice {payload : Payload} (reads : Envelope.decode Platform.loopback.nfc plain =
      .ok (fromAlice payload refId)) (env : Envelope)
    (decoded : Envelope.decode Platform.loopback.nfc plain = .ok env) :
    Healthy Platform.loopback twoContacts 6 env.msgId := by
  cases reads.symm.trans decoded
  exact @healthy_loopback _ (.replicate 16 1) _ rfl (by decide) (by decide) (by decide)

/-- A profile request has nothing to reach for. -/
theorem isolated_profile_request :
    ∃ plain, (fromAlice .profileReq none).encode Platform.loopback.nfc = .ok plain ∧
      Isolated "alice" twoContacts.db (final ((handlePlaintext
        Platform.loopback "alice" plain).run twoContacts)).db ∧
      ¬ Leaks Platform.loopback twoContacts "alice" plain := by
  obtain ⟨plain, encoded⟩ : ∃ plain, (fromAlice .profileReq none).encode Platform.loopback.nfc =
        .ok plain := ⟨_, rfl⟩
  have reads := Envelope.decode_of_encode encoded fun payload wrote => by
    cases wrote
    rfl
  have quiet : ¬ Leaks Platform.loopback twoContacts "alice" plain := by
    rintro ⟨env, row, accepts, -, -, touches⟩
    cases reads.symm.trans accepts.decoded
    exact touches
  have isolated := (isolated_iff_not_leaks Platform.loopback twoContacts "alice" plain).1 quiet
  exact ⟨plain, encoded, isolated, (isolated_iff_not_leaks
    Platform.loopback twoContacts "alice" plain).2
      (fun env decoded _ => healthy_fromAlice reads env decoded) isolated⟩

/-- One contact deletes what the other one wrote. -/
theorem not_isolated_delete_of_other : ∃ plain, (fromAlice .delete (some bobsMessage.msgId)).encode
        Platform.loopback.nfc = .ok plain ∧
      ¬ Isolated "alice" twoContacts.db (final ((handlePlaintext
        Platform.loopback "alice" plain).run twoContacts)).db := by
  obtain ⟨plain, encoded⟩ : ∃ plain, (fromAlice .delete (some bobsMessage.msgId)).encode
        Platform.loopback.nfc = .ok plain := ⟨_, rfl⟩
  have reads := Envelope.decode_of_encode encoded fun payload wrote => by
    cases wrote
    rfl
  refine ⟨plain, encoded, not_isolated_of_leaks
    (fun env decoded _ => healthy_fromAlice reads env decoded) ?_⟩
  refine ⟨_, _, ⟨reads, relationship_alice, admits_fromAlice rfl⟩,
    fun row found accepter => ?_, rfl, ?_⟩
  · cases relationship_alice.symm.trans found
    cases accepter
  refine ⟨bobsMessage.msgId, rfl, .inl ⟨bobsMessage, ?_, ?_, .inl ?_⟩⟩
  · decide
  · decide
  · decide

end SChatCore.Isolation
