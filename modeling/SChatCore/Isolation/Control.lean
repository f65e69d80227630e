import SChatCore.Engine.Resync
import SChatCore.Isolation.Attachments

namespace SChatCore.Isolation

open Data Data.Action Wire Store Policy Engine

/-! Policy, close and resync. -/

def ForeignHead (db : Db) (rel : RelId) (headId : MsgId) : Prop :=
  (∃ row, db.attachment headId = some row ∧ row.relId ≠ rel) ∨ ForeignChunk db rel headId

/-- An op that turns attachments off and finds foreign rows under one of the
relationship's own heads. -/
def TouchesPolicy (eng : Engine) (rel : RelId) (env : Envelope) (policy : ChatPolicy) : Prop :=
  ∃ state headId, loadPolicy eng.db rel = .ok state ∧
    ((policyStep state policy env.msgId eng.clock).any fun step =>
      step.2.1.eraseAttachments) = true ∧
    headId ∈ liveAttachHeads eng.db rel ∧
    ForeignHead eng.db rel headId

def TouchesClose (db : Db) (rel : RelId) : Prop :=
  ∃ row ∈ db.attachments, row.relId = rel ∧ ForeignChunk db rel row.headId

/-- A row to be sent again whose id is queued for another relationship. -/
def Misqueued (eng : Engine) (rel : RelId) (request : ResyncReq) : Prop :=
  ∃ row ∈ unsettled eng.db rel request, ∃ frame entry,
    retransmit eng.db eng.clock rel request row = some frame ∧
      eng.db.outbox.lookup row.msgId = some entry ∧ entry.relId ≠ rel

/-- A request that gets past the rate limiter and overwrites such an entry. -/
def TouchesResync (eng : Engine) (rel : RelId) (request : ResyncReq) :
    Prop :=
  (eng.rate.check .resyncReq rel eng.clock).1 = true ∧
    sessionState eng.db rel ≠ .broken ∧ Misqueued eng rel request

theorem apart_of_outbound (outbound : Keeps (Outbound rel) action) : Keeps (Apart rel) action :=
  outbound.mono fun _ _ step => step.isolated

theorem apart_updateRelationship (assign : RelationshipRow → RelationshipRow)
    (keepsKey : ∀ row, (assign row).relId = row.relId) :
    Keeps (Apart rel) (writeDb (Db.updateRelationship rel assign keepsKey)) :=
  keeps_writeDb fun _ => .updateRelationship assign keepsKey

theorem apart_replySync (state : PolicyState) : Keeps (Apart rel) (replySync sys rel state) := by
  refine keeps_clock fun now => ?_
  split
  · refine keeps_bind (apart_updateRelationship _ _) fun _ => ?_
    exact keeps_returns (apart_of_outbound (outbound_sendEnvelope sys _ _))
  · exact keeps_pure _

theorem mem_liveAttachHeads : headId ∈ liveAttachHeads db rel ↔ ∃ row,
      db.message headId = some row ∧ row.relId = rel ∧
        row.envType = EnvelopeType.attachHead.code ∧ row.tombstone = false := by
  unfold liveAttachHeads Db.message
  simp only [List.mem_map, Table.mem_select, Bool.and_eq_true,
    decide_eq_true_eq, Bool.not_eq_true', Table.lookup_eq_some]
  exact exists_congr fun row => by tauto

theorem msgId_tombstone (row : MessageRow) :
    { row with payload := [], tombstone := true }.msgId = row.msgId := rfl

def erasedHeads (heads : List MsgId) (db : Db) : Db :=
  { db.withoutHeads heads with
    messages := db.messages.update (fun row => heads.contains row.msgId)
      (fun row => { row with payload := [], tombstone := true })
      msgId_tombstone }

theorem foldl_eraseAttachMessage (heads : List MsgId) (db : Db) :
    heads.foldl (fun db headId => eraseAttachMessage headId db) db =
      erasedHeads heads db := by
  induction heads generalizing db with
  | nil =>
    have messages : (db.messages.update (fun row => [].contains row.msgId)
        (fun row => { row with payload := [], tombstone := true })
        fun _ => rfl) = db.messages := by
      apply Table.ext
      simp [Table.update]
    rw [List.foldl_nil, erasedHeads, messages, Db.withoutHeads_nil]
  | cons headId rest ih =>
    rw [List.foldl_cons, ih]
    have messages : ((db.messages.update (fun row => row.msgId = headId)
        (fun row => { row with payload := [], tombstone := true })
        fun _ => rfl).update (fun row => rest.contains row.msgId)
        (fun row => { row with payload := [], tombstone := true })
        fun _ => rfl) = db.messages.update (fun row => (headId :: rest).contains row.msgId)
          (fun row => { row with payload := [], tombstone := true })
          fun _ => rfl := by
      rw [Table.update_update]
      · simp [eq_comm]
      · exact fun _ => rfl
      · exact fun _ => rfl
    unfold erasedHeads
    rw [← Db.withoutHeads_cons, ← messages]
    rfl

theorem isolated_eraseAttachMessages : Isolated rel db (eraseAttachMessages rel db) ↔
      ¬ ∃ headId ∈ liveAttachHeads db rel, ForeignHead db rel headId := by
  unfold eraseAttachMessages
  rw [foldl_eraseAttachMessage]
  refine Iff.trans isolated_tables_iff ?_
  have messages : Table.SameBut MessageRow.relId rel db.messages
      (erasedHeads (liveAttachHeads db rel) db).messages := by
    refine Table.SameBut.update (fun _ => by rfl) fun row mem hit => ?_
    rw [List.contains_iff_mem] at hit
    obtain ⟨other, found, own, -⟩ := mem_liveAttachHeads.mp hit
    cases found.symm.trans (Table.lookup_key mem)
    exact ⟨own, own⟩
  refine (and_iff_right messages).trans (Iff.trans (and_congr
    Table.SameBut.delete_iff Table.SameBut.delete_iff) ?_)
  simp only [List.contains_iff_mem]
  constructor
  · rintro ⟨attachments, chunks⟩ ⟨headId, live, leak⟩
    obtain ⟨row, found, foreign⟩ | ⟨chunk, mem, same, foreign⟩ := leak
    · obtain ⟨mem, key⟩ := Table.lookup_eq_some.mp found
      exact foreign (attachments row mem (key.symm ▸ live))
    · exact foreign (chunks chunk mem (same.symm ▸ live))
  · intro none
    refine ⟨fun row mem live => ?_, fun chunk mem live => ?_⟩
    · by_contra foreign
      exact none ⟨row.headId, live, .inl ⟨row, Table.lookup_key mem, foreign⟩⟩
    · by_contra foreign
      exact none ⟨chunk.headId, live, .inr ⟨chunk, mem, rfl, foreign⟩⟩

theorem isolated_clampMessageExpiry (before : Nat) :
    Isolated rel db (clampMessageExpiry rel before db) := by
  refine { Isolated.refl rel db with
    messages := Table.SameBut.update (fun _ => by rfl) fun row _ hit => ?_ }
  simp only [Bool.and_eq_true, decide_eq_true_eq] at hit
  exact ⟨hit.1, hit.1⟩

theorem mem_liveAttachHeads_clamp :
    headId ∈ liveAttachHeads (clampMessageExpiry rel before db) rel ↔
      headId ∈ liveAttachHeads db rel := by
  rw [mem_liveAttachHeads, mem_liveAttachHeads]
  have looked : (clampMessageExpiry rel before db).message headId =
      (db.message headId).map fun row =>
        if row.relId = rel && row.expiresAt.all (before < ·) then
          { row with expiresAt := some before } else row := by
    unfold clampMessageExpiry Db.message
    rw [Table.lookup_update]
  rw [looked]
  cases db.message headId with
  | none => simp
  | some row =>
    simp only [Option.map_some, Option.some.injEq, exists_eq_left']
    split <;> rfl

theorem isolated_clampAndErase : Isolated rel db (clampAndErase rel outcome db) ↔
      ¬ (outcome.eraseAttachments = true ∧
        ∃ headId ∈ liveAttachHeads db rel, ForeignHead db rel headId) := by
  have plain : ∀ source : Db, Isolated rel source
      (if outcome.eraseAttachments then eraseAttachMessages rel source
        else source) ↔ ¬ (outcome.eraseAttachments = true ∧ ∃ headId ∈ liveAttachHeads source rel,
            ForeignHead source rel headId) := by
    intro source
    split
    · rename_i erases
      rw [isolated_eraseAttachMessages]
      simp [erases]
    · rename_i keeps
      exact iff_of_true (.refl _ _) fun both => keeps both.1
  unfold clampAndErase
  cases outcome.clampExpiryTo with
  | none => exact plain db
  | some before =>
    refine (isolated_clampMessageExpiry before).iff_of_left.trans
      ((plain _).trans (not_congr (and_congr Iff.rfl ?_)))
    exact exists_congr fun headId => and_congr mem_liveAttachHeads_clamp Iff.rfl

theorem isolated_applyChatPolicy (policy : ChatPolicy) : Isolated rel eng.db
        (final ((applyChatPolicy sys rel env policy).run eng)).db ↔
      ¬ TouchesPolicy eng rel env policy := by
  unfold applyChatPolicy TouchesPolicy
  simp only [EStateM.run_bind, run_readDb]
  cases loaded : loadPolicy eng.db rel with
  | error error => exact iff_of_true (.refl _ _) (by simp)
  | ok state =>
    simp only [store, run_ofExcept_ok, run_now]
    cases stepped : policyStep state policy env.msgId eng.clock with
    | none => exact iff_of_true (.refl _ _) (by simp [stepped])
    | some result =>
      obtain ⟨next, outcome, respond⟩ := result
      have columns : Isolated rel eng.db (savePolicy rel next eng.db) := .updateRelationship _ _
      simp only [EStateM.run_bind, run_writeDb, applyOutcome]
      let swept : Engine := { eng with
        db := clampAndErase rel outcome (savePolicy rel next eng.db) }
      have tail : Keeps (Apart rel) (do
          onlyIf respond (replySync sys rel next)
          return if outcome.changed then
            [EngineEvent.policyChanged rel] else []) :=
        keeps_returns (keeps_onlyIf respond (apart_replySync next))
      have right : Isolated rel swept.db _ := tail swept
      refine (Isolated.iff_of_right right).trans ?_
      refine columns.iff_of_left.trans (isolated_clampAndErase.trans (not_congr ?_))
      constructor
      · rintro ⟨erases, headId, live, foreign⟩
        exact ⟨state, headId, rfl, by simpa [stepped] using erases, live, foreign⟩
      · rintro ⟨state', headId, same, erases, live, foreign⟩
        cases same
        exact ⟨by simpa [stepped] using erases, headId, live, foreign⟩

theorem isolated_burn : Isolated rel db (db.burn rel) ↔ ¬ TouchesClose db rel := by
  constructor
  · rintro isolated ⟨row, mem, own, chunk, chunkMember, same, foreign⟩
    have kept := Table.SameBut.delete_iff.mp isolated.chunks chunk chunkMember
    refine foreign (kept ?_)
    show (db.attachments.lookup chunk.headId).any _ = true
    rw [same, Table.lookup_key mem]
    simp [own]
  · intro none
    refine {
      messages := Table.SameBut.delete fun _ _ hit => by simpa using hit
      attachments := Table.SameBut.delete fun _ _ hit => by simpa using hit
      chunks := Table.SameBut.delete fun chunk mem hit => ?_
      tombstones := Table.SameBut.delete fun _ _ hit => by simpa using hit
      outbox := Table.SameBut.delete fun _ _ hit => by simpa using hit
      inboundSeqs := Table.SameBut.delete fun _ _ hit => by simpa using hit
      relationship := fun other foreign =>
        (Table.lookup_delete_key rel other).trans (if_neg foreign) }
    by_contra foreign
    cases found : db.attachments.lookup chunk.headId with
    | none => simp [found] at hit
    | some row =>
      obtain ⟨rowMember, key⟩ := Table.lookup_eq_some.mp found
      exact none ⟨row, rowMember, by simpa [found] using hit, chunk, mem, key.symm, foreign⟩

theorem isolated_onContactClose (found : eng.db.relationship rel = some row) :
    Isolated rel eng.db (final ((onContactClose rel).run eng)).db ↔ ¬ TouchesClose eng.db rel := by
  unfold onContactClose burnRelationship
  simp only [EStateM.run_bind, run_readDb, found]
  exact isolated_burn

section

variable {sys : Platform} {rel : RelId} {eng : Engine}

theorem isolated_acknowledged (own : ∀ row ∈ db.messages, row.msgId ∈ ids → row.relId = rel) :
    Isolated rel db (acknowledged ids db) := by
  refine { Isolated.refl rel db with
    messages := Table.SameBut.update (fun _ => by rfl) fun row mem hit => ?_ }
  have mine := own row mem (List.contains_iff_mem.mp hit)
  exact ⟨mine, mine⟩

theorem own_of_covered (mem : row ∈ db.messages)
    (listed : row.msgId ∈ coveredIds request (unsettled db rel request)) :
    row.relId = rel := by
  obtain ⟨source, chosen, same⟩ := List.mem_map.mp listed
  obtain ⟨sourceMember, own, -⟩ := mem_unsettled.mp (List.mem_filter.mp chosen).1
  rw [← Table.eq_of_key_eq sourceMember mem same]
  exact own

theorem apart_requeueAll (own : ∀ frame ∈ frames, ∀ entry,
      eng.db.outbox.lookup frame.msgId = some entry → entry.relId = rel) :
    Apart rel eng (final ((requeueAll sys rel frames).run eng)) := by
  induction frames generalizing eng with
  | nil => exact .refl _ _
  | cons frame rest ih =>
    rw [run_requeueAll_cons]
    cases Wire.buildRecord (sys.padding eng.draws) frame.frame with
    | error error => exact .refl _ _
    | ok record =>
      have queued : Isolated rel eng.db (eng.db.requeue frame.msgId
          rel record messageTtlSecs eng.clock) := by
        refine { Isolated.refl rel eng.db with
          outbox := Table.SameBut.upsert rfl fun entry mem taken => ?_ }
        exact own frame List.mem_cons_self entry (Table.lookup_eq_some.mpr ⟨mem, taken⟩)
      refine Isolated.trans queued (@ih { eng with
        db := eng.db.requeue frame.msgId rel record messageTtlSecs eng.clock
        draws := eng.draws + 1 } fun other mem entry found => ?_)
      rw [Db.lookup_requeue] at found
      split at found
      · cases found
        rfl
      · exact own other (List.mem_cons_of_mem _ mem) entry found

theorem run_onResyncReq : (onResyncReq sys rel request).run eng =
      if (eng.rate.check .resyncReq rel eng.clock).1 then
        (do
          applyResyncReq sys rel request
          return []).run { eng with
            rate := (eng.rate.check .resyncReq rel eng.clock).2 }
      else .ok [] { eng with
        rate := (eng.rate.check .resyncReq rel eng.clock).2 } := by
  unfold onResyncReq onlyIf
  rw [EStateM.run_bind, run_rateAllow]
  cases (eng.rate.check .resyncReq rel eng.clock).1 <;> rfl

theorem apart_replyPolicy : Keeps (Apart rel) (replyPolicy sys rel) :=
  keeps_read fun _ => keeps_bind (keeps_store _) fun state =>
    apart_replySync state

theorem isolated_requested (request : ResyncReq) :
    Isolated rel eng.db (requested rel request eng).db := by
  have caps : Isolated rel eng.db (eng.db.notePeerCaps rel request.caps) := .updateRelationship _ _
  exact caps.trans (isolated_acknowledged fun row mem listed =>
    own_of_covered mem listed)

theorem msgId_of_retransmit {now : Nat} (sent : retransmit db now rel request row = some frame) :
    frame.msgId = row.msgId := by
  unfold retransmit at sent
  split at sent
  · cases sent
  · obtain ⟨bytes, -, rfl⟩ := Option.map_eq_some_iff.mp sent
    rfl

theorem apart_applyResyncReq (untouched : ¬ (sessionState eng.db rel ≠ .broken ∧
      Misqueued eng rel request)) :
    Apart rel eng (final ((applyResyncReq sys rel request).run eng)) := by
  by_cases active : sessionState eng.db rel = .broken
  · obtain ⟨error, ran⟩ := @run_applyResyncReq_of_broken rel request eng sys active
    rw [ran]
    exact Isolated.updateRelationship _ _
  · rw [run_applyResyncReq sys active]
    refine Isolated.trans (isolated_requested request) ?_
    have requeued : Apart rel (requested rel request eng) (final ((requeueAll sys rel
          (retransmits rel request eng)).run (requested rel request eng))) := by
      refine apart_requeueAll fun frame mem entry found => ?_
      obtain ⟨row, rowMember, sent⟩ := List.mem_filterMap.mp mem
      by_contra foreign
      rw [msgId_of_retransmit sent] at found
      exact untouched ⟨active, row, rowMember, frame, entry, sent, found, foreign⟩
    rw [EStateM.run_bind]
    split
    · rename_i ran
      rw [ran] at requeued
      exact Isolated.trans requeued (apart_replyPolicy _)
    · rename_i ran
      rw [ran] at requeued
      exact requeued

theorem not_apart_applyResyncReq (fits : FramesFit eng.db)
    (active : sessionState eng.db rel ≠ .broken) (misqueued : Misqueued eng rel request) :
    ¬ Apart rel eng (final ((applyResyncReq sys rel request).run eng)) := by
  intro apart
  obtain ⟨row, mem, frame, entry, sent, found, foreign⟩ := misqueued
  rw [run_applyResyncReq sys active] at apart
  obtain ⟨outbox, requeued, own⟩ := @run_requeueAll rel
    (requested rel request eng) (retransmits rel request eng) sys fits
    stored_retransmits
  rw [run_bind_ok requeued] at apart
  have queued := Isolated.trans apart (Isolated.symm (apart_replyPolicy _))
  have kept := own row.msgId
  rw [if_pos ⟨frame, List.mem_filterMap.mpr ⟨row, mem, sent⟩, msgId_of_retransmit sent⟩] at kept
  exact foreign (kept entry ((queued.outbox.lookup_eq foreign).mpr found))

end

/-- The envelope, once dispatched, changes something that belongs to another
relationship. -/
def Touches (sys : Platform) (eng : Engine) (rel : RelId) (env : Envelope) : Prop :=
  match env.payload with
  | .edit edit => TouchesEdit eng rel env edit.body
  | .delete => TouchesDelete eng.db rel env
  | .contactClose => TouchesClose eng.db rel
  | .resyncReq request => TouchesResync eng rel request
  | .attachHead payload => TouchesHead sys eng rel env.msgId payload
  | .attachChunk chunk => TouchesChunk sys eng rel chunk
  | .read => TouchesRead eng.db rel env
  | .chatPolicy policy => TouchesPolicy eng rel env policy
  | _ => False

theorem apart_applyDeleteAll : Keeps (Apart rel) (applyDeleteAll rel env) := by
  refine keeps_bind (apart_updateRelationship _ _) fun _ => ?_
  refine keeps_returns (keeps_writeDb fun eng => ?_)
  refine { Isolated.refl rel eng.db with
    messages := Table.SameBut.delete fun row _ hit => ?_ }
  simp only [Bool.and_eq_true, decide_eq_true_eq] at hit
  exact hit.1

theorem apart_onProfile (profile : Profile) : Keeps (Apart rel) (onProfile rel profile) := by
  refine keeps_clock fun now => ?_
  refine keeps_returns (keeps_updateDb fun eng => ?_)
  unfold Db.applyInboundProfile Apart
  simp only
  split
  · exact { Isolated.refl rel eng.db with }
  · exact .refl _ _

theorem apart_onResyncReq (untouched : ¬ TouchesResync eng rel request) : Apart rel eng
      (final ((onResyncReq sys rel request).run eng)) := by
  rw [run_onResyncReq]
  split
  · rename_i granted
    rw [final_returns]
    exact @apart_applyResyncReq sys rel { eng with
      rate := (eng.rate.check .resyncReq rel eng.clock).2 } request
      fun both => untouched ⟨granted, both⟩
  · exact .refl _ _

theorem not_apart_onResyncReq (fits : FramesFit eng.db) (touches : TouchesResync eng rel request) :
    ¬ Apart rel eng (final ((onResyncReq sys rel request).run eng)) := by
  obtain ⟨granted, active, misqueued⟩ := touches
  rw [run_onResyncReq, if_pos granted, final_returns]
  exact @not_apart_applyResyncReq sys rel { eng with
    rate := (eng.rate.check .resyncReq rel eng.clock).2 } request
    fits active misqueued

theorem apart_dispatch (found : eng.db.relationship rel = some row)
    (untouched : ¬ Touches sys eng rel env) :
    Apart rel eng (final ((dispatch sys rel env).run eng)) := by
  unfold Touches at untouched
  unfold dispatch
  cases payload : env.payload <;> simp only [payload] at untouched
  case msg msg =>
    exact keeps_returns (apart_of_outbound ((outbound_respects sys).obliges.fetchMissingEmoji _)) _
  case edit edit => exact (isolated_applyEdit _).mpr untouched
  case delete => exact isolated_applyDelete.mpr untouched
  case deleteAll => exact apart_applyDeleteAll _
  case contactClose => exact (isolated_onContactClose found).mpr untouched
  case resyncReq request => exact apart_onResyncReq untouched
  case attachHead payload => exact (isolated_onAttachHead _ _).mpr untouched
  case attachChunk chunk => exact (isolated_onAttachChunk _).mpr untouched
  case profile profile => exact apart_onProfile _ _
  case profileReq => exact .refl _ _
  case pref pref =>
    exact keeps_onPref (fun _ => apart_updateRelationship _ _) _ _
  case sticker item =>
      exact apart_of_outbound ((outbound_respects sys).onSticker _ _) _
  case stickerCtrl ctrl =>
      exact apart_of_outbound ((outbound_respects sys).onStickerCtrl _) _
  case presence flags => exact keeps_onPresence (fun _ _ _ _ => .refl _ _) _ _
  case typing beat => exact keeps_onTyping (fun _ _ _ _ => .refl _ _) _ _
  case read => exact isolated_onRead.mpr untouched
  case chatPolicy policy => exact (isolated_applyChatPolicy _).mpr untouched

theorem not_apart_dispatch (found : eng.db.relationship rel = some row) (fits : FramesFit eng.db)
    (touches : Touches sys eng rel env) :
    ¬ Apart rel eng (final ((dispatch sys rel env).run eng)) := by
  intro apart
  unfold Touches at touches
  unfold dispatch at apart
  cases payload : env.payload <;> simp only [payload] at touches apart
  case edit edit => exact (isolated_applyEdit _).mp apart touches
  case delete => exact isolated_applyDelete.mp apart touches
  case contactClose => exact (isolated_onContactClose found).mp apart touches
  case resyncReq request => exact not_apart_onResyncReq fits touches apart
  case attachHead payload => exact (isolated_onAttachHead _ _).mp apart touches
  case attachChunk chunk => exact (isolated_onAttachChunk _).mp apart touches
  case read => exact isolated_onRead.mp apart touches
  case chatPolicy policy => exact (isolated_applyChatPolicy _).mp apart touches

end SChatCore.Isolation
