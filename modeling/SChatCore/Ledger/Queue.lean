import SChatCore.Ledger.Retention

namespace SChatCore.Ledger

open Data Data.Action Wire Store Engine

/-! Whatever waits in the queue is still to be delivered. -/

def Drainable (book : Book) : Prop :=
  ∀ msgId rel, book.queued msgId = some rel →
    ∃ entry, book.entry msgId = some entry ∧ entry.relId = rel ∧ entry.pending

namespace Drainable

section

variable {book : Book}

theorem routine {nfc : String → String} {said : Book → RelId → Payload → Prop} {move : Move}
    (allowed : Routine nfc said book move) (drainable : Drainable book) :
    Drainable (book.apply move) := by
  intro msgId rel queued
  cases move with
  | allocate | speak => exact drainable msgId rel queued
  | write own entry =>
    obtain ⟨old, found, rest⟩ := drainable msgId rel queued
    refine ⟨old, ?_, rest⟩
    rw [Book.entry_write, if_neg]
    · exact found
    · rintro rfl
      cases allowed.1.symm.trans found
  | settle own state =>
    obtain ⟨rfl, -⟩ := allowed
    obtain ⟨old, found, related, pending⟩ := drainable msgId rel queued
    refine ⟨_, congrArg (Option.map _) found, ?_⟩
    simp only
    split
    · exact ⟨related, .inr rfl⟩
    · exact ⟨related, pending⟩
  | enqueue own other =>
    have queued : (if msgId = own then some other else book.queued msgId) =
        some rel := queued
    split at queued
    · rename_i same
      cases queued
      subst same
      obtain ⟨entry, found, related, -, pending⟩ := allowed
      exact ⟨entry, found, related, pending⟩
    · exact drainable msgId rel queued
  | dequeue gone =>
    have queued : (open Classical in if msgId ∈ gone then none
        else book.queued msgId) = some rel := queued
    split at queued
    · cases queued
    · exact drainable msgId rel queued
  | fail broken =>
    obtain ⟨queued, other⟩ := Option.filter_eq_some_iff.mp queued
    obtain ⟨old, found, related, pending⟩ := drainable msgId rel queued
    refine ⟨old, (congrArg (Option.map _) found).trans ?_, related, pending⟩
    rw [Option.map_some, if_neg]
    rintro ⟨same, -⟩
    exact of_decide_eq_true other (related.symm.trans same)
  | hear | raise | close | erase | prune | burn => exact absurd allowed id

theorem burn (drainable : Drainable book) (gone : RelId) : Drainable (book.apply (.burn gone)) := by
  intro msgId rel queued
  obtain ⟨queued, other⟩ := Option.filter_eq_some_iff.mp queued
  obtain ⟨entry, found, related, pending⟩ := drainable msgId rel queued
  refine ⟨entry, Option.filter_eq_some_iff.mpr ⟨found, ?_⟩, related, pending⟩
  rw [related]
  exact other

theorem erase (drainable : Drainable book) (spared : ∀ msgId ∈ gone, book.queued msgId = none) :
    Drainable (book.apply (.erase gone)) := by
  intro msgId rel queued
  obtain ⟨entry, found, rest⟩ := drainable msgId rel queued
  refine ⟨entry, ?_, rest⟩
  rw [Book.entry_erase, if_neg]
  · exact found
  · intro lost
    cases (spared msgId lost).symm.trans queued

theorem settle (drainable : Drainable book) (state : DeliveryState)
    (absent : book.queued own = none) :
    Drainable (book.apply (.settle own state)) := by
  intro msgId rel queued
  obtain ⟨entry, found, rest⟩ := drainable msgId rel queued
  refine ⟨entry, (congrArg (Option.map _) found).trans ?_, rest⟩
  rw [Option.map_some, if_neg]
  rintro rfl
  cases absent.symm.trans queued

end

variable {sys : Platform} {said : Book → RelId → Payload → Prop}

theorem evolves (drainable : Drainable (book before))
    (evolves : Evolves sys said before after) : Drainable (book after) :=
  @Book.invariant _ Drainable (fun _ _ => routine) _ _ (Writes.book evolves) drainable

theorem of_same (drainable : Drainable (book before))
    (messages : after.db.messages = before.db.messages)
    (outbox : after.db.outbox = before.db.outbox) : Drainable (book after) := by
  intro msgId rel queued
  unfold book Db.message at queued ⊢
  rw [outbox] at queued
  rw [messages]
  exact drainable msgId rel queued

theorem setDelivery (drainable : Drainable (book eng))
    (state : DeliveryState) (absent : eng.db.outbox.lookup msgId = none) :
    Drainable (book { eng with
      db := eng.db.setDelivery msgId state }) := by
  rw [book_setDelivery]
  exact drainable.settle state (congrArg (Option.map _) absent)

theorem forget (drainable : Drainable (book eng)) {keep : List MsgId}
    (spared : ∀ msgId, (book eng).queued msgId = some rel → msgId ∈ keep) :
    Drainable (book { eng with
      db := eng.db.eraseHistory rel keep }) := by
  rw [book_deleteMessages (fun row => row.relId = rel && !keep.contains row.msgId) rfl]
  refine drainable.erase fun msgId lost => ?_
  cases queued : (book eng).queued msgId with
  | none => rfl
  | some other =>
    obtain ⟨entry, found, related, -⟩ := drainable msgId other queued
    obtain ⟨row, stored, rfl⟩ := Option.map_eq_some_iff.mp found
    have lost : (eng.db.message msgId).any (fun row =>
      row.relId = rel && !keep.contains row.msgId) = true := lost
    rw [stored] at lost
    simp only [Option.any_some, Bool.and_eq_true, decide_eq_true_eq,
      Bool.not_eq_true', (Table.lookup_eq_some.mp stored).2] at lost
    have same : other = rel := related.symm.trans lost.1
    have kept := spared msgId (same ▸ queued)
    rw [← List.contains_iff_mem, lost.2] at kept
    cases kept

end Drainable

def Sustains (before after : Engine) : Prop := Drainable (book before) → Drainable (book after)

instance : IsPreorder Engine Sustains where
  refl _ := id
  trans _ _ _ left right := right ∘ left

def Idle (rel : RelId) (eng : Engine) : Prop := ∀ msgId, (book eng).queued msgId ≠ some rel

section

variable {sys : Platform} {said : Book → RelId → Payload → Prop}
  {eng : Engine}

theorem sustains_of_evolves (evolves : Keeps (Evolves sys said) action) :
    Keeps Sustains action :=
  evolves.mono fun _ _ evolves drainable => drainable.evolves evolves

theorem sustains_burnRelationship (rel : RelId) : Keeps Sustains (burnRelationship rel) := by
  refine keeps_read fun db => ?_
  split
  · exact keeps_pure _
  · refine keeps_modify fun eng drainable => ?_
    have burned : Drainable (book { eng with
        db := eng.db.burn rel }) := by
      rw [book_burn]
      exact drainable.burn rel
    exact burned.of_same rfl rfl

theorem Idle.send {payload : Payload} {refId : Option MsgId} {sent : Sent}
    {next : Engine} {keep : List MsgId}
    (idle : ∀ msgId, (book eng).queued msgId = some rel → msgId ∈ keep)
    (ran : (sendEnvelope sys rel payload refId).run eng = .ok sent next) :
    ∀ msgId, (book next).queued msgId = some rel → msgId ∈ sent.msgId :: keep := by
  intro msgId queued
  by_cases own : msgId = sent.msgId
  · exact own ▸ List.mem_cons_self
  · refine List.mem_cons_of_mem _ (idle msgId ?_)
    rw [← queued]
    exact congrArg (Option.map _) ((filed_sendEnvelope ran).rest msgId own).2.symm

theorem drainable_send (permits : Permits sys said) {payload : Payload}
    (plain : payload.envelopeType ≠ .resyncReq) (drainable : Drainable (book eng)) :
    Drainable (book (final ((sendEnvelope sys rel payload none).run eng))) :=
  drainable.evolves (evolves_send permits payload none plain eng)

theorem Idle.kept (idle : Idle rel eng) (msgId : MsgId)
    (queued : (book eng).queued msgId = some rel) :
    msgId ∈ ([] : List _) :=
  absurd queued (idle msgId)

theorem sustains_sendDeleteAll (permits : Permits sys said) (idle : Idle rel eng) :
    Sustains eng (final ((sendDeleteAll sys rel).run eng)) := by
  have sends := @drainable_send _ _ eng rel permits .deleteAll nofun
  unfold sendDeleteAll
  refine final_bind (fun error middle ran drainable => ?_) fun sent middle ran drainable => ?_
  · rw [ran] at sends
    exact sends drainable
  · rw [ran] at sends
    have raised : Drainable (book { middle with
        db := middle.db.raiseHistoryCut rel sent.appSeq }) :=
      (sends drainable).of_same rfl rfl
    have own := Idle.send idle.kept ran
    exact raised.forget own

theorem sustains_closeContact (permits : Permits sys said) (idle : Idle rel eng) :
    Sustains eng (final ((closeContact sys rel).run eng)) := by
  unfold closeContact
  rw [bind_readDb]
  by_cases already : (eng.db.closeState rel).isSome = true
  · rw [if_pos already]
    exact id
  rw [if_neg already, run_bind_ok (run_enterClosing already)]
  have closing : Sustains eng (shutting rel eng) := fun drainable => drainable.of_same rfl rfl
  refine trans_of Sustains closing ?_
  have deletes := @drainable_send _ _ (shutting rel eng) rel permits .deleteAll nofun
  refine final_bind (fun error middle ran drainable => ?_) fun cleared middle ran => ?_
  · rw [ran] at deletes
    exact deletes drainable
  rw [ran] at deletes
  have closes := @drainable_send _ _ middle rel permits .contactClose nofun
  have one := @Idle.send sys (shutting rel eng) rel _ _ _ _ [] idle.kept ran
  refine final_bind (fun error last ran drainable => ?_) fun close last ran drainable => ?_
  · rw [ran] at closes
    exact closes (deletes drainable)
  rw [ran] at closes
  have raised : Drainable (book { last with
      db := last.db.raiseHistoryCut rel (max cleared.appSeq close.appSeq) }) :=
    (closes (deletes drainable)).of_same rfl rfl
  refine raised.forget fun msgId queued => ?_
  rcases List.mem_cons.mp (Idle.send one ran msgId queued) with rfl | first
  · exact .tail _ (.head _)
  · rcases List.mem_cons.mp first with rfl | never
    · exact .head _
    · cases never

theorem sustains_setFailed {rows : List OutboxRow} (drainable : Drainable (book eng))
    (absent : ∀ row ∈ rows, eng.db.outbox.lookup row.msgId = none) :
    ∃ next, (rows.forM fun row =>
        writeDb (Db.setDelivery row.msgId .failed)).run eng = .ok () next ∧
      Drainable (book next) := by
  induction rows generalizing eng with
  | nil => exact ⟨eng, rfl, drainable⟩
  | cons row rest ih =>
    obtain ⟨next, ran, kept⟩ := @ih { eng with
      db := eng.db.setDelivery row.msgId .failed }
      (drainable.setDelivery .failed (absent row List.mem_cons_self))
      fun other mem => absent other (.tail _ mem)
    exact ⟨next, (bind_writeDb _).trans ran, kept⟩

theorem drainable_failExpired (drainable : Drainable (book eng)) :
    ∃ next, failExpired.run eng = .ok () next ∧ Drainable (book next) := by
  have dropped : Drainable (book { eng with
      db := eng.db.failExpired eng.clock }) := by
    refine @Drainable.evolves .loopback (fun _ _ _ => True) _ _ drainable ?_
    exact .of_write (.dequeue trivial)
  unfold failExpired
  rw [bind_now, run_bind_ok (run_updateDb eng _)]
  refine sustains_setFailed dropped fun row listed => ?_
  obtain ⟨stored, expired⟩ := Table.mem_select.mp listed
  refine (Table.lookup_delete _).trans ?_
  rw [Table.lookup_key stored]
  simp [of_decide_eq_true expired]

theorem run_drainRow {failed : List String} {row : OutboxRow} (drainable : Drainable (book eng))
    (queued : eng.db.outbox.lookup row.msgId = some row) :
    ∃ result next, (drainRow sys failed row).run eng =
      .ok result next := by
  obtain ⟨entry, found, -, pending⟩ := drainable row.msgId row.relId
    (congrArg (Option.map OutboxRow.relId) queued)
  obtain ⟨message, filed, rfl⟩ := Option.map_eq_some_iff.mp found
  have lawful : legal message.state .transmitted = true := by
    obtain state | state : message.state = .queued ∨
        message.state = .transmitted := pending <;> rw [state] <;> rfl
  unfold drainRow
  rw [bind_readDb]
  split
  · exact ⟨_, _, rfl⟩
  · split
    · exact ⟨_, _, rfl⟩
    · rw [run_bind_ok (run_sendRecord sys eng _ _)]
      split
      · rw [bind_writeDb, EStateM.run_bind, markTransmitted, run_transition]
        have same : (eng.db.dequeue row.msgId).message row.msgId =
            some message := filed
        simp only [same, lawful, if_true]
        exact ⟨_, _, rfl⟩
      · exact ⟨_, _, rfl⟩

theorem run_drainRows {failed : List String} {rows : List OutboxRow}
    (drainable : Drainable (book eng)) (nodup : (rows.map OutboxRow.msgId).Nodup)
    (queued : ∀ row ∈ rows, eng.db.outbox.lookup row.msgId = some row) :
    ∃ sent next, (drainRows sys failed rows).run eng =
      .ok sent next := by
  induction rows generalizing eng failed with
  | nil => exact ⟨0, eng, rfl⟩
  | cons row rest ih =>
    obtain ⟨apart, distinct⟩ := List.nodup_cons.mp nodup
    have own := queued row List.mem_cons_self
    obtain ⟨result, middle, ran⟩ := @run_drainRow sys eng failed row drainable own
    have first := @evolves_drainRow sys (fun _ _ _ => True) eng failed row own
    rw [ran] at first
    have still : ∀ other ∈ rest, middle.db.outbox.lookup other.msgId = some other := by
      intro other mem
      have same := @outbox_drainRow sys eng failed row other.msgId
        fun same => apart (same ▸ List.mem_map_of_mem mem)
      rw [ran] at same
      exact same.trans (queued other (.tail _ mem))
    obtain ⟨others, next, rest⟩ := @ih middle result.2 (drainable.evolves first) distinct still
    unfold drainRows
    rw [run_bind_ok ran, run_bind_ok rest]
    exact ⟨_, next, rfl⟩

theorem run_drainOutbox (drainable : Drainable (book eng)) :
    ∃ sent next, (drainOutbox sys).run eng = .ok sent next ∧ Drainable (book next) := by
  have listed : ∀ row ∈ eng.db.due drainBatch eng.clock,
      eng.db.outbox.lookup row.msgId = some row :=
    fun row due => Table.lookup_key (mem_of_due due)
  obtain ⟨sent, middle, ran⟩ := @run_drainRows sys eng [] _ drainable (nodup_due _ _ _) listed
  have drains := @evolves_drainRows sys (fun _ _ _ => True) eng [] _ (nodup_due _ _ _) listed
  rw [ran, final_ok] at drains
  obtain ⟨next, failed, kept⟩ := drainable_failExpired (drainable.evolves drains)
  refine ⟨sent, next, ?_, kept⟩
  unfold drainOutbox
  rw [bind_now, bind_readDb, run_bind_ok ran, run_bind_ok failed]
  rfl

theorem drainable_sweep (drainable : Drainable (book eng)) (alive : ∀ entry ∈ eng.db.outbox, ∀ row,
      eng.db.message entry.msgId = some row → row.expired eng.clock = false) :
    Drainable (book (final (sweep.run eng))) := by
  have expired : Drainable (book { eng with
      db := eng.db.sweepExpired eng.clock }) := by
    rw [book_deleteMessages (MessageRow.expired eng.clock) rfl]
    refine drainable.erase fun msgId lost => ?_
    cases queued : eng.db.outbox.lookup msgId with
    | none => exact congrArg (Option.map _) queued
    | some entry =>
      obtain ⟨stored, rfl⟩ := Table.lookup_eq_some.mp queued
      obtain ⟨row, found, old⟩ := (Option.any_eq_true _ _).mp lost
      rw [alive entry stored row found] at old
      cases old
  unfold sweep
  rw [bind_now, bind_writeDb, bind_readDb]
  have settles := @keeps_settleAll Sustains _ sustains_burnRelationship
  refine keeps_bind (settles _) (fun closed => ?_) _ expired
  refine keeps_bind (keeps_modifyGet fun _ => id) fun faded => ?_
  refine keeps_bind (keeps_writeDb fun before drainable => ?_) fun _ => ?_
  · exact drainable.of_same (messages_pruneAllTombstones _ before.db)
      (congrArg Db.outbox (pruneAllTombstones_rest _ before.db) :)
  · refine keeps_bind (keeps_modify fun _ => id) fun _ => ?_
    exact keeps_returns (keeps_writeDb fun _ drainable =>
      drainable.of_same rfl rfl)

theorem drainable_acknowledged (drainable : Drainable (book eng)) {ids : List MsgId}
    (absent : ∀ msgId ∈ ids, eng.db.outbox.lookup msgId = none) :
    Drainable (book { eng with db := acknowledged ids eng.db }) := by
  induction ids generalizing eng with
  | nil =>
    rw [acknowledged_nil]
    exact drainable
  | cons msgId rest ih =>
    rw [← acknowledged_cons]
    refine @ih { eng with
      db := eng.db.setDelivery msgId .acknowledged } ?_ ?_
    · exact drainable.setDelivery _ (absent msgId List.mem_cons_self)
    · exact fun other mem => absent other (.tail _ mem)

theorem sustains_applyResyncReq (permits : Permits sys said)
    (absent : ∀ row ∈ unsettled eng.db rel request,
      covers request row = true → eng.db.outbox.lookup row.msgId = none) :
    Sustains eng (final ((applyResyncReq sys rel request).run eng)) := by
  have noted : Sustains eng { eng with
      db := eng.db.notePeerCaps rel request.caps } :=
    fun drainable => drainable.of_same rfl rfl
  by_cases broken : sessionState eng.db rel = .broken
  · obtain ⟨error, ran⟩ := @run_applyResyncReq_of_broken rel request eng sys broken
    rw [ran]
    exact noted
  · rw [run_applyResyncReq sys broken]
    have settled : Sustains eng (requested rel request eng) := by
      intro drainable
      refine @drainable_acknowledged { eng with
        db := eng.db.notePeerCaps rel request.caps } (noted drainable) _ ?_
      intro msgId mem
      obtain ⟨row, covered, rfl⟩ := List.mem_map.mp mem
      obtain ⟨listed, shown⟩ := List.mem_filter.mp covered
      exact absent row listed shown
    refine trans_of Sustains settled ?_
    refine related_bind (fun drainable => drainable.evolves
      (@evolves_requeueAll sys said _ _ _ live_retransmits)) fun _ => ?_
    exact sustains_of_evolves (evolves_replyPolicy permits)

/-- Neither queue nor activation has anything outstanding for the
relationship. -/
structure Calm (rel : RelId) (eng : Engine) : Prop where
  idle : Idle rel eng
  awake : ∀ row, eng.db.relationship rel = some row →
    row.role = .accepter → eng.db.activationSent rel = true

/-- Nothing has come to the queue, and the settings are what they were. -/
structure Unqueued (before after : Engine) : Prop where
  outbox : after.db.outbox = before.db.outbox
  settings : after.db.settings = before.db.settings
  sustains : Sustains before after

instance : IsPreorder Engine Unqueued where
  refl _ := ⟨rfl, rfl, id⟩
  trans _ _ _ left right := ⟨right.outbox.trans left.outbox,
    right.settings.trans left.settings, right.sustains ∘ left.sustains⟩

theorem unqueued_passGates (env : Envelope) : Keeps Unqueued (passGates rel env) := by
  have implied : Keeps Unqueued (writeDb (noteImpliedCap rel env.envelopeType)) := by
    refine keeps_writeDb fun eng => ?_
    unfold noteImpliedCap
    split
    · exact refl_of Unqueued eng
    · split
      · exact ⟨rfl, rfl, fun drainable => drainable.of_same rfl rfl⟩
      · exact refl_of Unqueued eng
  refine keeps_read fun db => ?_
  split
  · exact keeps_pure _
  · refine keeps_bind implied fun _ => ?_
    refine keeps_read fun db => ?_
    split
    · exact keeps_pure _
    · refine keeps_clock fun now => ?_
      refine keeps_bind (keeps_ofExcept _ _) fun sentAt => ?_
      split
      · exact keeps_pure _
      · exact keeps_returns (keeps_writeDb fun _ => ⟨rfl, rfl, fun drainable =>
          drainable.of_same rfl rfl⟩)

theorem unqueued_ledgerInbound (env : Envelope) (sentAt : Nat) :
    Keeps Unqueued (ledgerInbound sys rel env sentAt) := by
  refine keeps_ledgerInbound sys fun eng _ _ _ messages stored =>
    ⟨rfl, rfl, fun drainable => ?_⟩
  rw [@book_insertMessage eng _ _ _ (Db.insertMessage_eq_ok.mpr ⟨messages, stored, rfl⟩)]
  exact @Drainable.routine _ id (fun _ _ _ => True) _ ⟨congrArg
    (Option.map entryOf) (Table.insert_eq_some.mp stored).1, .inr rfl⟩ drainable

theorem Calm.unqueued (calm : Calm rel before)
    (unqueued : Unqueued before after) : Idle rel after := by
  intro msgId
  unfold book
  rw [unqueued.outbox]
  exact calm.idle msgId

theorem run_activate_of_calm (calm : Calm rel before)
    (found : before.db.relationship rel = some row) (unqueued : Unqueued before eng) :
    (activate sys rel row.role).run eng = .ok () eng := by
  rw [run_activate_eq, if_neg]
  rintro ⟨accepter, unsent⟩
  refine unsent ?_
  have sent := calm.awake row found accepter
  unfold Db.activationSent at sent ⊢
  rw [unqueued.settings]
  exact sent

theorem sustains_clear (permits : Permits sys said)
    (decoded : Envelope.decode sys.nfc plain = .ok env)
    (clears : env.payload = .deleteAll) (calm : Calm rel eng) :
    Sustains eng (final ((handlePlaintext sys rel plain).run eng)) := by
  have gap : ∀ flag, Keeps Sustains (closeGap sys rel flag) :=
    fun flag => sustains_of_evolves (evolves_closeGap permits flag)
  unfold handlePlaintext wire
  rw [decoded, run_bind_ok (run_ofExcept_ok _ env eng), EStateM.run_bind, run_loadRelationship]
  cases found : eng.db.relationship rel with
  | none => exact id
  | some row =>
    simp only
    have gates := @unqueued_passGates rel env eng
    refine final_bind (fun error middle ran => ?_) fun admitted middle ran => ?_
    · rw [ran] at gates
      exact gates.sustains
    rw [ran, final_ok] at gates
    cases admitted with
    | none => exact gates.sustains
    | some admitted =>
      refine trans_of Sustains gates.sustains ?_
      unfold receive
      rw [run_bind_ok (run_activate_of_calm calm found gates), bind_readDb, bind_now]
      split
      · exact gap _ middle
      unfold process
      have filed := @unqueued_ledgerInbound sys rel env admitted.sentAt middle
      refine final_bind (fun error ready ran => ?_) fun _ ready ran => ?_
      · rw [ran] at filed
        exact filed.sustains
      rw [ran, final_ok] at filed
      refine trans_of Sustains filed.sustains ?_
      have erases : Sustains ready (final ((dispatch sys rel env).run ready)) := by
        unfold dispatch
        rw [clears]
        intro drainable
        have raised : Drainable (book { ready with
            db := ready.db.raiseHistoryCut rel env.appSeq }) :=
          drainable.of_same rfl rfl
        exact raised.forget fun msgId queued => absurd queued
          (calm.unqueued (trans_of Unqueued gates filed) msgId)
      refine related_bind erases fun events => ?_
      split
      · exact keeps_pure _
      · exact keeps_returns (gap _)

end

inductive Chore (sys : Platform)
  | pair (row : RelationshipRow)
  | send (rel : RelId) (payload : Payload) (refId : Option MsgId)
  | resync (rel : RelId) (request : ResyncReq)
  | clear (rel : RelId) (plain : Bytes) (env : Envelope)
      (decoded : Envelope.decode sys.nfc plain = .ok env)
      (clears : env.payload = .deleteAll)
  | agree (rel : RelId) (env : Envelope) (change : ChatPolicy)
  | call (call : Call)

namespace Chore

def next (eng : Engine) : Chore sys → Engine
  | .pair row => final ((insertRelationship row).run eng)
  | .send rel payload refId => final ((sendEnvelope sys rel payload refId).run eng)
  | .resync rel request => final ((applyResyncReq sys rel request).run eng)
  | .clear rel plain _ _ _ => final ((handlePlaintext sys rel plain).run eng)
  | .agree rel env change => final ((applyChatPolicy sys rel env change).run eng)
  | .call chosen => final ((chosen.run sys).run eng)

/-- What is acknowledged, cleared or expired does not wait in the queue. -/
def Careful (eng : Engine) : Chore sys → Prop
  | .resync rel request => ∀ row ∈ unsettled eng.db rel request,
      covers request row = true → eng.db.outbox.lookup row.msgId = none
  | .clear rel _ _ _ _ => Calm rel eng
  | .call (.sendDeleteAll rel) => Idle rel eng
  | .call (.closeContact rel) => Idle rel eng
  | .call .sweep => ∀ entry ∈ eng.db.outbox, ∀ row,
      eng.db.message entry.msgId = some row → row.expired eng.clock = false
  | _ => True

theorem sustains {chore : Chore sys} (careful : chore.Careful eng) :
    Sustains eng (chore.next eng) := by
  have permits := permits_anything sys
  cases chore with
  | pair row =>
    obtain ⟨relationships, same⟩ := run_insertRelationship row eng
    exact fun drainable => drainable.of_same (congrArg (fun eng : Engine => eng.db.messages) same :)
      (congrArg (fun eng : Engine => eng.db.outbox) same :)
  | send rel payload refId =>
    have sent : Evolves sys (fun _ _ _ => True) eng (final
        ((sendEnvelope sys rel payload refId).run eng)) :=
      evolves_sendEnvelope refId trivial
    exact fun drainable => drainable.evolves sent
  | resync rel request => exact sustains_applyResyncReq permits careful
  | clear rel plain env decoded clears => exact sustains_clear permits decoded clears careful
  | agree rel env change =>
    exact sustains_of_evolves (evolves_applyChatPolicy permits env change) eng
  | call call =>
    cases plain : ordinary call with
    | true => exact sustains_of_evolves (evolves_call permits plain) eng
    | false =>
      cases call with
      | sendDeleteAll rel =>
        exact related_bind (sustains_sendDeleteAll permits careful) fun _ => keeps_pure _
      | closeContact rel => exact sustains_closeContact permits careful
      | drainOutbox =>
        intro drainable
        obtain ⟨sent, next, ran, kept⟩ := @run_drainOutbox sys eng drainable
        show Drainable (book (final (EStateM.run (do
          let _ ← drainOutbox sys : Action Unit) eng)))
        rw [run_bind_ok ran]
        exact kept
      | sweep =>
        refine related_bind (fun drainable => ?_) fun _ => keeps_pure _
        exact drainable_sweep drainable careful
      | _ => cases plain

end Chore

/-- A run of chores, each under `guard`. -/
def Chores (sys : Platform) (guard : Engine → Chore sys → Prop) : Engine → Engine → Prop :=
  Relation.ReflTransGen fun before after =>
    ∃ chore, guard before chore ∧ chore.next before = after

/-- As long as nothing is settled or erased that still waits in the queue,
every entry can be drained. -/
theorem queue_stays_drainable {sys : Platform} {clock : Nat} {after : Engine}
    (run : Chores sys Chore.Careful (Engine.new .empty clock) after) :
    (∀ entry ∈ after.db.outbox, ∃ row ∈ after.db.messages, row.msgId = entry.msgId ∧
        (row.state = .queued ∨ row.state = .transmitted)) ∧
      ∃ sent next, (drainOutbox sys).run after = .ok sent next := by
  have drainable : Drainable (book after) := by
    induction run with
    | refl => exact fun _ _ never => nomatch never
    | tail _ step ih =>
      obtain ⟨chore, careful, rfl⟩ := step
      exact chore.sustains careful ih
  obtain ⟨sent, next, ran, -⟩ := @run_drainOutbox sys after drainable
  refine ⟨fun entry stored => ?_, sent, next, ran⟩
  obtain ⟨listed, found, -, pending⟩ := drainable entry.msgId entry.relId
    (congrArg (Option.map OutboxRow.relId) (Table.lookup_key stored))
  obtain ⟨row, looked, rfl⟩ := Option.map_eq_some_iff.mp found
  obtain ⟨filed, same⟩ := Table.lookup_eq_some.mp looked
  exact ⟨row, filed, same, pending⟩

def stutter : Platform := { Platform.loopback with
  sendRecord := fun index => 0 < index }

def newcomer : RelationshipRow := newRelationship "alice" .inviter .active "" [] false 0

def waiting : Engine :=
  (Chore.call (.sendProfileReq "alice") : Chore stutter).next
    ((Chore.pair newcomer : Chore stutter).next (Engine.new .empty 0))

theorem chores_waiting {guard : Engine → Chore stutter → Prop}
    (allowed : ∀ eng, guard eng (.pair newcomer) ∧ guard eng (.call (.sendProfileReq "alice"))) :
    Chores stutter guard (Engine.new .empty 0) waiting :=
  (Relation.ReflTransGen.single ⟨.pair newcomer, (allowed _).1, rfl⟩).tail
    ⟨.call (.sendProfileReq "alice"), (allowed _).2, rfl⟩

theorem waiting_is_drained : waiting.db.outbox.rows.length = 1 ∧
    ∃ sent next, (drainOutbox stutter).run waiting = .ok sent next :=
  ⟨by decide +kernel, (queue_stays_drainable (chores_waiting fun _ => ⟨trivial, trivial⟩)).2⟩

/-- The queued request loses its row, and stops the drain. -/
theorem cleared_entry_stops_drain : ∃ after,
    Chores stutter (fun _ _ => True) (Engine.new .empty 0) after ∧
    (∃ entry ∈ after.db.outbox, after.db.message entry.msgId = none) ∧
    ∃ next, (drainOutbox stutter).run after = .error (.sync (.store (.corrupt
      "transition on unknown msg_id"))) next := by
  refine ⟨(Chore.call (.sendDeleteAll "alice") : Chore stutter).next waiting,
    (chores_waiting fun _ => ⟨trivial, trivial⟩).tail ⟨_, trivial, rfl⟩, ?_, ?_⟩
  · have lost : ∃ entry ∈ ((Chore.call (.sendDeleteAll "alice") :
        Chore stutter).next waiting).db.outbox.rows,
      ((Chore.call (.sendDeleteAll "alice") :
        Chore stutter).next waiting).db.message entry.msgId = none := by
      decide +kernel
    exact lost
  · exact ⟨_, eq_error_of_failure (by decide +kernel)⟩

end SChatCore.Ledger
