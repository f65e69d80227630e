import SChatCore.Ledger.Queue

namespace SChatCore.Ledger

open Data Data.Action Wire Store Engine

/-! A delivery that is over stays as it ended. -/

def Rests (msgId : MsgId) (state : DeliveryState) (book : Book) : Prop :=
  ∃ entry, book.entry msgId = some entry ∧ entry.state = state

def Over (state : DeliveryState) : Prop := state = .acknowledged ∨ state = .failed

section

variable {book : Book}

theorem Over.not_pending (ended : Over state) {entry : Entry}
    (same : entry.state = state) : ¬ entry.pending := by
  rintro (queued | sent)
  · rcases ended with rfl | rfl
    · cases same.symm.trans queued
    · cases same.symm.trans queued
  · rcases ended with rfl | rfl
    · cases same.symm.trans sent
    · cases same.symm.trans sent

theorem Rests.routine {nfc : String → String}
    {said : Book → RelId → Payload → Prop} {move : Move} (ended : Over state)
    (allowed : Routine nfc said book move) (rests : Rests msgId state book) :
    Rests msgId state (book.apply move) := by
  obtain ⟨entry, found, same⟩ := rests
  cases move with
  | allocate | speak | enqueue | dequeue => exact ⟨entry, found, same⟩
  | write own new =>
    refine ⟨entry, ?_, same⟩
    rw [Book.entry_write, if_neg]
    · exact found
    · rintro rfl
      cases allowed.1.symm.trans found
  | settle own state =>
    obtain ⟨-, open_, known, pending⟩ := allowed
    refine ⟨entry, (congrArg (Option.map _) found).trans ?_, same⟩
    rw [Option.map_some, if_neg]
    rintro rfl
    cases known.symm.trans found
    exact ended.not_pending same pending
  | fail broken =>
    refine ⟨entry, (congrArg (Option.map _) found).trans ?_, same⟩
    rw [Option.map_some, if_neg]
    rintro ⟨-, -, pending⟩
    exact ended.not_pending same pending
  | hear | raise | close | erase | prune | burn => exact absurd allowed id

end

def Retains (msgId : MsgId) (state : DeliveryState) (before after : Engine) :
    Prop :=
  Rests msgId state (book before) → Rests msgId state (book after)

instance (msgId : MsgId) (state : DeliveryState) : IsPreorder Engine (Retains msgId state) where
  refl _ := id
  trans _ _ _ left right := right ∘ left

section

variable {msgId : MsgId} {state : DeliveryState}

theorem retains_evolves (ended : Over state) (evolves : Evolves sys said before after) :
    Retains msgId state before after := fun rests =>
  @Book.invariant _ (Rests msgId state) (fun _ _ => Rests.routine ended) _ _
    (Writes.book evolves) rests

theorem retains_of_same (messages : after.db.messages = before.db.messages) :
    Retains msgId state before after := by
  intro rests
  unfold Rests book Db.message at rests ⊢
  rw [messages]
  exact rests

theorem retains_setDelivery (differs : msgId ≠ other) : Retains msgId state eng { eng with
      db := eng.db.setDelivery other reached } := by
  rintro ⟨entry, found, same⟩
  refine ⟨entry, ?_, same⟩
  rw [book_setDelivery]
  refine (congrArg (Option.map _) found).trans ?_
  rw [Option.map_some, if_neg differs]

theorem retains_transition (ended : Over state) (other : MsgId) (target : DeliveryState) :
    Keeps (Retains msgId state) (transition other target) := by
  intro eng
  rw [run_transition]
  split
  · exact id
  · rename_i row found
    split
    · rename_i lawful
      by_cases own : msgId = other
      · subst own
        rintro ⟨entry, listed, same⟩
        cases (congrArg (Option.map entryOf) found).symm.trans listed
        rcases ended with rfl | rfl
        · rw [show row.state = .acknowledged from same] at lawful
          cases lawful
        · rw [show row.state = .failed from same] at lawful
          cases lawful
      · exact retains_setDelivery own
    · exact id

theorem retains_acknowledged (ended : Over state) : Retains msgId state eng { eng with
      db := acknowledged (coveredIds request (unsettled eng.db rel request)) eng.db } := by
  rintro ⟨entry, listed, same⟩
  obtain ⟨row, found, rfl⟩ := Option.map_eq_some_iff.mp listed
  refine ⟨entryOf row, ?_, same⟩
  refine congrArg (Option.map entryOf) (((message_acknowledged _ _ msgId).trans ?_ : _ = some row))
  rw [found, Option.map_some, if_neg]
  rw [List.contains_iff_mem]
  intro covered
  obtain ⟨other, among, key⟩ := List.mem_map.mp covered
  obtain ⟨stored, -, -, -, pending⟩ := mem_unsettled.mp (List.mem_filter.mp among).1
  have equal := Table.eq_of_key_eq stored (Table.lookup_eq_some.mp found).1 key
  exact ended.not_pending same (equal ▸ pending)

theorem retains_handleRequest (ended : Over state) (rel : RelId) (request : ResyncReq) :
    Keeps (Retains msgId state) (handleRequest rel request) := by
  intro eng
  by_cases broken : sessionState eng.db rel = .broken
  · rw [run_handleRequest_of_broken broken]
    exact id
  · rw [run_handleRequest broken]
    exact retains_acknowledged ended

/-- No entry of the queue past its horizon is the envelope's. -/
def Spared (msgId : MsgId) (eng : Engine) : Prop :=
  ∀ entry, eng.db.outbox.lookup msgId = some entry → eng.clock < entry.expiresAt

theorem retains_failExpired (spared : Spared msgId eng) :
    Retains msgId state eng (final (failExpired.run eng)) := by
  unfold failExpired
  rw [bind_now, run_bind_ok (run_updateDb eng _)]
  have dropped : Retains msgId state eng { eng with
      db := eng.db.failExpired eng.clock } := retains_of_same rfl
  refine trans_of (Retains msgId state) dropped ?_
  refine keeps_forM (fun row listed => ?_) _
  refine keeps_writeDb fun other => retains_setDelivery ?_
  rintro rfl
  obtain ⟨stored, expired⟩ := Table.mem_select.mp listed
  have later := spared row (Table.lookup_key stored)
  exact absurd (of_decide_eq_true expired) (Nat.not_le.mpr later)

structure Drained (before after : Engine) : Prop where
  clock : after.clock = before.clock
  entries : ∀ msgId entry, after.db.outbox.lookup msgId = some entry →
    ∃ old, before.db.outbox.lookup msgId = some old ∧ old.expiresAt = entry.expiresAt

instance : IsPreorder Engine Drained where
  refl _ := ⟨rfl, fun _ entry found => ⟨entry, found, rfl⟩⟩
  trans _ _ _ left right := by
    refine ⟨right.clock.trans left.clock, fun msgId entry found => ?_⟩
    obtain ⟨middle, between, same⟩ := right.entries msgId entry found
    obtain ⟨old, early, earlier⟩ := left.entries msgId middle between
    exact ⟨old, early, earlier.trans same⟩

theorem Drained.spared (drained : Drained before after)
    (spared : Spared msgId before) : Spared msgId after := by
  intro entry found
  obtain ⟨old, early, same⟩ := drained.entries msgId entry found
  rw [drained.clock, ← same]
  exact spared old early

theorem drained_of_same (clock : after.clock = before.clock)
    (outbox : after.db.outbox = before.db.outbox) : Drained before after :=
  ⟨clock, fun _ entry found => ⟨entry, outbox ▸ found, rfl⟩⟩

theorem drained_dequeue (msgId : MsgId) : Keeps Drained (writeDb (Db.dequeue msgId)) := by
  refine keeps_writeDb fun eng => ⟨rfl, fun other entry found => ?_⟩
  have looked := (Db.lookup_dequeue msgId other eng.db).symm.trans found
  split at looked
  · cases looked
  · exact ⟨entry, looked, rfl⟩

theorem drained_backOff (row : OutboxRow) : Keeps Drained (backOff row) := by
  intro eng
  refine ⟨rfl, fun other entry found => ?_⟩
  have found : (eng.db.noteAttempt row.msgId (backoffSecs row.attempts)
    eng.clock).outbox.lookup other = some entry := found
  unfold Db.noteAttempt at found
  rw [Table.lookup_update_key] at found
  split at found
  · rename_i own
    obtain ⟨old, early, rfl⟩ := Option.map_eq_some_iff.mp found
    exact ⟨old, own ▸ early, rfl⟩
  · exact ⟨entry, found, rfl⟩

theorem drained_drainRow (failed : List String) (row : OutboxRow) :
    Keeps Drained (drainRow sys failed row) := by
  have marks : Keeps Drained (markTransmitted row.msgId) := by
    intro eng
    rw [markTransmitted, run_transition]
    split
    · exact refl_of Drained eng
    · split
      · exact drained_of_same rfl rfl
      · exact refl_of Drained eng
  refine keeps_read fun db => ?_
  split
  · exact keeps_returns (drained_dequeue _)
  · split
    · exact keeps_returns (drained_backOff row)
    · refine keeps_bind (keeps_modifyGet fun _ => drained_of_same rfl rfl) fun sent => ?_
      split
      · exact keeps_bind (drained_dequeue _) fun _ => keeps_returns marks
      · exact keeps_returns (drained_backOff row)

theorem drained_drainRows (failed : List String) (rows : List OutboxRow) :
    Keeps Drained (drainRows sys failed rows) := by
  induction rows generalizing failed with
  | nil => exact keeps_pure _
  | cons row rest ih =>
    exact keeps_bind (drained_drainRow failed row) fun _ =>
      keeps_returns (ih _)

theorem retains_drainOutbox (ended : Over state) (spared : Spared msgId eng) :
    Retains msgId state eng (final ((drainOutbox sys).run eng)) := by
  unfold drainOutbox
  rw [bind_now, bind_readDb]
  have drains := @evolves_drainRows sys (fun _ _ _ => True) eng [] _
    (nodup_due _ drainBatch eng.clock) fun row due =>
      Table.lookup_key (mem_of_due due)
  have less := @drained_drainRows sys [] (eng.db.due drainBatch eng.clock) eng
  refine final_bind (fun error middle ran => ?_) fun sent middle ran => ?_
  · rw [ran] at drains
    exact retains_evolves ended drains
  · rw [ran] at drains less
    refine trans_of (Retains msgId state) (retains_evolves ended drains) ?_
    exact related_bind (retains_failExpired (less.spared spared)) fun _ =>
      keeps_pure _

theorem retains_syncDrainRow (differs : msgId ≠ row.msgId) :
    Keeps (Retains msgId state) (Sync.drainRow sys row) := by
  refine keeps_bind (keeps_modifyGet fun _ => retains_of_same rfl) fun sent => ?_
  split
  · exact keeps_bind (keeps_writeDb fun _ => retains_of_same rfl) fun _ =>
      keeps_writeDb fun _ => retains_setDelivery differs
  · exact keeps_clock fun _ =>
      keeps_writeDb fun _ => retains_of_same rfl

def GoneOrRests (msgId : MsgId) (state : DeliveryState) (eng : Engine) :
    Prop :=
  eng.db.message msgId = none ∨ Rests msgId state (book eng)

theorem goneOrRests_of_fewer (fewer : ∀ row ∈ after.db.messages, row ∈ before.db.messages)
    (rests : Rests msgId state (book before)) :
    GoneOrRests msgId state after := by
  cases found : after.db.message msgId with
  | none => exact .inl found
  | some row =>
    obtain ⟨stored, rfl⟩ := Table.lookup_eq_some.mp found
    obtain ⟨entry, listed, same⟩ := rests
    have looked : (book before).entry row.msgId = some (entryOf row) :=
      congrArg (Option.map entryOf) (Table.lookup_key (fewer row stored))
    cases looked.symm.trans listed
    exact .inr ⟨entryOf row, congrArg (Option.map entryOf) found, same⟩

theorem goneOrRests_sweepExpired (spared : Spared msgId eng)
    (rests : Rests msgId state (book eng)) :
    GoneOrRests msgId state (final (Sync.sweepExpired.run eng)) := by
  have fails := @retains_failExpired msgId state eng spared rests
  unfold Sync.sweepExpired
  refine @final_bind _ _ _ _ _ _ _ (GoneOrRests msgId state)
    (fun error middle ran => ?_) fun _ middle ran => ?_
  · rw [ran] at fails
    exact .inr fails
  · rw [ran] at fails
    refine goneOrRests_of_fewer (fun row stored => ?_) fails
    exact (Table.mem_delete.mp stored).1

theorem goneOrRests_sweep (rests : Rests msgId state (book eng)) :
    GoneOrRests msgId state (final (sweep.run eng)) := by
  obtain ⟨events, settled, next, ran, fewer, -, db⟩ := run_sweep eng
  rw [ran]
  refine goneOrRests_of_fewer (fun row stored => ?_) rests
  have stored : row ∈ next.db.messages := stored
  rw [db] at stored
  have stored : row ∈ (pruneAllTombstones eng.clock settled.db).messages := stored
  rw [messages_pruneAllTombstones] at stored
  exact (Table.mem_delete.mp (fewer.messages row stored)).1

end

inductive Duty
  | send (rel : RelId) (payload : Payload) (refId : Option MsgId)
  | drainOutbox
  | drain (limit : Nat)
  | handleRequest (rel : RelId) (request : ResyncReq)
  | requeue (rel : RelId) (frames : List Retransmit)
  | sweepExpired
  | sweep
  | markTransmitted (msgId : MsgId)
  | markAcknowledged (msgId : MsgId)
  | tick (seconds : Nat)

namespace Duty

def next (sys : Platform) (eng : Engine) : Duty → Engine
  | .send rel payload refId => final ((sendEnvelope sys rel payload refId).run eng)
  | .drainOutbox => final ((Engine.drainOutbox sys).run eng)
  | .drain limit => final ((Sync.drain sys limit).run eng)
  | .handleRequest rel request => final ((Engine.handleRequest rel request).run eng)
  | .requeue rel frames => final ((requeueAll sys rel frames).run eng)
  | .sweepExpired => final (Sync.sweepExpired.run eng)
  | .sweep => final (Engine.sweep.run eng)
  | .markTransmitted msgId => final ((Engine.markTransmitted msgId).run eng)
  | .markAcknowledged msgId => final ((Engine.markAcknowledged msgId).run eng)
  | .tick seconds => final ((Engine.tick seconds).run eng)

/-- The delivery of what this entry of the queue stands for is not over. -/
def Unsettled (eng : Engine) (entry : OutboxRow) : Prop :=
  ∀ row, eng.db.message entry.msgId = some row → ¬ Over row.state

/-- What the state is written to unchecked is not over yet. -/
def Careful (eng : Engine) : Duty → Prop
  | .drain limit => ∀ entry ∈ eng.db.due limit eng.clock,
      Unsettled eng entry
  | .drainOutbox => ∀ entry ∈ eng.db.outboxExpired eng.clock,
      Unsettled eng entry
  | .sweepExpired => ∀ entry ∈ eng.db.outboxExpired eng.clock,
      Unsettled eng entry
  | _ => True

theorem ne_of_unsettled (ended : Over state) (rests : Rests msgId state (book eng))
    (unsettled : Unsettled eng entry) : msgId ≠ entry.msgId := by
  rintro rfl
  obtain ⟨listed, found, same⟩ := rests
  obtain ⟨row, stored, rfl⟩ := Option.map_eq_some_iff.mp found
  have same : row.state = state := same
  exact unsettled row stored (same ▸ ended)

theorem spared_of_unsettled (ended : Over state) (rests : Rests msgId state (book eng))
    (unsettled : ∀ entry ∈ eng.db.outboxExpired eng.clock,
      Unsettled eng entry) : Spared msgId eng := by
  intro entry found
  obtain ⟨stored, rfl⟩ := Table.lookup_eq_some.mp found
  by_contra late
  refine ne_of_unsettled ended rests (unsettled entry ?_) rfl
  exact Table.mem_select.mpr ⟨stored, decide_eq_true (Nat.not_lt.mp late)⟩

theorem retains_requeueAll (rel : RelId) (frames : List Retransmit) :
    Keeps (Retains msgId state) (requeueAll sys rel frames) := by
  refine keeps_forM fun frame _ => ?_
  refine keeps_bind (fun eng => ?_) fun record => keeps_bind keeps_now
    fun now => keeps_writeDb fun _ => retains_of_same rfl
  rw [run_buildRecord]
  split <;> exact retains_of_same rfl

theorem goneOrRests {duty : Duty} (careful : duty.Careful eng)
    (ended : Over state) (rests : Rests msgId state (book eng)) :
    GoneOrRests msgId state (duty.next sys eng) := by
  cases duty with
  | send rel payload refId =>
    have sent : Evolves sys (fun _ _ _ => True) eng (final
        ((sendEnvelope sys rel payload refId).run eng)) :=
      evolves_sendEnvelope refId trivial
    exact .inr (retains_evolves ended sent rests)
  | drainOutbox =>
    exact .inr (retains_drainOutbox ended (spared_of_unsettled ended rests careful) rests)
  | drain limit =>
    have drains : Retains msgId state eng (final ((Sync.drain sys limit).run eng)) := by
      unfold Sync.drain
      rw [bind_now, bind_readDb]
      exact keeps_forM (fun row listed => retains_syncDrainRow
        (ne_of_unsettled ended rests (careful row listed))) eng
    exact .inr (drains rests)
  | handleRequest rel request => exact .inr (retains_handleRequest ended rel request eng rests)
  | requeue rel frames => exact .inr (retains_requeueAll rel frames eng rests)
  | sweepExpired => exact goneOrRests_sweepExpired (spared_of_unsettled ended rests careful) rests
  | sweep => exact goneOrRests_sweep rests
  | markTransmitted other => exact .inr (retains_transition ended other .transmitted eng rests)
  | markAcknowledged other => exact .inr (retains_transition ended other .acknowledged eng rests)
  | tick seconds => exact .inr rests

end Duty

/-- A run of duties, each under `guard`, in which the row is never erased. -/
def Duties (sys : Platform) (guard : Engine → Duty → Prop)
    (msgId : MsgId) : Engine → Engine → Prop :=
  Relation.ReflTransGen fun before after =>
    ∃ duty, guard before duty ∧ duty.next sys before = after ∧ after.db.message msgId ≠ none

/-- As long as no unchecked write meets a delivery that is over, it stays as it
ended until its row is erased. -/
theorem settled_state_stays {sys : Platform} {before after : Engine}
    {msgId : MsgId} {row : MessageRow} (found : before.db.message msgId = some row)
    (ended : row.state = .acknowledged ∨ row.state = .failed)
    (run : Duties sys (fun eng duty => duty.Careful eng) msgId before after) :
    ∃ last, after.db.message msgId = some last ∧ last.state = row.state := by
  have rests : Rests msgId row.state (book after) := by
    induction run with
    | refl => exact ⟨entryOf row, congrArg (Option.map entryOf) found, rfl⟩
    | tail _ step ih =>
      obtain ⟨duty, careful, rfl, present⟩ := step
      rcases duty.goneOrRests careful ended ih with gone | rests
      · exact absurd gone present
      · exact rests
  obtain ⟨entry, listed, same⟩ := rests
  obtain ⟨last, looked, rfl⟩ := Option.map_eq_some_iff.mp listed
  exact ⟨last, looked, same⟩

/-! The queued request is acknowledged before the socket took it. -/

def claimed : ResyncReq where
  maxContiguousSeq := 1
  receivedSeqBitmap := []
  caps := 0
  historyHash := .replicate 32 0

def acked : Engine := (Duty.handleRequest "alice" claimed).next stutter waiting

def requeued : Engine :=
  (Duty.requeue "alice" [⟨.replicate 16 0, 1, [tagSignal]⟩]).next stutter acked

/-- Neither a retransmission nor the drain after it reopens the delivery. -/
theorem acked_stays : (acked.db.message (.replicate 16 0)).map
      MessageRow.state = some .acknowledged ∧
    (requeued.db.outbox.lookup (.replicate 16 0)).isSome = true ∧
    ∃ last, (Duty.drainOutbox.next stutter requeued).db.message
      (.replicate 16 0) = some last ∧ last.state = .acknowledged := by
  have state : (acked.db.message (.replicate 16 0)).map MessageRow.state =
      some .acknowledged := by decide +kernel
  have unexpired : requeued.db.outboxExpired requeued.clock = [] := by decide +kernel
  obtain ⟨row, found, ended⟩ := Option.map_eq_some_iff.mp state
  have first : Duties stutter (fun eng duty => duty.Careful eng) (.replicate 16 0) acked requeued :=
    .single ⟨.requeue "alice" _, trivial, rfl, by decide +kernel⟩
  refine ⟨state, by decide +kernel, ended ▸ settled_state_stays found
    (.inl ended) (first.tail ⟨.drainOutbox, ?_, rfl, by decide +kernel⟩)⟩
  intro entry mem
  rw [unexpired] at mem
  cases mem

/-- The drain of the sync layer writes over what was acknowledged. -/
theorem drain_reopens_acknowledged : (acked.db.message (.replicate 16 0)).map MessageRow.state =
      some .acknowledged ∧
    Duties stutter (fun _ _ => True) (.replicate 16 0) acked ((Duty.drain 64).next stutter acked) ∧
    (((Duty.drain 64).next stutter acked).db.message
      (.replicate 16 0)).map MessageRow.state = some .transmitted := by
  have after : (((Duty.drain 64).next stutter acked).db.message
      (.replicate 16 0)).map MessageRow.state = some .transmitted := by
    decide +kernel
  refine ⟨by decide +kernel, .single ⟨.drain 64, trivial, rfl, ?_⟩, after⟩
  intro absent
  rw [absent] at after
  cases after

end SChatCore.Ledger
