import SChatCore.Engine.Inbound
import SChatCore.Engine.Healthy

namespace SChatCore.Engine

open Data Data.Action Wire Store Policy

/-! What a resync request does, in closed form: which rows it acknowledges and
which frames it sends back to the queue. -/

def covers (request : ResyncReq) (row : MessageRow) : Bool :=
  !isMissing request.maxContiguousSeq request.receivedSeqBitmap row.appSeq

def unsettled (db : Db) (rel : RelId) (request : ResyncReq) :
    List MessageRow :=
  db.unackedOutbound rel (request.maxContiguousSeq + UInt64.ofNat bitmapBits)

def acknowledged (ids : List MsgId) (db : Db) : Db :=
  { db with
    messages := db.messages.update (fun row => ids.contains row.msgId)
      (fun row => { row with state := .acknowledged }) fun _ => rfl }

def coveredIds (request : ResyncReq) (rows : List MessageRow) : List MsgId :=
  (rows.filter (covers request)).map MessageRow.msgId

def retransmit (db : Db) (now : Nat) (rel : RelId) (request : ResyncReq)
    (row : MessageRow) : Option Retransmit :=
  if covers request row || row.expired now then none
  else (db.storedCiphertext rel row.msgId).map fun frame =>
    { msgId := row.msgId, appSeq := row.appSeq, frame }

theorem acknowledged_nil (db : Db) : acknowledged [] db = db := by
  have messages : (db.messages.update (fun row => [].contains row.msgId)
      (fun row => { row with state := .acknowledged }) fun _ => rfl) =
        db.messages := by
    simp [Table.update]
  unfold acknowledged
  rw [messages]

theorem acknowledged_cons (msgId : MsgId) (rest : List MsgId) (db : Db) :
    acknowledged rest (db.setDelivery msgId .acknowledged) = acknowledged (msgId :: rest) db := by
  unfold acknowledged Db.setDelivery
  rw [Table.update_update]
  · simp [eq_comm]
  · exact fun _ => rfl
  · exact fun _ => rfl

theorem message_acknowledged (ids : List MsgId) (db : Db) (msgId : MsgId) :
    (acknowledged ids db).message msgId = (db.message msgId).map fun row =>
        if ids.contains row.msgId then { row with state := .acknowledged }
        else row := by
  unfold acknowledged Db.message
  rw [Table.lookup_update]

theorem mem_unsettled : row ∈ unsettled db rel request ↔ row ∈ db.messages ∧
      row.relId = rel ∧ row.direction = .out ∧
      signed row.appSeq ≤ signed (request.maxContiguousSeq + UInt64.ofNat bitmapBits) ∧
      (row.state = .queued ∨ row.state = .transmitted) := by
  unfold unsettled Db.unackedOutbound
  rw [List.mem_insertionSort, Table.mem_select]
  simp only [Bool.and_eq_true, Bool.or_eq_true, decide_eq_true_eq, and_assoc]

theorem nodup_unsettled : ((unsettled db rel request).map MessageRow.msgId).Nodup := by
  refine ((List.perm_insertionSort _ _).map _).nodup_iff.mpr ?_
  exact (List.filter_sublist.map _).nodup db.messages.nodup

variable {rel : RelId} {request : ResyncReq} {eng : Engine}

theorem run_handleRow {row : MessageRow} (found : eng.db.message row.msgId = some row)
    (undecided : row.state = .queued ∨ row.state = .transmitted) :
    (handleRow rel request row).run eng =
      .ok (retransmit eng.db eng.clock rel request row) { eng with
          db := acknowledged (coveredIds request [row]) eng.db } := by
  unfold handleRow retransmit coveredIds
  simp only [EStateM.run_bind, run_now, run_readDb]
  cases covered : covers request row with
  | true =>
    have heard : isMissing request.maxContiguousSeq
        request.receivedSeqBitmap row.appSeq = false := by
      simpa [covers] using covered
    have lawful : legal row.state .acknowledged = true := by
      obtain state | state := undecided <;> rw [state] <;> rfl
    rw [if_pos (by simp [heard])]
    simp only [EStateM.run_bind, settleCovered, markAcknowledged]
    rw [if_pos undecided.symm, run_transition, found]
    simp only [lawful, if_true]
    rw [List.filter_cons_of_pos covered, List.filter_nil, List.map_singleton,
      ← acknowledged_cons, acknowledged_nil]
    rfl
  | false =>
    have missing : isMissing request.maxContiguousSeq
        request.receivedSeqBitmap row.appSeq = true := by
      simpa [covers] using covered
    rw [if_neg (by simp [missing]), List.filter_cons_of_neg (by simp [covered]),
      List.filter_nil, List.map_nil, acknowledged_nil]
    cases row.expired eng.clock <;> rfl

theorem acknowledged_append (first second : List MsgId) (db : Db) :
    acknowledged second (acknowledged first db) = acknowledged (first ++ second) db := by
  induction first generalizing db with
  | nil => rw [acknowledged_nil, List.nil_append]
  | cons msgId rest ih => rw [List.cons_append, ← acknowledged_cons, ih, acknowledged_cons]

theorem retransmit_acknowledged (ids : List MsgId) :
    retransmit (acknowledged ids eng.db) eng.clock rel request =
      retransmit eng.db eng.clock rel request :=
  rfl

theorem run_handleRows (distinct : (rows.map MessageRow.msgId).Nodup)
    (found : ∀ row ∈ rows, eng.db.message row.msgId = some row)
    (undecided : ∀ row ∈ rows, row.state = .queued ∨ row.state = .transmitted) :
    (handleRows rel request rows).run eng =
      .ok (rows.filterMap (retransmit eng.db eng.clock rel request)) { eng with
          db := acknowledged (coveredIds request rows) eng.db } := by
  induction rows generalizing eng with
  | nil =>
    rw [coveredIds, List.filter_nil, List.map_nil, acknowledged_nil]
    rfl
  | cons row rest ih =>
    obtain ⟨fresh, distinct⟩ := List.nodup_cons.mp distinct
    have first := @run_handleRow rel request eng row
      (found row List.mem_cons_self) (undecided row List.mem_cons_self)
    have others := @ih { eng with
      db := acknowledged (coveredIds request [row]) eng.db } distinct
      (fun other mem => ?_)
      (fun other mem => undecided other (List.mem_cons_of_mem _ mem))
    · unfold handleRows
      rw [run_bind_ok first, run_bind_ok others]
      simp only [acknowledged_append, retransmit_acknowledged]
      have ids : coveredIds request [row] ++ coveredIds request rest =
          coveredIds request (row :: rest) := by
        simp [coveredIds, List.filter_cons]
        split <;> simp
      rw [ids]
      cases sent : retransmit eng.db eng.clock rel request row with
      | none => rw [List.filterMap_cons_none sent]; rfl
      | some frame => rw [List.filterMap_cons_some sent]; rfl
    · have differs : other.msgId ≠ row.msgId := by
        intro same
        exact fresh (same ▸ List.mem_map_of_mem mem)
      refine (message_acknowledged _ _ _).trans ?_
      rw [found other (List.mem_cons_of_mem _ mem), Option.map_some, if_neg]
      simp only [coveredIds, List.contains_iff_mem, List.mem_map,
        List.mem_filter, List.mem_singleton]
      rintro ⟨source, ⟨rfl, -⟩, same⟩
      exact differs same.symm

theorem run_handleRequest (active : sessionState eng.db rel ≠ .broken) :
    (handleRequest rel request).run eng = .ok ((unsettled eng.db rel request).filterMap
          (retransmit eng.db eng.clock rel request))
        { eng with
          db := acknowledged (coveredIds request (unsettled eng.db rel request)) eng.db } := by
  unfold handleRequest refuseIfBroken
  simp only [EStateM.run_bind, run_readDb]
  rw [if_neg active]
  refine run_handleRows nodup_unsettled (fun row mem => ?_)
    fun row mem => (mem_unsettled.mp mem).2.2.2.2
  exact Table.lookup_key (mem_unsettled.mp mem).1

theorem run_handleRequest_of_broken (broken : sessionState eng.db rel = .broken) :
    (handleRequest rel request).run eng = .error (.sync (.session relationshipBroken)) eng := by
  unfold handleRequest refuseIfBroken
  simp only [EStateM.run_bind, run_readDb, broken, if_true]
  rfl

theorem run_requeueAll_cons (sys : Platform) (frame : Retransmit) (rest : List Retransmit) :
    (requeueAll sys rel (frame :: rest)).run eng =
      match Wire.buildRecord (sys.padding eng.draws) frame.frame with
      | .ok record => (requeueAll sys rel rest).run { eng with
          db := eng.db.requeue frame.msgId rel record messageTtlSecs eng.clock
          draws := eng.draws + 1 }
      | .error error =>
        .error (.wire error) { eng with draws := eng.draws + 1 } := by
  show EStateM.run (_ >>= fun _ => rest.forM _) eng = _
  simp only [EStateM.run_bind, run_buildRecord]
  cases Wire.buildRecord (sys.padding eng.draws) frame.frame <;> rfl

def requested (rel : RelId) (request : ResyncReq) (eng : Engine) :
    Engine :=
  { eng with
    db := acknowledged (coveredIds request (unsettled eng.db rel request))
      (eng.db.notePeerCaps rel request.caps) }

def retransmits (rel : RelId) (request : ResyncReq) (eng : Engine) :
    List Retransmit :=
  (unsettled eng.db rel request).filterMap (retransmit eng.db eng.clock rel request)

theorem mem_retransmits : frame ∈ retransmits rel request eng ↔
      ∃ row ∈ unsettled eng.db rel request,
        covers request row = false ∧ row.expired eng.clock = false ∧
        eng.db.storedCiphertext rel row.msgId = some frame.frame ∧
        frame.msgId = row.msgId ∧ frame.appSeq = row.appSeq := by
  unfold retransmits retransmit
  rw [List.mem_filterMap]
  refine exists_congr fun row => and_congr_right fun _ => ?_
  cases covers request row with
  | true => simp
  | false =>
    cases row.expired eng.clock with
    | true => simp
    | false =>
      simp only [Bool.or_self, Bool.false_eq_true, if_false, true_and, Option.map_eq_some_iff]
      constructor
      · rintro ⟨bytes, cached, rfl⟩
        exact ⟨cached, rfl, rfl⟩
      · rintro ⟨cached, sameId, sameSeq⟩
        refine ⟨frame.frame, cached, ?_⟩
        cases frame
        simp_all

/-- Every frame on file fits a record. -/
def FramesFit (db : Db) : Prop :=
  ∀ msgId row, db.ciphertexts.lookup msgId = some row →
    recordHeaderBytes + row.frameBytes.length ≤ maxRecordBytes

theorem run_requeueAll (fits : FramesFit eng.db) (stored : ∀ frame ∈ frames,
      eng.db.storedCiphertext rel frame.msgId = some frame.frame) :
    ∃ outbox, (requeueAll sys rel frames).run eng = .ok () { eng with
        db := { eng.db with outbox }, draws := eng.draws + frames.length } ∧
      ∀ msgId, if ∃ frame ∈ frames, frame.msgId = msgId then
          ∀ entry, outbox.lookup msgId = some entry → entry.relId = rel
        else outbox.lookup msgId = eng.db.outbox.lookup msgId := by
  induction frames generalizing eng with
  | nil => exact ⟨eng.db.outbox, rfl, by simp⟩
  | cons frame rest ih =>
    obtain ⟨row, filed, -, -, same⟩ :=
      Db.storedCiphertext_eq_some.mp (stored frame List.mem_cons_self)
    obtain ⟨record, built⟩ := @Wire.buildRecord_isOk (sys.padding eng.draws)
      frame.frame (same ▸ fits row.msgId row (Table.lookup_key filed))
    obtain ⟨outbox, ran, entries⟩ := @ih { eng with
      db := eng.db.requeue frame.msgId rel record messageTtlSecs eng.clock
      draws := eng.draws + 1 } fits
      fun other later => stored other (List.mem_cons_of_mem _ later)
    refine ⟨outbox, ?_, fun msgId => ?_⟩
    · rw [run_requeueAll_cons, built, List.length_cons, Nat.add_comm rest.length, ← Nat.add_assoc]
      exact ran
    · have found := entries msgId
      rw [Db.lookup_requeue] at found
      simp only [List.exists_mem_cons_iff]
      by_cases later : ∃ other ∈ rest, other.msgId = msgId
      · rw [if_pos later] at found
        rwa [if_pos (.inr later)]
      · rw [if_neg later] at found
        by_cases same : frame.msgId = msgId
        · rw [if_pos same] at found
          rw [if_pos (.inl same), found]
          rintro entry ⟨⟩
          rfl
        · rw [if_neg same] at found
          rwa [if_neg (not_or.mpr ⟨same, later⟩)]

theorem stored_retransmits : ∀ frame ∈ retransmits rel request eng,
    eng.db.storedCiphertext rel frame.msgId = some frame.frame := by
  intro frame listed
  obtain ⟨row, -, -, -, stored, same, -⟩ := mem_retransmits.mp listed
  rwa [same]

def replyPolicy (sys : Platform) (rel : RelId) : Action Unit := do
  let db ← readDb
  let state ← store (loadPolicy db rel)
  replySync sys rel state

theorem sessionState_notePeerCaps (caps : UInt32) (db : Db) :
    sessionState (db.notePeerCaps rel caps) rel = sessionState db rel :=
  sessionState_updateRelationship db fun _ => rfl

theorem run_applyResyncReq (sys : Platform) (active : sessionState eng.db rel ≠ .broken) :
    (applyResyncReq sys rel request).run eng = (do
        requeueAll sys rel (retransmits rel request eng)
        replyPolicy sys rel).run (requested rel request eng) := by
  exact run_bind_ok (run_handleRequest (by
    rw [sessionState_notePeerCaps]
    exact active))

theorem run_applyResyncReq_of_broken (sys : Platform) (broken : sessionState eng.db rel = .broken) :
    ∃ error, (applyResyncReq sys rel request).run eng = .error error { eng with
        db := eng.db.notePeerCaps rel request.caps } := by
  have still := (@sessionState_notePeerCaps rel request.caps eng.db).trans broken
  refine ⟨.sync (.session relationshipBroken), ?_⟩
  unfold applyResyncReq
  rw [bind_writeDb]
  exact run_bind_error (@run_handleRequest_of_broken rel request { eng with
    db := eng.db.notePeerCaps rel request.caps } still)

end SChatCore.Engine
