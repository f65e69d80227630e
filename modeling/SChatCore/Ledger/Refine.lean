import SChatCore.Engine.Inbound
import SChatCore.Ledger.Book

namespace SChatCore.Ledger

open Data Wire Store Policy Engine

/-! The engine keeps such a book, and whatever it does is a run of moves. -/

def entryOf (row : MessageRow) : Entry where
  relId := row.relId
  direction := row.direction
  appSeq := row.appSeq
  state := row.state

def contactOf (row : RelationshipRow) : Contact where
  cut := row.historyCutSeq
  closing := row.closeState.isSome

def spokenOf : RatchetCall → Option (RelId × Bytes)
  | .encrypt rel plain => some (rel, plain)
  | _ => none

def book (eng : Engine) : Book where
  entry msgId := (eng.db.message msgId).map entryOf
  queued msgId := (eng.db.outbox.lookup msgId).map OutboxRow.relId
  heard rel := { seq | eng.db.hasInboundSeq rel seq = true }
  floor rel := eng.db.outSeqFloor rel
  contact rel := (eng.db.relationship rel).map contactOf
  spoken := eng.ratchet.filterMap spokenOf

theorem book_congr (messages : after.db.messages = before.db.messages)
    (outbox : after.db.outbox = before.db.outbox)
    (seqs : after.db.inboundSeqs = before.db.inboundSeqs)
    (floors : after.db.settings.outSeqFloor = before.db.settings.outSeqFloor)
    (relationships : after.db.relationships = before.db.relationships)
    (spoken : after.ratchet.filterMap spokenOf =
      before.ratchet.filterMap spokenOf) : book after = book before := by
  unfold book Db.message Db.hasInboundSeq Db.outSeqFloor Db.relationship
  rw [messages, outbox, seqs, floors, relationships, spoken]

variable {eng : Engine}

theorem book_insertMessage {msg : NewMessage} {now : Nat} {db : Db}
    (inserted : eng.db.insertMessage now msg = .ok db) :
    book { eng with db } = (book eng).apply (.write msg.msgId (entryOf (msg.row now))) := by
  have looked := Db.message_insertMessage inserted
  obtain ⟨messages, -, rfl⟩ := Db.insertMessage_eq_ok.mp inserted
  refine Book.ext (funext fun msgId => ?_) rfl rfl rfl rfl rfl
  show Option.map entryOf (Db.message _ msgId) = if _ then _ else _
  rw [looked]
  by_cases same : msgId = msg.msgId
  · simp [same]
  · rw [if_neg same, if_neg fun eq => same eq.symm]
    rfl

theorem book_setDelivery (msgId : MsgId) (state : DeliveryState) :
    book { eng with db := eng.db.setDelivery msgId state } =
      (book eng).apply (.settle msgId state) := by
  refine Book.ext (funext fun other => ?_) rfl rfl rfl rfl rfl
  show Option.map entryOf (Db.message _ other) = Option.map _ (Option.map _ _)
  rw [Db.message_setDelivery]
  by_cases same : other = msgId
  · subst same
    rw [if_pos rfl, Option.map_map, Option.map_map]
    simp only [if_true]
    rfl
  · rw [if_neg same, Option.map_map]
    simp only [same, if_false]
    rfl

theorem book_entered {outbox : Table OutboxRow.msgId} (looked : ∀ other, outbox.lookup other =
      if msgId = other then some row else eng.db.outbox.lookup other) :
    book { eng with db := { eng.db with outbox } } =
      (book eng).apply (.enqueue msgId row.relId) := by
  refine Book.ext rfl (funext fun other => ?_) rfl rfl rfl rfl
  show Option.map OutboxRow.relId (Table.lookup _ other) = if _ then _ else _
  rw [looked]
  by_cases same : other = msgId
  · rw [if_pos same, if_pos same.symm]
    rfl
  · rw [if_neg same, if_neg fun eq => same eq.symm]
    rfl

theorem book_enqueue {ttlSecs now : Nat}
    (queued : eng.db.enqueue msgId rel record ttlSecs now = .ok db) :
    book { eng with db } = (book eng).apply (.enqueue msgId rel) := by
  have looked := Db.lookup_enqueue queued
  obtain ⟨outbox, -, rfl⟩ := Db.enqueue_eq_ok.mp queued
  exact book_entered looked

theorem book_requeue (msgId : MsgId) (rel : RelId) (record : Bytes) (ttlSecs now : Nat) :
    book { eng with
        db := eng.db.requeue msgId rel record ttlSecs now } =
      (book eng).apply (.enqueue msgId rel) :=
  book_entered fun _ => Db.lookup_requeue ..

theorem book_deleteOutbox (chosen : OutboxRow → Bool) : book { eng with db := { eng.db with
      outbox := eng.db.outbox.delete chosen } } =
        (book eng).apply (.dequeue { msgId | (eng.db.outbox.lookup msgId).any chosen = true }) := by
  refine Book.ext rfl (funext fun msgId => ?_) rfl rfl rfl rfl
  refine (Table.map_lookup_delete _ chosen msgId).trans ?_
  by_cases hit : (eng.db.outbox.lookup msgId).any chosen = true
  · exact (if_pos hit).trans (if_pos hit).symm
  · exact (if_neg hit).trans (if_neg hit).symm

theorem book_noteAttempt (msgId : MsgId) (backoffSecs now : Nat) :
    book { eng with db := eng.db.noteAttempt msgId backoffSecs now } =
      book eng := by
  refine Book.ext rfl (funext fun other => ?_) rfl rfl rfl rfl
  show Option.map OutboxRow.relId (Table.lookup _ other) = Option.map _ _
  unfold Db.noteAttempt
  rw [Table.lookup_update, Option.map_map]
  refine congrFun (congrArg _ (funext fun row => ?_)) _
  simp only [Function.comp_apply]
  split <;> rfl

theorem book_deleteMessages (chosen : MessageRow → Bool)
    (messages : after.messages = eng.db.messages.delete chosen)
    (rest : after.outbox = eng.db.outbox ∧ after.inboundSeqs = eng.db.inboundSeqs ∧
      after.settings.outSeqFloor = eng.db.settings.outSeqFloor ∧
      after.relationships = eng.db.relationships := by exact ⟨rfl, rfl, rfl, rfl⟩) :
    book { eng with db := after } = (book eng).apply (.erase { msgId |
      (eng.db.message msgId).any chosen = true }) := by
  obtain ⟨outbox, seqs, floors, relationships⟩ := rest
  refine Book.ext (funext fun msgId => ?_) ?_ ?_ ?_ ?_ rfl
  · refine ((congrArg (fun table => Option.map _ (Table.lookup table msgId))
      messages).trans (Table.map_lookup_delete _ chosen msgId)).trans ?_
    by_cases hit : (eng.db.messages.lookup msgId).any chosen = true
    · exact (if_pos hit).trans (if_pos hit).symm
    · exact (if_neg hit).trans (if_neg hit).symm
  · funext msgId
    show Option.map _ (after.outbox.lookup msgId) = _
    rw [outbox]
    rfl
  · funext rel
    ext seq
    show after.hasInboundSeq rel seq = true ↔ _
    unfold Db.hasInboundSeq
    rw [seqs]
    rfl
  · funext rel
    show after.outSeqFloor rel = _
    unfold Db.outSeqFloor
    rw [floors]
    rfl
  · funext rel
    show Option.map _ (after.relationships.lookup rel) = _
    rw [relationships]
    rfl

theorem outSeqFloor_nextOutSeq (rel other : RelId) (db : Db) :
    (db.nextOutSeq rel).2.outSeqFloor other =
      if other = rel then Db.saturatingSucc (db.nextOutSeq rel).1
      else db.outSeqFloor other := by
  unfold Db.nextOutSeq Db.outSeqFloor
  simp only
  rw [Table.lookup_upsert]
  by_cases same : other = rel
  · rw [if_pos same, if_pos same.symm]
    rfl
  · rw [if_neg same, if_neg fun eq => same eq.symm]

theorem book_nextOutSeq (rel : RelId) : book { eng with db := (eng.db.nextOutSeq rel).2 } =
      (book eng).apply (.allocate rel (eng.db.nextOutSeq rel).1) :=
  Book.ext rfl rfl rfl (funext fun other => outSeqFloor_nextOutSeq rel other eng.db) rfl rfl

theorem le_saturatingSucc (value : UInt64) : value ≤ Db.saturatingSucc value := by
  have bound := value.toNat_lt
  have small : min (value.toNat + 1) (2 ^ 64 - 1) < UInt64.size := by
    rw [UInt64.size]
    omega
  rw [UInt64.le_iff_toNat_le, Db.saturatingSucc, UInt64.toNat_ofNat_of_lt' small]
  omega

theorem floor_le_nextOutSeq (rel : RelId) (db : Db) :
    db.outSeqFloor rel ≤ (db.nextOutSeq rel).1 := by
  show _ ≤ ite _ _ _
  split
  · exact UInt64.le_refl _
  · rename_i above
    exact (UInt64.le_total _ _).resolve_right above

theorem book_spoken : book { eng with
        db := (eng.db.nextOutSeq rel).2
        ratchet := eng.ratchet ++ [.encrypt rel plain] } =
      (book eng).apply (.speak rel plain (eng.db.nextOutSeq rel).1) := by
  refine Book.ext rfl rfl rfl (funext fun other => outSeqFloor_nextOutSeq rel other eng.db) rfl ?_
  exact List.filterMap_append

theorem book_failRelationshipOutbound (rel : RelId) :
    book { eng with db := eng.db.failRelationshipOutbound rel } = (book eng).apply (.fail rel) := by
  refine Book.ext (funext fun msgId => ?_) (funext fun msgId => ?_) rfl rfl rfl rfl
  · show Option.map entryOf (Table.lookup _ msgId) = Option.map _ (Option.map _ _)
    unfold Db.failRelationshipOutbound
    rw [Table.lookup_update, Option.map_map, Option.map_map]
    refine congrFun (congrArg _ (funext fun row => ?_)) _
    by_cases hit : row.relId = rel ∧ row.direction = .out ∧
        (row.state = .queued ∨ row.state = .transmitted)
    · simp [entryOf, Entry.pending, hit]
    · have missed : ¬ ((row.relId = rel ∧ row.direction = .out) ∧
          (row.state = .queued ∨ row.state = .transmitted)) := by
        rwa [and_assoc]
      simp [entryOf, Entry.pending, hit, missed]
  · show Option.map OutboxRow.relId (Table.lookup _ msgId) = Option.filter _ (Option.map _ _)
    unfold Db.failRelationshipOutbound
    rw [Table.lookup_delete]
    cases eng.db.outbox.lookup msgId with
    | none => rfl
    | some row => by_cases own : row.relId = rel <;> simp [Option.filter, own]

theorem book_updateRelationship (kept : ∀ row, contactOf (assign row) = contactOf row) :
    book { eng with
      db := eng.db.updateRelationship rel assign keepsKey } =
        book eng := by
  refine Book.ext rfl rfl rfl rfl (funext fun other => ?_) rfl
  show Option.map contactOf (Db.relationship _ other) = Option.map contactOf _
  rw [Db.relationship_updateRelationship]
  split
  · rename_i same
    rw [Option.map_map, same]
    exact congrFun (congrArg _ (funext kept)) _
  · rfl

theorem book_updateMessages {chosen : MessageRow → Bool} {assign : MessageRow → MessageRow}
    {keepsKey : ∀ row, (assign row).msgId = row.msgId}
    (kept : ∀ row, entryOf (assign row) = entryOf row) :
    book { eng with db := { eng.db with
      messages := eng.db.messages.update chosen assign keepsKey } } =
        book eng := by
  refine Book.ext (funext fun msgId => ?_) rfl rfl rfl rfl rfl
  show Option.map entryOf (Table.lookup _ msgId) = Option.map entryOf _
  rw [Table.lookup_update, Option.map_map]
  refine congrFun (congrArg _ (funext fun row => ?_)) _
  simp only [Function.comp_apply]
  split
  · exact kept row
  · rfl

theorem book_assignContact {keepsKey : ∀ row, (assign row).relId = row.relId}
    {change : Contact → Contact} (kept : ∀ row, contactOf (assign row) = change (contactOf row)) :
    (book { eng with
        db := eng.db.updateRelationship rel assign keepsKey }).contact =
      fun other => ((book eng).contact other).map fun contact =>
        if other = rel then change contact else contact := by
  funext other
  show Option.map contactOf (Db.relationship _ other) =
    Option.map _ (Option.map contactOf (eng.db.relationship other))
  rw [Db.relationship_updateRelationship, Option.map_map]
  by_cases same : other = rel
  · subst same
    rw [if_pos rfl, Option.map_map]
    refine congrFun (congrArg _ (funext fun row => ?_)) _
    simp only [Function.comp_apply, kept, if_true]
  · rw [if_neg same]
    refine congrFun (congrArg _ (funext fun row => ?_)) _
    simp only [Function.comp_apply, same, if_false]

theorem book_raiseHistoryCut (rel : RelId) (seq : UInt64) :
    book { eng with db := eng.db.raiseHistoryCut rel seq } = (book eng).apply (.raise rel seq) :=
  Book.ext rfl rfl rfl rfl (book_assignContact fun _ => rfl) rfl

theorem book_setClosing (rel : RelId) : book { eng with db := eng.db.setClosing rel } =
      (book eng).apply (.close rel) :=
  Book.ext rfl rfl rfl rfl (book_assignContact fun _ => rfl) rfl

theorem book_noteInboundSeq (rel : RelId) (seq : UInt64) :
    book { eng with db := eng.db.noteInboundSeq rel seq } = (book eng).apply (.hear rel seq) := by
  refine Book.ext rfl rfl (funext fun other => Set.ext fun heard => ?_) rfl rfl rfl
  refine (Db.hasInboundSeq_noteInboundSeq _ _ _ _ _).trans ?_
  show _ ↔ heard ∈ if other = rel then insert seq ((book eng).heard other)
    else (book eng).heard other
  by_cases same : other = rel
  · rw [if_pos same, Set.mem_insert_iff, and_iff_right same]
    exact Iff.rfl
  · rw [if_neg same]
    simp only [same, false_and, false_or]
    exact Iff.rfl

theorem book_burn (rel : RelId) : book { eng with db := eng.db.burn rel } =
      (book eng).apply (.burn rel) := by
  have filtered : ∀ {ρ : Type} {key : ρ → MsgId} (table : Table key)
      (owner : ρ → RelId) (msgId : MsgId),
      (table.delete fun row => owner row = rel).lookup msgId =
        (table.lookup msgId).filter fun row => owner row ≠ rel := by
    intro ρ key table owner msgId
    rw [Table.lookup_delete]
    congr
    funext row
    simp
  refine Book.ext (funext fun msgId => ?_) (funext fun msgId => ?_)
    (funext fun other => Set.ext fun seq => ?_) rfl (funext fun other => ?_) rfl
  · show Option.map entryOf (Table.lookup _ msgId) =
      Option.filter _ (Option.map entryOf (eng.db.messages.lookup msgId))
    refine (congrArg _ (filtered eng.db.messages MessageRow.relId msgId)).trans ?_
    cases eng.db.messages.lookup msgId with
    | none => rfl
    | some row => by_cases own : row.relId = rel <;> simp [Option.filter, own, entryOf]
  · show Option.map OutboxRow.relId (Table.lookup _ msgId) =
      Option.filter _ (Option.map _ (eng.db.outbox.lookup msgId))
    refine (congrArg _ (filtered eng.db.outbox OutboxRow.relId msgId)).trans ?_
    cases eng.db.outbox.lookup msgId with
    | none => rfl
    | some row => by_cases own : row.relId = rel <;> simp [Option.filter, own]
  · show ((eng.db.inboundSeqs.delete fun row =>
        row.relId = rel).lookup _).isSome = true ↔ seq ∈ if other = rel
      then ∅ else (book eng).heard other
    have heard : seq ∈ (book eng).heard other ↔
        (eng.db.inboundSeqs.lookup ⟨other, seq⟩).isSome = true := Iff.rfl
    rw [Table.lookup_delete]
    cases found : eng.db.inboundSeqs.lookup ⟨other, seq⟩ with
    | none => by_cases same : other = rel <;> simp [heard, found, same]
    | some row =>
      have own : row = ⟨other, seq⟩ := (Table.lookup_eq_some.mp found).2
      by_cases same : other = rel <;>
        simp [Option.filter, heard, found, own, same]
  · show Option.map contactOf ((eng.db.relationships.delete fun row =>
        row.relId = rel).lookup other) = if other = rel then none
      else (book eng).contact other
    rw [Table.lookup_delete_key]
    split <;> rfl

theorem book_eraseAttachMessages (rel : RelId) (db : Db) :
    book { eng with db := eraseAttachMessages rel db } = book { eng with db } := by
  have plain : ∀ (heads : List MsgId) (db : Db),
      book { eng with db := heads.foldl (fun db headId =>
        eraseAttachMessage headId db) db } = book { eng with db } := by
    intro heads
    induction heads with
    | nil => exact fun db => rfl
    | cons headId rest ih =>
      intro db
      rw [List.foldl_cons, ih]
      exact @book_updateMessages { eng with
        db := (db.deleteChunks headId).deleteAttachment headId } _ _ _
        fun _ => rfl
  exact plain _ _

end SChatCore.Ledger
