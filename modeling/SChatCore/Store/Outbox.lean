import SChatCore.Store.Messages

namespace SChatCore.Store

open Data Wire

/-! The delivery queue. -/

namespace Db

def outboxEntry (msgId : MsgId) (rel : RelId) (record : Bytes) (ttlSecs now : Nat) : OutboxRow where
  msgId := msgId
  relId := rel
  record := record
  attempts := 0
  nextAttemptAt := now
  expiresAt := now + ttlSecs
  createdAt := now

def enqueue (msgId : MsgId) (rel : RelId) (record : Bytes)
    (ttlSecs now : Nat) (db : Db) : Except StoreError Db :=
  match db.outbox.insert (outboxEntry msgId rel record ttlSecs now) with
  | some outbox => .ok { db with outbox }
  | none => .error (.constraint "outbox")

theorem enqueue_eq_ok {db next : Db} : db.enqueue msgId rel record ttlSecs now = .ok next ↔
      ∃ outbox, db.outbox.insert (outboxEntry msgId rel record ttlSecs now) = some outbox ∧
        next = { db with outbox } := by
  unfold enqueue
  cases db.outbox.insert (outboxEntry msgId rel record ttlSecs now) with
  | none => simp
  | some outbox => simp [eq_comm]

theorem lookup_enqueue {db next : Db} (queued : db.enqueue msgId rel record ttlSecs now = .ok next)
    (other : MsgId) :
    next.outbox.lookup other = if msgId = other then some (outboxEntry msgId rel record ttlSecs now)
      else db.outbox.lookup other := by
  obtain ⟨outbox, stored, rfl⟩ := enqueue_eq_ok.mp queued
  exact Table.lookup_insert stored other

theorem enqueue_of_fresh {msgId : MsgId} {db : Db}
    (fresh : db.outbox.lookup msgId = none) (rel : RelId) (record : Bytes) (ttlSecs now : Nat) :
    ∃ next, db.enqueue msgId rel record ttlSecs now = .ok next := by
  obtain ⟨outbox, stored, _⟩ := Table.insert_of_fresh
    (outboxEntry msgId rel record ttlSecs now) fresh
  exact ⟨_, enqueue_eq_ok.mpr ⟨outbox, stored, rfl⟩⟩

def requeue (msgId : MsgId) (rel : RelId) (record : Bytes) (ttlSecs now : Nat) (db : Db) : Db :=
  { db with
    outbox := db.outbox.upsert (outboxEntry msgId rel record ttlSecs now) }

theorem lookup_requeue (msgId other : MsgId) (rel : RelId) (record : Bytes)
    (ttlSecs now : Nat) (db : Db) :
    (db.requeue msgId rel record ttlSecs now).outbox.lookup other =
      if msgId = other then some (outboxEntry msgId rel record ttlSecs now)
      else db.outbox.lookup other :=
  Table.lookup_upsert db.outbox (outboxEntry msgId rel record ttlSecs now) other

def due (db : Db) (limit now : Nat) : List OutboxRow :=
  ((db.outbox.select fun row => row.nextAttemptAt ≤ now).insertionSort
    fun first second => first.nextAttemptAt ≤ second.nextAttemptAt).take limit

def noteAttempt (msgId : MsgId) (backoffSecs now : Nat) (db : Db) : Db :=
  { db with
    outbox := db.outbox.update (fun row => row.msgId = msgId) (fun row => { row with
        attempts := row.attempts + 1
        nextAttemptAt := now + backoffSecs })
      fun _ => rfl }

def dequeue (msgId : MsgId) (db : Db) : Db :=
  { db with outbox := db.outbox.delete fun row => row.msgId = msgId }

theorem lookup_dequeue (msgId other : MsgId) (db : Db) : (db.dequeue msgId).outbox.lookup other =
      if other = msgId then none else db.outbox.lookup other :=
  Table.lookup_delete_key msgId other

def outboxExpired (db : Db) (now : Nat) : List OutboxRow :=
  db.outbox.select fun row => row.expiresAt ≤ now

/-- Removes the entries past their horizon; `outboxExpired` of the state before
lists them. -/
def failExpired (now : Nat) (db : Db) : Db :=
  { db with outbox := db.outbox.delete fun row => row.expiresAt ≤ now }

def failRelationshipOutbound (rel : RelId) (db : Db) : Db :=
  { db with
    messages := db.messages.update (fun row => row.relId = rel && row.direction = .out &&
        (row.state = .queued || row.state = .transmitted))
      (fun row => { row with state := .failed }) fun _ => rfl
    outbox := db.outbox.delete fun row => row.relId = rel }

def storedCiphertext (db : Db) (rel : RelId) (msgId : MsgId) :
    Option Bytes :=
  ((db.ciphertexts.lookup msgId).filter fun row => row.relId = rel).map CiphertextRow.frameBytes

theorem storedCiphertext_eq_some {db : Db} :
    db.storedCiphertext rel msgId = some bytes ↔ ∃ row ∈ db.ciphertexts,
      row.msgId = msgId ∧ row.relId = rel ∧ row.frameBytes = bytes := by
  unfold storedCiphertext
  rw [Option.map_eq_some_iff]
  refine exists_congr fun row => ?_
  rw [Option.filter_eq_some_iff, Table.lookup_eq_some, decide_eq_true_eq]
  exact and_assoc.trans and_assoc

end Db

end SChatCore.Store
