import SChatCore.Store.Schema
import SChatCore.Data.Bitmap
import Mathlib.Data.List.Sort

namespace SChatCore.Store

open Data Wire

/-! The message ledger and the sequence numbers, both directions. -/

structure NewMessage where
  msgId : MsgId
  relId : RelId
  direction : Direction
  appSeq : UInt64
  sentAt : Nat
  receivedAt : Option Nat
  envType : UInt8
  refId : Option MsgId
  payload : Bytes
  state : DeliveryState
  expiresAt : Option Nat

def NewMessage.row (msg : NewMessage) (now : Nat) : MessageRow where
  msgId := msg.msgId
  relId := msg.relId
  direction := msg.direction
  appSeq := msg.appSeq
  sentAt := msg.sentAt
  receivedAt := msg.receivedAt
  envType := msg.envType
  refId := msg.refId
  payload := msg.payload
  state := msg.state
  expiresAt := msg.expiresAt
  createdAt := now
  edited := false
  tombstone := false
  readAt := none
  editCount := 0
  lastEditSeq := 0

def MessageRow.expired (now : Nat) (row : MessageRow) : Bool := row.expiresAt.any (· ≤ now)

/-- A read receipt lands on an outbound row, once. -/
def MessageRow.readable (row : MessageRow) : Bool := row.direction = .out && row.readAt.isNone

structure ReceiveView where
  maxContiguousSeq : UInt64
  bitmap : Bytes
  deriving DecidableEq

def viewScanLimit : Nat := 65536

namespace Db

def message (db : Db) (msgId : MsgId) : Option MessageRow := db.messages.lookup msgId

def insertMessage (now : Nat) (msg : NewMessage) (db : Db) :
    Except StoreError Db :=
  match db.messages.insert (msg.row now) with
  | some messages => .ok { db with messages }
  | none => .error (.constraint "messages")

theorem insertMessage_eq_ok {db next : Db} : db.insertMessage now msg = .ok next ↔
      ∃ messages, db.messages.insert (msg.row now) = some messages ∧
        next = { db with messages } := by
  unfold insertMessage
  cases db.messages.insert (msg.row now) with
  | none => simp
  | some messages => simp [eq_comm]

theorem message_insertMessage {db next : Db}
    (inserted : db.insertMessage now msg = .ok next) (msgId : MsgId) :
    next.message msgId = if msg.msgId = msgId then some (msg.row now) else db.message msgId := by
  obtain ⟨messages, stored, rfl⟩ := insertMessage_eq_ok.mp inserted
  exact Table.lookup_insert stored msgId

theorem insertMessage_of_fresh {now : Nat} {msg : NewMessage} {db : Db}
    (fresh : db.message msg.msgId = none) :
    ∃ next, db.insertMessage now msg = .ok next := by
  obtain ⟨messages, stored, _⟩ := Table.insert_of_fresh (msg.row now) fresh
  exact ⟨_, insertMessage_eq_ok.mpr ⟨messages, stored, rfl⟩⟩

def setDelivery (msgId : MsgId) (state : DeliveryState) (db : Db) : Db :=
  { db with
    messages := db.messages.update (fun row => row.msgId = msgId)
      (fun row => { row with state }) fun _ => rfl }

theorem message_setDelivery (msgId other : MsgId) (state : DeliveryState) (db : Db) :
    (db.setDelivery msgId state).message other = if other = msgId then
        (db.message msgId).map fun row => { row with state }
      else db.message other :=
  Table.lookup_update_key msgId other fun _ => by rfl

def deleteMessage (msgId : MsgId) (db : Db) : Db :=
  { db with messages := db.messages.delete fun row => row.msgId = msgId }

/-- The TTL sweep: expired rows, then the cached ciphertexts without a row,
then the expired replay cache. -/
def sweepExpired (now : Nat) (db : Db) : Db :=
  let messages := db.messages.delete (MessageRow.expired now)
  { db with
    messages
    ciphertexts := db.ciphertexts.delete fun row =>
      (messages.lookup row.msgId).isNone
    inboundFrames := db.inboundFrames.delete fun row => row.expiresAt ≤ now }

def markEdited (msgId : MsgId) (payload : Bytes) (editSeq : UInt64) (db : Db) : Db :=
  { db with
    messages := db.messages.update (fun row => row.msgId = msgId && !row.tombstone)
      (fun row => { row with
        payload
        edited := true
        editCount := row.editCount + 1
        lastEditSeq := editSeq })
      fun _ => rfl }

def markTombstoned (msgId : MsgId) (db : Db) : Db :=
  { db with
    messages := db.messages.update (fun row => row.msgId = msgId)
      (fun row => { row with payload := [], tombstone := true }) fun _ => rfl }

def markRead (msgId : MsgId) (readAt : Nat) (db : Db) : Db :=
  { db with
    messages := db.messages.update (fun row => row.msgId = msgId && row.readable)
      (fun row => { row with readAt := some readAt }) fun _ => rfl }

/-- `DELETE_ALL` and close: both directions of the relationship go, except the
listed control frames; their ciphertexts go with them. -/
def eraseHistory (rel : RelId) (keep : List MsgId) (db : Db) : Db :=
  let messages := db.messages.delete fun row =>
    row.relId = rel && !keep.contains row.msgId
  { db with
    messages
    ciphertexts := db.ciphertexts.delete fun row =>
      row.relId = rel && (messages.lookup row.msgId).isNone }

def noteInboundSeq (rel : RelId) (appSeq : UInt64) (db : Db) : Db :=
  { db with inboundSeqs := db.inboundSeqs.insertOrIgnore { relId := rel, appSeq } }

def hasInboundSeq (db : Db) (rel : RelId) (appSeq : UInt64) : Bool :=
  (db.inboundSeqs.lookup { relId := rel, appSeq }).isSome

theorem hasInboundSeq_noteInboundSeq (db : Db) (rel other : RelId) (appSeq seq : UInt64) :
    (db.noteInboundSeq rel appSeq).hasInboundSeq other seq = true ↔
      other = rel ∧ seq = appSeq ∨ db.hasInboundSeq other seq = true := by
  refine Table.isSome_lookup_insertOrIgnore.trans (or_congr_left ?_)
  rw [id, InboundSeqRow.mk.injEq]

def inboundSeqsOf (db : Db) (rel : RelId) : List UInt64 :=
  ((db.inboundSeqs.select fun row => row.relId = rel).map
    InboundSeqRow.appSeq).insertionSort fun first second =>
      signed first ≤ signed second

def walkHorizon (max : UInt64) : List UInt64 → UInt64 × List UInt64
  | [] => (max, [])
  | seq :: rest => if seq = max + 1 then walkHorizon seq rest else (max, seq :: rest)

/-- The repair bits above `base`; the scan stops at the first sequence number
past the window. -/
def markWindow (base : UInt64) (bits : Nat) : List UInt64 → Bytes → Option Nat → Bytes × Option Nat
  | [], bitmap, lastSet => (bitmap, lastSet)
  | seq :: rest, bitmap, lastSet =>
    let offset := seq.toNat - base.toNat
    if offset ≥ bits then (bitmap, lastSet)
    else markWindow base bits rest (Bitmap.set bitmap offset) (some offset)

def viewOf (seqs : List UInt64) (bits : Nat) : ReceiveView :=
  let (max, rest) := walkHorizon 0 seqs
  let (bitmap, lastSet) := markWindow (max + 1) bits rest (List.replicate ((bits + 7) / 8) 0) none
  { maxContiguousSeq := max
    bitmap := bitmap.take (lastSet.elim 0 (· / 8 + 1)) }

def receiveView (db : Db) (rel : RelId) (bits : Nat) : ReceiveView :=
  viewOf ((db.inboundSeqsOf rel).take viewScanLimit) bits

theorem length_markWindow (base : UInt64) (bits : Nat) (seqs : List UInt64)
    (bitmap : Bytes) (lastSet : Option Nat) :
    (markWindow base bits seqs bitmap lastSet).1.length = bitmap.length := by
  induction seqs generalizing bitmap lastSet with
  | nil => rfl
  | cons seq rest ih =>
    unfold markWindow
    simp only
    split
    · rfl
    · rw [ih, Bitmap.length_set]

theorem length_bitmap_receiveView (db : Db) (rel : RelId) (bits : Nat) :
    (db.receiveView rel bits).bitmap.length ≤ (bits + 7) / 8 := by
  have whole := length_markWindow
    ((walkHorizon 0 ((db.inboundSeqsOf rel).take viewScanLimit)).1 + 1) bits
    (walkHorizon 0 ((db.inboundSeqsOf rel).take viewScanLimit)).2
    (List.replicate ((bits + 7) / 8) 0) none
  rw [List.length_replicate] at whole
  rw [← whole]
  exact List.length_take_le' _ _

def deepSeqs (db : Db) (rel : RelId) (base max : UInt64) : List UInt64 :=
  (db.inboundSeqsOf rel).filter fun seq =>
    signed base ≤ signed seq && signed seq ≤ signed max

def unackedOutbound (db : Db) (rel : RelId) (through : UInt64) :
    List MessageRow :=
  (db.messages.select fun row => row.relId = rel && row.direction = .out &&
      signed row.appSeq ≤ signed through &&
      (row.state = .queued || row.state = .transmitted)).insertionSort
    fun first second => signed first.appSeq ≤ signed second.appSeq

def largestSigned : List UInt64 → Option UInt64
  | [] => none
  | seq :: rest =>
    match largestSigned rest with
    | none => some seq
    | some other => if signed seq ≤ signed other then some other else some seq

def maxOutSeq (db : Db) (rel : RelId) : Option UInt64 :=
  largestSigned ((db.messages.select fun row =>
    row.relId = rel && row.direction = .out).map MessageRow.appSeq)

def outSeqFloor (db : Db) (rel : RelId) : UInt64 :=
  ((db.settings.outSeqFloor.lookup rel).map RelSetting.value).getD 1

def saturatingSucc (value : UInt64) : UInt64 := UInt64.ofNat (min (value.toNat + 1) (2 ^ 64 - 1))

/-- The next outbound sequence number; the persisted floor keeps it
increasing when the ledger rows are gone. -/
def nextOutSeq (rel : RelId) (db : Db) : UInt64 × Db :=
  let fromLedger := ((db.maxOutSeq rel).map (· + 1)).getD 1
  let next := max fromLedger (db.outSeqFloor rel)
  (next, { db with
    settings := { db.settings with
      outSeqFloor := db.settings.outSeqFloor.upsert
        { relId := rel, value := saturatingSucc next } } })

end Db

end SChatCore.Store
