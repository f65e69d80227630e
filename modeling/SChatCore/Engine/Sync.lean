import SChatCore.Engine.Session
import SChatCore.Store.Attachments

namespace SChatCore.Engine

open Data Wire Store

/-! Delivery states. -/

def messageTtlSecs : Nat := 86400

def legal : DeliveryState → DeliveryState → Bool
  | .queued, .transmitted | .queued, .acknowledged
  | .transmitted, .acknowledged | .transmitted, .transmitted
  | .queued, .failed | .transmitted, .failed => true
  | _, _ => false

def transition (msgId : MsgId) (target : DeliveryState) : Action Unit := do
  let db ← readDb
  match db.message msgId with
  | none => throw (.sync (.store (.corrupt "transition on unknown msg_id")))
  | some row =>
    if legal row.state target then writeDb (Db.setDelivery msgId target)
    else throw (.sync (.badTransition row.state target))

theorem run_transition (msgId : MsgId) (target : DeliveryState) (eng : Engine) :
    (transition msgId target).run eng = match eng.db.message msgId with
      | none => .error (.sync (.store (.corrupt "transition on unknown msg_id"))) eng
      | some row =>
        if legal row.state target then
          .ok () { eng with db := eng.db.setDelivery msgId target }
        else .error (.sync (.badTransition row.state target)) eng := by
  unfold transition
  simp only [EStateM.run_bind, run_readDb]
  cases eng.db.message msgId with
  | none => rfl
  | some row =>
    simp only
    split <;> rfl

def markTransmitted (msgId : MsgId) : Action Unit := transition msgId .transmitted

def markAcknowledged (msgId : MsgId) : Action Unit := transition msgId .acknowledged

def backoff (attempts : Nat) : Nat := min (5 * 3 ^ min attempts 10) 900

def failExpired : Action Unit := do
  let now ← now
  let expired ← updateDb fun db => (db.outboxExpired now, db.failExpired now)
  expired.forM fun row => writeDb (Db.setDelivery row.msgId .failed)

namespace Sync

variable (sys : Platform)

def drainRow (row : OutboxRow) : Action Unit := do
  let sent ← sendRecord sys row.msgId row.record
  if sent then do
    writeDb (Db.dequeue row.msgId)
    writeDb (Db.setDelivery row.msgId .transmitted)
  else do
    let now ← now
    writeDb (Db.noteAttempt row.msgId (backoff row.attempts) now)

def drain (limit : Nat) : Action Unit := do
  let now ← now
  let db ← readDb
  (db.due limit now).forM (drainRow sys)

def orphanTtlSecs : Int := 86400

def sweepExpired : Action Unit := do
  failExpired
  let now ← now
  writeDb (Db.sweepExpired now)
  writeDb (Db.sweepExpiredAttachments now)
  writeDb (Db.sweepOrphans ((now : Int) - orphanTtlSecs))

end Sync

def maxFutureSkewSecs : Nat := 300

def clampSentAt (sentAt now : Nat) : Except SyncError Nat :=
  if sentAt > now + maxFutureSkewSecs then
    .error (.futureTimestamp sentAt now)
  else .ok (min sentAt now)

def refuseIfBroken (rel : RelId) : Action Unit := do
  let db ← readDb
  if sessionState db rel = .broken then
    throw (.sync (.session relationshipBroken))
  else pure ()

def requestOf (sys : Platform) (db : Db) (rel : RelId) : ResyncReq :=
  let view := db.receiveView rel bitmapBits
  let deep := db.deepSeqs rel (deepBase view.maxContiguousSeq) view.maxContiguousSeq
  { maxContiguousSeq := view.maxContiguousSeq
    receivedSeqBitmap := view.bitmap
    caps := Caps.localCaps
    historyHash := historyHash sys.sha256 view.maxContiguousSeq view.bitmap deep }

def buildRequest (sys : Platform) (rel : RelId) : Action ResyncReq := do
  refuseIfBroken rel
  let db ← readDb
  return requestOf sys db rel

def isMissing (maxContiguousSeq : UInt64) (bitmap : Bytes) (appSeq : UInt64) : Bool :=
  if appSeq = 0 ∨ appSeq ≤ maxContiguousSeq then appSeq = 0
  else
    let offset := (appSeq - maxContiguousSeq - 1).toNat
    if offset ≥ bitmapBits then true else !Bitmap.has bitmap offset

def opensGap (db : Db) (rel : RelId) (appSeq : UInt64) : Bool :=
  if appSeq ≤ 1 then false
  else appSeq > (db.receiveView rel bitmapBits).maxContiguousSeq + 1

structure Retransmit where
  msgId : MsgId
  appSeq : UInt64
  frame : Bytes
  deriving DecidableEq

def settleCovered (row : MessageRow) : Action Unit :=
  if row.state = .transmitted ∨ row.state = .queued then
    markAcknowledged row.msgId
  else pure ()

/-- The verdict on one unsettled row: covered rows are acknowledged, missing
ones go out again if they are alive and their frame is cached. -/
def handleRow (rel : RelId) (request : ResyncReq) (row : MessageRow) :
    Action (Option Retransmit) := do
  let now ← now
  let db ← readDb
  if ¬ isMissing request.maxContiguousSeq request.receivedSeqBitmap row.appSeq then do
    settleCovered row
    return none
  else if row.expired now then return none
  else return (db.storedCiphertext rel row.msgId).map fun frame =>
    { msgId := row.msgId, appSeq := row.appSeq, frame }

def handleRows (rel : RelId) (request : ResyncReq) : List MessageRow → Action (List Retransmit)
  | [] => return []
  | row :: rest => do
    let first ← handleRow rel request row
    let others ← handleRows rel request rest
    return first.toList ++ others

def handleRequest (rel : RelId) (request : ResyncReq) : Action (List Retransmit) := do
  refuseIfBroken rel
  let db ← readDb
  handleRows rel request (db.unackedOutbound rel
    (request.maxContiguousSeq + UInt64.ofNat bitmapBits))

end SChatCore.Engine
