import SChatCore.Engine.Send
import SChatCore.Store.Stickers

namespace SChatCore.Engine

open Data Wire Store

/-! Draining the outbox. -/

def drainBatch : Nat := 64

/-- 5s, 10s, 20s, up to five minutes. -/
def backoffSecs (attempts : Nat) : Nat := min (5 * 2 ^ min attempts 6) 300

section

variable (sys : Platform)

def backOff (row : OutboxRow) : Action Unit := do
  let now ← now
  writeDb (Db.noteAttempt row.msgId (backoffSecs row.attempts) now)

/-- One due row. Returns whether it went out, and the onions that failed in
this pass. -/
def drainRow (failed : List String) (row : OutboxRow) : Action (Bool × List String) := do
  let db ← readDb
  match db.relationship row.relId with
  | none => do
    writeDb (Db.dequeue row.msgId)
    return (false, failed)
  | some rel =>
    if failed.contains rel.peerOnion then do
      backOff row
      return (false, failed)
    else do
      let sent ← sendRecord sys row.msgId row.record
      if sent then do
        writeDb (Db.dequeue row.msgId)
        markTransmitted row.msgId
        return (true, failed)
      else do
        backOff row
        return (false, rel.peerOnion :: failed)

def drainRows : List String → List OutboxRow → Action Nat
  | _, [] => return 0
  | failed, row :: rest => do
    let (sent, failed) ← drainRow sys failed row
    let others ← drainRows failed rest
    return if sent then others + 1 else others

def drainOutbox : Action Nat := do
  let now ← now
  let db ← readDb
  let sent ← drainRows sys [] (db.due drainBatch now)
  failExpired
  return sent

end

def closeSettleSecs : Nat := 60

def closingRows (db : Db) : List RelationshipRow :=
  db.relationships.select fun row => row.closeState.isSome

/-- A closing relationship burns once its queue is empty or the settle window
has passed. -/
def settleClosing (row : RelationshipRow) : Action (List EngineEvent) := do
  let now ← now
  let db ← readDb
  let started := (db.closeStartedAt row.relId).getD row.createdAt
  let settled := (db.outbox.select fun entry => entry.relId = row.relId).isEmpty
  if settled || started + closeSettleSecs ≤ now then do
    burnRelationship row.relId
    return [.contactClosed row.relId]
  else return []

def settleAll : List RelationshipRow → Action (List EngineEvent)
  | [] => return []
  | row :: rest => do
    let first ← settleClosing row
    let others ← settleAll rest
    return first ++ others

def sweepIndicators : Action (List EngineEvent) :=
  modifyGet fun eng =>
    let (decayed, presence) := eng.presence.sweep eng.clock
    let (cleared, typing) := eng.typing.sweep eng.clock
    (decayed.map (fun rel => .presence rel false false) ++
        cleared.map (fun rel => .typing rel false),
      { eng with presence, typing })

def pruneAllTombstones (now : Nat) (db : Db) : Db :=
  db.listRelationships.foldl (fun db row => db.pruneTombstones row.relId now) db

def sweep : Action (List EngineEvent) := do
  let now ← now
  writeDb (Db.sweepExpired now)
  let db ← readDb
  let closed ← settleAll (closingRows db)
  let faded ← sweepIndicators
  writeDb (pruneAllTombstones now)
  modify fun eng =>
    { eng with stickerPending := eng.stickerPending.sweep now }
  writeDb (Db.sweepCache now)
  return closed ++ faded

def failOutbound (rel : RelId) : Action Unit := writeDb (Db.failRelationshipOutbound rel)

end SChatCore.Engine
