import SChatCore.Engine.Sync
import SChatCore.Policy.Store

namespace SChatCore.Engine

open Data Wire Store Policy

/-! Capabilities. -/

/-- The bit a type needs before either side may speak it. -/
def requiredCap : EnvelopeType → Option UInt32
  | .sticker | .stickerCtrl => some Caps.capSticker
  | .presence => some Caps.capPresence
  | .typing => some Caps.capTyping
  | .read => some Caps.capRead
  | .chatPolicy => some Caps.capPolicy
  | _ => none

def allows (peerCaps : UInt32) (t : EnvelopeType) : Bool := (requiredCap t).all (Caps.has peerCaps)

/-- A closing relationship still settles its own control frames. -/
def settlesClose : EnvelopeType → Bool
  | .deleteAll | .contactClose | .resyncReq => true
  | _ => false

def policyDenies (policy : PolicyState) : EnvelopeType → Bool
  | .typing => !policy.typing
  | .presence => !policy.presence
  | .read => !policy.receipts
  | .sticker | .stickerCtrl => !policy.emoji
  | .attachHead | .attachChunk => !policy.attachments
  | _ => false

def gateOutbound (db : Db) (row : RelationshipRow) (t : EnvelopeType) :
    Except EngineError Unit :=
  if row.sessionState = .broken then .error .sessionBroken
  else if row.role = .inviter ∧ row.state = .request then .error .notActive
  else if (db.closeState row.relId).isSome ∧ ¬ settlesClose t then
    .error .closing
  else if ¬ allows (db.peerCaps row.relId) t then .error (.capGated t)
  else
    match loadPolicy db row.relId with
    | .error error => .error (.store error)
    | .ok policy => if policyDenies policy t then .error (.policyDenied t) else .ok ()

structure Sent where
  msgId : MsgId
  appSeq : UInt64
  deriving DecidableEq

def outboundMessage (rel : RelId) (env : Envelope) (now : Nat)
    (payload : Bytes) (expiresAt : Option Nat) : NewMessage where
  msgId := env.msgId
  relId := rel
  direction := .out
  appSeq := env.appSeq
  sentAt := now
  receivedAt := none
  envType := env.envelopeType.code
  refId := env.refId
  payload := payload
  state := .queued
  expiresAt := expiresAt

variable (sys : Platform)

def attemptRecord (msgId : MsgId) (record : Bytes) : Action Unit := do
  let sent ← sendRecord sys msgId record
  if sent then do
    writeDb (Db.dequeue msgId)
    markTransmitted msgId
  else pure ()

def commitEnvelope (rel : RelId) (env : Envelope) (now : Nat) (record : Bytes) : Action Unit := do
  let db ← readDb
  let expiry ← store (messageExpiry db rel now)
  let payload ← wire (env.payload.encode sys.nfc)
  tryDb (Db.insertMessage now (outboundMessage rel env now payload expiry))
  tryDb (Db.enqueue env.msgId rel record messageTtlSecs now)
  attemptRecord sys env.msgId record

def sendEnvelope (rel : RelId) (payload : Payload) (refId : Option MsgId) :
    Action Sent := do
  let row ← loadRelationship rel
  let db ← readDb
  Action.ofExcept id (gateOutbound db row payload.envelopeType)
  let now ← now
  let appSeq ← updateDb (Db.nextOutSeq rel)
  let msgId ← randomMsgId sys
  let env : Envelope := { msgId, appSeq, sentAt := UInt64.ofNat now, refId, payload }
  let plain ← wire (env.encode sys.nfc)
  let frame ← encrypt sys rel msgId plain now
  let record ← buildRecord sys frame
  commitEnvelope sys rel env now record
  return { msgId, appSeq }

def sendAll (rel : RelId) (payloads : List Payload) : Action Unit :=
  payloads.forM fun payload => do
    let _ ← sendEnvelope sys rel payload none

def burnRelationship (rel : RelId) : Action Unit := do
  let db ← readDb
  match db.relationship rel with
  | none => pure ()
  | some _ => modify fun eng => { eng with
      db := eng.db.burn rel
      ratchet := eng.ratchet ++ [.wipe rel]
      presence := eng.presence.forget rel
      typing := eng.typing.forget rel
      stickerPending := .empty }

variable (sys : Platform)

def requestResync (rel : RelId) : Action Unit := do
  let request ← buildRequest sys rel
  let _ ← sendEnvelope sys rel (.resyncReq request) none

def sendProfile (rel : RelId) : Action Unit := do
  let db ← readDb
  if db.ourProfile.name.isEmpty then pure ()
  else do
    let _ ← sendEnvelope sys rel (.profile db.ourProfile) none

/-- The policy half of the activation burst: a peer that has not advertised
the capability yet is no error. -/
def offerSync (rel : RelId) : Action Unit := do
  let db ← readDb
  let state ← store (loadPolicy db rel)
  let now ← now
  let (next, sync) := buildSync state now
  let sent ← Action.attempt (sendEnvelope sys rel (.chatPolicy sync) none)
  match sent with
  | .ok _ => writeDb (savePolicy rel next)
  | .error (.capGated _) => pure ()
  | .error error => throw error

def onRelationshipActive (rel : RelId) : Action Unit := do
  requestResync sys rel
  sendProfile sys rel
  offerSync sys rel

def resyncReqMinSecs : Nat := 10

def maybeRequestResync (rel : RelId) : Action (List EngineEvent) := do
  let now ← now
  let db ← readDb
  if now < db.resyncReqAt rel + resyncReqMinSecs then return []
  else do
    writeDb (Db.setResyncReqAt rel now)
    requestResync sys rel
    return [.gapDetected rel]

/-- The throttled policy answer: `state` is what the columns hold. -/
def replySync (rel : RelId) (state : PolicyState) : Action Unit := do
  let now ← now
  if now ≥ state.lastSyncAt + syncReplyMinSec then do
    let (next, sync) := buildSync state now
    writeDb (savePolicy rel next)
    let _ ← sendEnvelope sys rel (.chatPolicy sync) none
  else pure ()

end SChatCore.Engine
