import SChatCore.Engine.Drain
import SChatCore.Engine.Inbound

namespace SChatCore.Engine

open Data Wire Store Policy

/-! Pairing: a relationship row as it is first written. -/

def maxRelationships : Nat := 1024

def newRelationship (rel : RelId) (role : Role) (state : RelationshipState)
    (peerOnion : String) (ourQrBytes : Bytes) (introPending : Bool)
    (now : Nat) : RelationshipRow where
  relId := rel
  role := role
  state := state
  peerOnion := peerOnion
  ourQrBytes := ourQrBytes
  introPending := introPending
  sessionState := .active
  createdAt := now
  peerCaps := 0
  policyTtlSec := 86400
  policyFlags := 3
  policyWants := 0x7c7c
  policyPending := none
  policyLastSyncAt := 0
  closeState := none
  historyCutSeq := 0
  peerPrefs := none

def paired (row : RelationshipRow) : Db :=
  { Db.empty with relationships := ⟨[row], List.nodup_singleton _⟩ }

@[simp] theorem relationship_paired (row : RelationshipRow) :
    (paired row).relationship row.relId = some row := by
  simp [paired, Db.relationship, Table.lookup]

def insertRelationship (row : RelationshipRow) : Action Unit := do
  let db ← readDb
  if db.relationships.rows.length ≥ maxRelationships then
    throw (.pairing (.capReached s!"relationships ({maxRelationships})"))
  else
    match db.relationships.insert row with
    | some relationships => writeDb fun db => { db with relationships }
    | none => throw (.pairing (.store (.constraint "relationships")))

variable (sys : Platform)

def acceptRequest (rel : RelId) : Action Unit := do
  let db ← readDb
  match db.relationship rel with
  | none => throw (.pairing .notFound)
  | some row =>
    if row.state ≠ .request then throw (.pairing .notARequest)
    else do
      writeDb (Db.updateRelationship rel (fun row => { row with state := .active }) fun _ => rfl)
      onRelationshipActive sys rel

/-- Our own text message, inside the window and under the cap. -/
def canOfferEdit (row : MessageRow) (now : Nat) : Bool :=
  row.direction = .out && row.envType = EnvelopeType.msg.code &&
    !row.tombstone && row.editCount < editMaxEdits &&
    now < row.sentAt + editWindowSec

/-- `Msg::new` refuses the sizes its codec refuses. -/
def newBody (field body : String) : Action String := do
  let _ ← wire (encodeBody field body)
  return body

def sendText (rel : RelId) (body : String) (replyTo : Option MsgId) :
    Action MsgId := do
  if (asBytes body).length > maxBodyBytes then
    throw (.editDenied "body too large")
  else do
    let body ← newBody "msg.body" body
    let sent ← sendEnvelope sys rel (.msg { body }) replyTo
    pushInlineEmoji sys rel body
    return sent.msgId

def sendEdit (rel : RelId) (target : MsgId) (body : String) :
    Action MsgId := do
  let db ← readDb
  let now ← now
  match db.message target with
  | none => throw .notFound
  | some row =>
    if row.relId ≠ rel then throw .notFound
    else if ¬ canOfferEdit row now then
      throw (.editDenied "window closed, cap reached, or not our text")
    else do
      let body ← newBody "edit.body" body
      let sent ← sendEnvelope sys rel (.edit { body }) (some target)
      writeDb (Db.markEdited target (asBytes body) sent.appSeq)
      return sent.msgId

def sendDelete (rel : RelId) (target : MsgId) : Action MsgId := do
  let sent ← sendEnvelope sys rel .delete (some target)
  let now ← now
  writeDb (Db.markTombstoned target)
  writeDb (Db.addTombstone rel target now)
  return sent.msgId

def sendDeleteAll (rel : RelId) : Action MsgId := do
  let sent ← sendEnvelope sys rel .deleteAll none
  writeDb (Db.raiseHistoryCut rel sent.appSeq)
  writeDb (Db.eraseHistory rel [sent.msgId])
  return sent.msgId

def sendTyping (rel : RelId) (typing : Bool) : Action Unit := do
  let eng ← get
  if typing && !eng.typing.shouldSend rel eng.clock then pure ()
  else do
    onlyIf typing (modify fun eng =>
      { eng with typing := eng.typing.noteSent rel eng.clock })
    let _ ← sendEnvelope sys rel (.typing { typing }) none

def sendPresence (rel : RelId) (inApp doNotDisturb : Bool) :
    Action Unit := do
  let _ ← sendEnvelope sys rel (.presence { inApp, doNotDisturb }) none

def sendRead (rel : RelId) (target : MsgId) : Action Unit := do
  let _ ← sendEnvelope sys rel .read (some target)

def enterClosing (rel : RelId) : Action Unit := do
  let db ← readDb
  let now ← now
  if (db.closeState rel).isSome then pure ()
  else do
    writeDb (Db.setClosing rel)
    writeDb (Db.setCloseStartedAt rel now)

def closeContact (rel : RelId) : Action Unit := do
  let db ← readDb
  if (db.closeState rel).isSome then pure ()
  else do
    enterClosing rel
    let deleteAll ← sendEnvelope sys rel .deleteAll none
    let close ← sendEnvelope sys rel .contactClose none
    writeDb (Db.raiseHistoryCut rel (max deleteAll.appSeq close.appSeq))
    writeDb (Db.eraseHistory rel [deleteAll.msgId, close.msgId])

def sendProfileReq (rel : RelId) : Action Unit := do
  let _ ← sendEnvelope sys rel .profileReq none

def sendPrefs (rel : RelId) (pref : Pref) : Action Unit := do
  let _ ← sendEnvelope sys rel (.pref pref) none

def proposeRules (rel : RelId) (ttlSec : UInt32)
    (screenshot attachDownload : Bool) : Action Unit := do
  let db ← readDb
  let state ← store (loadPolicy db rel)
  let proposeId ← randomMsgId sys
  match buildPropose state ttlSec screenshot attachDownload proposeId with
  | none => throw (.editDenied "disallowed TTL")
  | some (next, policy) => do
    writeDb (savePolicy rel next)
    let _ ← sendEnvelope sys rel (.chatPolicy policy) none

def acceptRules (rel : RelId) : Action (List EngineEvent) := do
  let db ← readDb
  let state ← store (loadPolicy db rel)
  let now ← now
  match buildAccept state now with
  | none => throw (.editDenied "no inbound proposal pending")
  | some (next, policy, outcome) => do
    writeDb (savePolicy rel next)
    let events ← applyOutcome rel outcome
    let _ ← sendEnvelope sys rel (.chatPolicy policy) none
    return events

def declineRules (rel : RelId) : Action Unit := do
  let db ← readDb
  let state ← store (loadPolicy db rel)
  writeDb (savePolicy rel { state with pending := none })

def setCapability (rel : RelId) (capId : UInt8) (on : Bool) : Action (List EngineEvent) := do
  let db ← readDb
  let state ← store (loadPolicy db rel)
  match buildCapSet state capId on with
  | none => return []
  | some (next, policy, outcome) => do
    writeDb (savePolicy rel next)
    let events ← applyOutcome rel outcome
    let _ ← sendEnvelope sys rel (.chatPolicy policy) none
    return events

/-! One inbound frame: the session layer, then the envelope. -/

def receiveFrame (rel : RelId) (frame : Bytes) : Action (List EngineEvent) := do
  let now ← now
  let plain ← decrypt sys rel frame now
  handlePlaintext sys rel plain

/-! What the application has an engine do, the passing of time included. -/

inductive Call
  | acceptRequest (rel : RelId)
  | onRelationshipActive (rel : RelId)
  | sendText (rel : RelId) (body : String) (replyTo : Option MsgId)
  | sendEdit (rel : RelId) (target : MsgId) (body : String)
  | sendDelete (rel : RelId) (target : MsgId)
  | sendDeleteAll (rel : RelId)
  | sendTyping (rel : RelId) (typing : Bool)
  | sendPresence (rel : RelId) (inApp doNotDisturb : Bool)
  | sendRead (rel : RelId) (target : MsgId)
  | closeContact (rel : RelId)
  | sendProfile (rel : RelId)
  | sendProfileReq (rel : RelId)
  | sendPrefs (rel : RelId) (pref : Pref)
  | proposeRules (rel : RelId) (ttlSec : UInt32)
      (screenshot attachDownload : Bool)
  | acceptRules (rel : RelId)
  | declineRules (rel : RelId)
  | setCapability (rel : RelId) (capId : UInt8) (on : Bool)
  | sendAttachment (rel : RelId) (spec : AttachmentSpec)
  | attachmentViewed (headId : MsgId)
  | sendSticker (rel : RelId) (packId : Array16) (itemId : UInt16)
  | fetchPack (rel : RelId) (packId : Array16) (packPk : Array32)
  | fetchThumbs (rel : RelId) (packId : Array16) (packPk : Array32)
  | drainOutbox
  | sweep
  | failOutbound (rel : RelId)
  | tick (seconds : Nat)

def tick (seconds : Nat) : Action Unit :=
  modify fun eng => { eng with clock := eng.clock + seconds }

def Call.run (sys : Platform) : Call → Action Unit
  | .acceptRequest rel => Engine.acceptRequest sys rel
  | .onRelationshipActive rel => Engine.onRelationshipActive sys rel
  | .sendText rel body replyTo => do
    let _ ← Engine.sendText sys rel body replyTo
  | .sendEdit rel target body => do
    let _ ← Engine.sendEdit sys rel target body
  | .sendDelete rel target => do
    let _ ← Engine.sendDelete sys rel target
  | .sendDeleteAll rel => do
    let _ ← Engine.sendDeleteAll sys rel
  | .sendTyping rel typing => Engine.sendTyping sys rel typing
  | .sendPresence rel inApp doNotDisturb => Engine.sendPresence sys rel inApp doNotDisturb
  | .sendRead rel target => Engine.sendRead sys rel target
  | .closeContact rel => Engine.closeContact sys rel
  | .sendProfile rel => Engine.sendProfile sys rel
  | .sendProfileReq rel => Engine.sendProfileReq sys rel
  | .sendPrefs rel pref => Engine.sendPrefs sys rel pref
  | .proposeRules rel ttlSec screenshot attachDownload =>
    Engine.proposeRules sys rel ttlSec screenshot attachDownload
  | .acceptRules rel => do
    let _ ← Engine.acceptRules sys rel
  | .declineRules rel => Engine.declineRules rel
  | .setCapability rel capId on => do
    let _ ← Engine.setCapability sys rel capId on
  | .sendAttachment rel spec => do
    let _ ← Engine.sendAttachment sys rel spec
  | .attachmentViewed headId => Engine.attachmentViewed headId
  | .sendSticker rel packId itemId => do
    let _ ← Engine.sendSticker sys rel packId itemId
  | .fetchPack rel packId packPk => Engine.fetchPack sys rel packId packPk
  | .fetchThumbs rel packId packPk => Engine.fetchThumbs sys rel packId packPk
  | .drainOutbox => do
    let _ ← Engine.drainOutbox sys
  | .sweep => do
    let _ ← Engine.sweep
  | .failOutbound rel => Engine.failOutbound rel
  | .tick seconds => Engine.tick seconds

end SChatCore.Engine
