import SChatCore.Data.Action
import SChatCore.Engine.Ram
import SChatCore.Store.Relationships
import SChatCore.Wire.Record
import SChatCore.Wire.StickerDoc

set_option linter.dupNamespace false

namespace SChatCore.Engine

open Data Wire Store

/-! Errors and events. -/

inductive SessionError
  | broken (reason : String)
  | duplicate
  | malformed (reason : String)
  | noSession
  | tooLarge (size limit : Nat)
  | msgIdConflict
  | store (error : StoreError)
  deriving DecidableEq

inductive SyncError
  | store (error : StoreError)
  | session (error : SessionError)
  | wire (error : WireError)
  | futureTimestamp (sentAt now : Nat)
  | badTransition (source target : DeliveryState)
  deriving DecidableEq

inductive PairingFailure
  | notFound
  | notARequest
  | capReached (what : String)
  | store (error : StoreError)
  deriving DecidableEq

inductive MediaError
  | unsupported (kind : String)
  | decode (reason : String)
  | encode (reason : String)
  | tooLarge (size limit : Nat)
  deriving DecidableEq

inductive EngineError
  | unknownRelationship
  | notActive
  | closing
  | sessionBroken
  | capGated (t : EnvelopeType)
  | policyDenied (t : EnvelopeType)
  | notFound
  | editDenied (reason : String)
  | wire (error : WireError)
  | store (error : StoreError)
  | session (error : SessionError)
  | sync (error : SyncError)
  | pairing (error : PairingFailure)
  | media (error : MediaError)
  deriving DecidableEq

inductive EngineEvent
  | message (rel : RelId) (msgId : MsgId)
  | edited (rel : RelId) (msgId : MsgId)
  | deleted (rel : RelId) (msgId : MsgId)
  | historyCleared (rel : RelId)
  | read (rel : RelId) (msgId : MsgId)
  | typing (rel : RelId) (typing : Bool)
  | presence (rel : RelId) (inApp doNotDisturb : Bool)
  | profileUpdated (rel : RelId)
  | profileRequested (rel : RelId)
  | peerPrefs (rel : RelId)
  | sticker (rel : RelId) (msgId : MsgId) (ready : Bool)
  | stickerPackInstalled (packId : Array16)
  | stickerPackRefused (packId : Array16) (reason : UInt8)
  | stickerThumbs (packId : Array16) (doc : StickerThumbsDoc)
  | attachmentProgress (rel : RelId) (headId : MsgId) (received total : Nat)
  | attachmentComplete (rel : RelId) (headId msgId : MsgId)
  | attachmentFailed (rel : RelId) (headId : MsgId)
  | attachmentChunkDropped (rel : RelId) (headId : MsgId)
  | policyChanged (rel : RelId)
  | contactClosed (rel : RelId)
  | gapDetected (rel : RelId)
  deriving DecidableEq

inductive SignalError
  | duplicatedMessage
  | garbage (reason : String)
  | fatal (reason : String)
  deriving DecidableEq

inductive CiphertextKind
  | signal
  | preKey
  | other (name : String)
  deriving DecidableEq

/-- One call into the ratchet. The calls made so far are its whole state. -/
inductive RatchetCall
  | encrypt (rel : RelId) (plain : Bytes)
  | decrypt (rel : RelId) (frame : Bytes)
  | wipe (rel : RelId)
  deriving DecidableEq

/-- The libraries and the environment. The hash, normalization and signature
check are functions of their arguments; the generator and the socket are
indexed by how often they were used. -/
structure Platform where
  sha256 : Bytes → Array32
  nfc : String → String
  verify : Array32 → Bytes → Bytes → Bool
  loadPackKey : Bytes → Array32 → Except String Unit
  sign : Bytes → Bytes → Bytes
  makeThumbnail : Bytes → Option Bytes
  stripAndReencodeImage : Bytes → Except MediaError Bytes
  randomMsgId : Nat → MsgId
  padding : Nat → Nat → UInt8
  sendRecord : Nat → Bool
  messageEncrypt : List RatchetCall → RelId → Bytes → Except SignalError (CiphertextKind × Bytes)
  parseMessage : CiphertextKind → Bytes → Except String Unit
  messageDecrypt : List RatchetCall → RelId → Bytes → Except SignalError Bytes

/-- A platform that passes everything through: ids count up, the socket
works, a frame is its plaintext behind the tag. -/
def Platform.loopback : Platform where
  sha256 := tally
  nfc := id
  verify := fun _ _ _ => true
  loadPackKey := fun _ _ => .ok ()
  sign := fun _ _ => List.replicate 64 0
  makeThumbnail := fun _ => none
  stripAndReencodeImage := .ok
  randomMsgId := fun index => ⟨toBeBytes 16 index, length_toBeBytes 16 index⟩
  padding := fun _ _ => 0
  sendRecord := fun _ => true
  messageEncrypt := fun _ _ plain => .ok (.signal, plain)
  parseMessage := fun _ _ => .ok ()
  messageDecrypt := fun _ _ frame => .ok frame.tail

/-- `writes` lists what was handed to the socket: the message and its record. -/
structure Engine where
  db : Db
  clock : Nat
  presence : PresenceTable
  typing : TypingTable
  stickerPending : PendingBuffers
  rate : RateTables
  ratchet : List RatchetCall
  draws : Nat
  writes : List (MsgId × Bytes)
  deriving DecidableEq

namespace Engine

def new (db : Db) (clock : Nat) : Engine where
  db := db
  clock := clock
  presence := .empty
  typing := ⟨.empty, .empty⟩
  stickerPending := .empty
  rate := .empty
  ratchet := []
  draws := 0
  writes := []

end Engine

abbrev Action := EStateM EngineError Engine

def now : Action Nat := Engine.clock <$> get

def readDb : Action Db := Engine.db <$> get

def writeDb (change : Db → Db) : Action Unit := modify fun eng => { eng with db := change eng.db }

def updateDb (change : Db → α × Db) : Action α :=
  modifyGet fun eng =>
    ((change eng.db).1, { eng with db := (change eng.db).2 })

/-- A statement that can fail leaves the store as it was. -/
def tryDb (change : Db → Except StoreError Db) : Action Unit := do
  let db ← readDb
  match change db with
  | .ok next => writeDb fun _ => next
  | .error error => throw (.store error)

def wire (result : Except WireError α) : Action α := Action.ofExcept .wire result

def store (result : Except StoreError α) : Action α := Action.ofExcept .store result

def onlyIf (flag : Bool) (action : Action Unit) : Action Unit := if flag then action else pure ()

def rateAllow (surface : Surface) (rel : RelId) : Action Bool :=
  modifyGet fun eng =>
    let (granted, rate) := eng.rate.check surface rel eng.clock
    (granted, { eng with rate })

def loadRelationship (rel : RelId) : Action RelationshipRow := do
  let db ← readDb
  match db.relationship rel with
  | some row => return row
  | none => throw .unknownRelationship

def draw : Action Nat :=
  modifyGet fun eng =>
    (eng.draws, { eng with draws := eng.draws + 1 })

variable (sys : Platform)

def randomMsgId : Action MsgId := sys.randomMsgId <$> draw

def buildRecord (frame : Bytes) : Action Bytes := do
  let index ← draw
  wire (Wire.buildRecord (sys.padding index) frame)

def sendRecord (msgId : MsgId) (record : Bytes) : Action Bool :=
  modifyGet fun eng => (sys.sendRecord eng.writes.length,
    { eng with writes := eng.writes ++ [(msgId, record)] })

section

variable (eng : Engine)

@[simp] theorem run_now : now.run eng = .ok eng.clock eng := rfl

@[simp] theorem run_readDb : readDb.run eng = .ok eng.db eng := rfl

@[simp] theorem run_writeDb (change : Db → Db) : (writeDb change).run eng =
      .ok () { eng with db := change eng.db } :=
  rfl

theorem bind_now : (now >>= next).run eng = (next eng.clock).run eng := rfl

theorem bind_readDb : (readDb >>= next).run eng = (next eng.db).run eng := rfl

theorem bind_writeDb : (writeDb change >>= next).run eng =
      (next ()).run { eng with db := change eng.db } := rfl

@[simp] theorem run_updateDb (change : Db → α × Db) :
    (updateDb change).run eng = .ok (change eng.db).1 { eng with db := (change eng.db).2 } :=
  rfl

theorem run_tryDb (change : Db → Except StoreError Db) :
    (tryDb change).run eng = match change eng.db with
      | .ok db => .ok () { eng with db }
      | .error error => .error (.store error) eng := by
  unfold tryDb
  simp only [EStateM.run_bind, run_readDb]
  cases change eng.db <;> rfl

@[simp] theorem run_rateAllow (surface : Surface) (rel : RelId) : (rateAllow surface rel).run eng =
      .ok (eng.rate.check surface rel eng.clock).1 { eng with rate :=
          (eng.rate.check surface rel eng.clock).2 } :=
  rfl

theorem run_loadRelationship (rel : RelId) : (loadRelationship rel).run eng =
      match eng.db.relationship rel with
      | some row => .ok row eng
      | none => .error .unknownRelationship eng := by
  unfold loadRelationship
  simp only [EStateM.run_bind, run_readDb]
  cases eng.db.relationship rel <;> rfl

@[simp] theorem run_draw : draw.run eng = .ok eng.draws { eng with draws := eng.draws + 1 } := rfl

@[simp] theorem run_randomMsgId : (randomMsgId sys).run eng = .ok (sys.randomMsgId eng.draws)
        { eng with draws := eng.draws + 1 } :=
  rfl

@[simp] theorem run_sendRecord (msgId : MsgId) (record : Bytes) :
    (sendRecord sys msgId record).run eng = .ok (sys.sendRecord eng.writes.length)
        { eng with writes := eng.writes ++ [(msgId, record)] } :=
  rfl

theorem run_buildRecord (frame : Bytes) : (buildRecord sys frame).run eng =
      match Wire.buildRecord (sys.padding eng.draws) frame with
      | .ok record => .ok record { eng with draws := eng.draws + 1 }
      | .error error =>
        .error (.wire error) { eng with draws := eng.draws + 1 } := by
  unfold buildRecord wire
  simp only [EStateM.run_bind, run_draw]
  cases Wire.buildRecord (sys.padding eng.draws) frame <;> rfl

end

open Data.Action

theorem keeps_writeDb (step : ∀ eng, related eng { eng with db := change eng.db }) :
    Keeps related (writeDb change) :=
  step

theorem keeps_updateDb {change : Db → α × Db} (step : ∀ eng,
      related eng { eng with db := (change eng.db).2 }) :
    Keeps related (updateDb change) :=
  step

variable [IsPreorder Engine related]

theorem keeps_now : Keeps related now := keeps_map_get _

theorem keeps_readDb : Keeps related readDb := keeps_map_get _

theorem keeps_clock (rest : ∀ now, Keeps related (next now)) : Keeps related (now >>= next) :=
  keeps_bind keeps_now rest

theorem keeps_read (rest : ∀ db, Keeps related (next db)) : Keeps related (readDb >>= next) :=
  keeps_bind keeps_readDb rest

theorem keeps_wire (result : Except WireError α) : Keeps related (wire result) := keeps_ofExcept _ _

theorem keeps_store (result : Except StoreError α) : Keeps related (store result) :=
  keeps_ofExcept _ _

theorem keeps_onlyIf (flag : Bool) (keeps : Keeps related action) :
    Keeps related (onlyIf flag action) := by
  cases flag with
  | false => exact keeps_pure ()
  | true => exact keeps

theorem keeps_tryDb (step : ∀ eng db, change eng.db = .ok db → related eng { eng with db }) :
    Keeps related (tryDb change) := by
  intro eng
  rw [run_tryDb]
  cases changed : change eng.db with
  | ok db => exact step eng db changed
  | error error => exact refl_of related eng

theorem keeps_loadRelationship (rel : RelId) : Keeps related (loadRelationship rel) := by
  refine keeps_read fun db => ?_
  split
  · exact keeps_pure _
  · exact keeps_throw _

end SChatCore.Engine
