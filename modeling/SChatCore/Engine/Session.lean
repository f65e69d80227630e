import SChatCore.Engine.State
import SChatCore.Store.Outbox

namespace SChatCore.Engine

open Data Wire Store

/-! The session layer: one ciphertext per message id, a replay cache in front
of the ratchet, and the broken state. -/

def tagSignal : UInt8 := 2

def tagPreKey : UInt8 := 3

def inboundFrameTtlSecs : Nat := 86400

inductive SessionState
  | none
  | active
  | broken
  deriving DecidableEq

def sessionState (db : Db) (rel : RelId) : SessionState :=
  match db.relationship rel with
  | .none => .none
  | some row =>
    match row.sessionState with
    | .broken => .broken
    | .active => .active

theorem sessionState_updateRelationship (db : Db)
    (kept : ∀ row, (assign row).sessionState = row.sessionState) :
    sessionState (db.updateRelationship rel assign keepsKey) rel =
      sessionState db rel := by
  unfold sessionState
  rw [Db.relationship_updateRelationship, if_pos rfl]
  cases db.relationship rel with
  | none => rfl
  | some row => simp only [Option.map_some, kept]

def relationshipBroken : SessionError := .broken "relationship is broken"

/-- The relationship is re-pair only, and what it still had to deliver
fails. -/
def markBroken (rel : RelId) : Action Unit :=
  writeDb fun db => (db.setBroken rel).failRelationshipOutbound rel

/-- Records the call and returns what the ratchet had seen before it. -/
def callRatchet (call : RatchetCall) : Action (List RatchetCall) :=
  modifyGet fun eng =>
    (eng.ratchet, { eng with ratchet := eng.ratchet ++ [call] })

def classify : SignalError → SessionError
  | .duplicatedMessage => .duplicate
  | .garbage reason => .malformed reason
  | .fatal reason => .broken reason

def failSession (rel : RelId) (error : SignalError) : Action α :=
  match classify error with
  | .broken reason => do
    markBroken rel
    throw (.session (.broken reason))
  | other => throw (.session other)

def frameOf : CiphertextKind → Bytes → Except SessionError Bytes
  | .signal, body => .ok (tagSignal :: body)
  | .preKey, body => .ok (tagPreKey :: body)
  | .other name, _ => .error (.malformed s!"unexpected ciphertext type {name}")

def storeCiphertext (msgId : MsgId) (rel : RelId) (frameBytes : Bytes)
    (createdAt : Nat) (db : Db) : Except StoreError Db :=
  match db.ciphertexts.insert { msgId, relId := rel, frameBytes, createdAt } with
  | some ciphertexts => .ok { db with ciphertexts }
  | none => .error (.constraint "message_ciphertexts")

theorem storeCiphertext_eq_ok {now : Nat}
    (stored : storeCiphertext msgId rel frame now before = .ok after) :
    ∃ ciphertexts, before.ciphertexts.insert ⟨msgId, rel, frame, now⟩ =
      some ciphertexts ∧ after = { before with ciphertexts } := by
  unfold storeCiphertext at stored
  split at stored
  · rename_i ciphertexts inserted
    cases stored
    exact ⟨ciphertexts, inserted, rfl⟩
  · cases stored

variable (sys : Platform)

def encryptFresh (rel : RelId) (msgId : MsgId) (plain : Bytes) (now : Nat) : Action Bytes := do
  let history ← callRatchet (.encrypt rel plain)
  match sys.messageEncrypt history rel plain with
  | .error error => failSession rel error
  | .ok (kind, body) => do
    let frame ← Action.ofExcept .session (frameOf kind body)
    tryDb (storeCiphertext msgId rel frame now)
    return frame

theorem run_encryptFresh {now : Nat} : (encryptFresh sys rel msgId plain now).run eng =
      (match sys.messageEncrypt eng.ratchet rel plain with
        | .error error => failSession rel error
        | .ok (kind, body) => do
          let frame ← Action.ofExcept .session (frameOf kind body)
          tryDb (storeCiphertext msgId rel frame now)
          return frame : Action Bytes).run { eng with
            ratchet := eng.ratchet ++ [.encrypt rel plain] } := rfl

def encrypt (rel : RelId) (msgId : MsgId) (plain : Bytes) (now : Nat) :
    Action Bytes := do
  let db ← readDb
  if plain.length > maxEnvelopeBytes then
    throw (.session (.tooLarge plain.length maxEnvelopeBytes))
  else
    match sessionState db rel with
    | .broken => throw (.session relationshipBroken)
    | .none => throw (.session .noSession)
    | .active =>
      match db.ciphertexts.lookup msgId with
      | some row =>
        if row.relId ≠ rel then throw (.session .msgIdConflict)
        else return row.frameBytes
      | none => encryptFresh sys rel msgId plain now

def isKnownInboundFrame (db : Db) (rel : RelId) (frame : Bytes) : Bool :=
  (db.inboundFrames.lookup (rel, sys.sha256 frame)).isSome

def noteInboundFrame (rel : RelId) (frame : Bytes) (now : Nat) (db : Db) :
    Db :=
  { db with
    inboundFrames := db.inboundFrames.insertOrIgnore {
      relId := rel
      frameHash := sys.sha256 frame
      expiresAt := now + inboundFrameTtlSecs } }

def parseFrame : Bytes → Except SessionError (CiphertextKind × Bytes)
  | [] => .error (.malformed "empty frame")
  | tag :: rest =>
    if tag = tagSignal then .ok (.signal, rest)
    else if tag = tagPreKey then .ok (.preKey, rest)
    else
      let digits := hexEncode [tag]
      .error (.malformed s!"unknown ciphertext tag 0x{digits}")

/-- The ratchet call of `decrypt`. A frame that goes through retires the
intro and enters the replay cache. -/
def decryptFresh (rel : RelId) (frame : Bytes) (now : Nat) :
    Action Bytes := do
  let history ← callRatchet (.decrypt rel frame)
  match sys.messageDecrypt history rel frame with
  | .error error => failSession rel error
  | .ok plain => do
    writeDb (Db.clearIntroPending rel)
    writeDb (noteInboundFrame sys rel frame now)
    return plain

def decrypt (rel : RelId) (frame : Bytes) (now : Nat) : Action Bytes := do
  let db ← readDb
  if sessionState db rel = .broken then
    throw (.session relationshipBroken)
  else if isKnownInboundFrame sys db rel frame then
    throw (.session .duplicate)
  else do
    let (kind, rest) ← Action.ofExcept .session (parseFrame frame)
    match sys.parseMessage kind rest with
    | .error reason => throw (.session (.malformed reason))
    | .ok () => decryptFresh sys rel frame now

end SChatCore.Engine
