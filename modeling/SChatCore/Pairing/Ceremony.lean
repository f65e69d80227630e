import SChatCore.Pairing.Desk

namespace SChatCore.Pairing

open Data Data.Action Wire Store Engine Transport

/-! The ceremony: one side offers, the other accepts, and the first frame of
the accepter reaches the inviter as an intro. -/

def offerTtlSeconds : Nat := 300

def introMinIntervalSecs : Nat := 1

def maxPendingRequests : Nat := 256

section

variable (sys : PairingPlatform)

structure Offer where
  qrBytes : Bytes
  onion : String
  expiresAt : UInt64
  serviceId : String
  deriving DecidableEq

def clearPending : Ceremony Unit := do
  let desk ← get
  match desk.pending with
  | none => pure ()
  | some pending => do
    removeService pending.serviceId
    modify fun desk => { desk with
      pending := none
      stores := deleteNamespace pendingNamespace desk.stores }

def sweepExpired : Ceremony Unit := do
  let desk ← get
  if desk.pending.any fun pending => pending.expiresAt ≤ desk.eng.clock then
    clearPending
  else pure ()

def abortOffer : Ceremony Unit := clearPending

def generatePersona : Ceremony (Persona sys.identityKeyPair) := do
  let index ← drawIndex
  Action.ofExcept Failure.session (sys.generatePersona index)

def generateClientAuth : Ceremony ClientAuthKeys := do
  let index ← drawIndex
  return clientAuthKeys sys (sys.clientAuthSecret index)

def freshNonce : Ceremony Array32 := sys.nonce <$> drawIndex

variable {sys}

/-- The payload that shows a persona at its own service. -/
def signedPayload (persona : Persona sys.identityKeyPair) (onion : String)
    (clientAuth : ClientAuthKeys) (nonce : Array32) (expiresAt : UInt64) :
    Ceremony PairingPayload := do
  let raw ← Action.ofExcept Failure.transport (rawFromHostname sys.sha3 onion)
  let clientAuthPublic ← Action.ofExcept Failure.transport clientAuth.publicBytes
  sign sys (fromBundle persona raw clientAuthPublic nonce expiresAt) persona.privateKey

variable (sys)

def offer : Ceremony Offer := do
  sweepExpired
  clearPending
  let persona ← generatePersona sys
  let clientAuth ← generateClientAuth sys
  let nonce ← freshNonce sys
  let serviceId := serviceIdFor persona.identityKey.toList
  let onion ← hostServiceWithAuth sys serviceId []
  let expiresAt := UInt64.ofNat ((← clock) + offerTtlSeconds)
  let payload ← signedPayload persona onion clientAuth nonce expiresAt
  storePersona pendingNamespace persona
  modify fun desk => { desk with
    pending := some {
      serviceId, onion
      qrBytes := payload.encode
      clientAuthPrivate := clientAuth.privateB32
      expiresAt := expiresAt.toNat } }
  return { qrBytes := payload.encode, onion, expiresAt, serviceId }

structure Accepted where
  relId : RelId
  sas : String
  peerOnion : String
  onion : String
  deriving DecidableEq

def processBundle (rel : RelId) (payload : PairingPayload) :
    Ceremony Unit := do
  let desk ← get
  match sys.processPreKeyBundle (desk.stores.rowsOf rel) rel payload with
  | .error error => throw (.session (classify error))
  | .ok writes => set { desk with stores := applyWrites rel writes desk.stores }

variable {sys}

def acceptInner (payload : PairingPayload) (persona : Persona sys.identityKeyPair) (rel : RelId)
    (serviceId peerOnion : String) (clientAuth : ClientAuthKeys)
    (nonce : Array32) : Ceremony Accepted := do
  let peerAuth := base32Lower payload.clientAuthPublic.toList
  let onion ← hostServiceWithAuth sys serviceId [peerAuth]
  installClientAuth sys peerOnion clientAuth.privateB32
  storePersona rel persona
  Action.ofExcept (fun detail => .payload (.invalid detail)) (sys.toBundle payload)
  processBundle sys rel payload
  let now ← clock
  let ours ← signedPayload persona onion clientAuth nonce (UInt64.ofNat (now + offerTtlSeconds))
  insertRelationship (newRelationship rel .accepter .active peerOnion ours.encode true now)
    { relId := rel, serviceId, onion
      peerIdentityKey := payload.identityKey
      peerClientAuthPublic := peerAuth
      ourClientAuthPrivate := clientAuth.privateB32
      ourNonce := nonce
      peerNonce := payload.nonce }
  return {
    relId := rel, peerOnion, onion
    sas := sas sys persona.identityKey.toList nonce payload.identityKey payload.nonce }

variable (sys)

def isOwnOffer (desk : Desk) (payload : PairingPayload) : Bool :=
  match desk.pending with
  | none => false
  | some pending =>
    match PairingPayload.decode pending.qrBytes with
    | .error _ => false
    | .ok ours => ours.identityKey = payload.identityKey

def accept (qrBytes : Bytes) : Ceremony Accepted := do
  let now ← clock
  let payload ← Action.ofExcept Failure.payload (PairingPayload.decode qrBytes)
  Action.ofExcept Failure.payload (verify sys payload now true)
  let desk ← get
  if isOwnOffer desk payload then throw .selfPairing
  else do
    let persona ← generatePersona sys
    let rel := relIdFor sys persona.identityKey.toList payload.identityKey
    let desk ← get
    if (desk.eng.db.relationship rel).isSome then throw .contactExists
    else do
      let clientAuth ← generateClientAuth sys
      let nonce ← freshNonce sys
      let serviceId := serviceIdFor persona.identityKey.toList
      let host ← Action.ofExcept Failure.payload (onionHostname sys payload.onion)
      match ← attempt (acceptInner payload persona rel serviceId
          (host ++ ".onion") clientAuth nonce) with
      | .ok accepted => return accepted
      | .error error => do
        removeService serviceId
        modify fun desk => { desk with
          stores := deleteNamespace rel desk.stores }
        throw error

inductive Ingest
  | requestReceived (rel : RelId) (sas : String) (plain : Bytes)
  | message (rel : RelId) (plain : Bytes)
  | duplicate
  | sessionBroken (rel : RelId) (reason : String)
  | dropped
  deriving DecidableEq

def parsePreKeyFrame (frame : Bytes) : Except SessionError Bytes :=
  match parseFrame frame with
  | .error error => .error error
  | .ok (kind, rest) =>
    if kind ≠ .preKey then .error (.malformed "not a pre-key frame")
    else
      match sys.parseMessage .preKey rest with
      | .error reason => .error (.malformed reason)
      | .ok () => .ok (sys.preKeyIdentity rest)

def introThrottled (serviceId : String) : Ceremony Bool := do
  let desk ← get
  let now := desk.eng.clock
  if now - desk.introAt serviceId < introMinIntervalSecs then return true
  else do
    set { desk with introAt := Function.update desk.introAt serviceId now }
    return false

/-- A known relationship is let in again. -/
def requestBucketFull (db : Db) (rel : RelId) : Bool :=
  let requests := db.relationships.select fun row =>
    row.state = .request && row.role = .inviter
  maxPendingRequests ≤ requests.length && (db.relationship rel).isNone

structure Intro where
  payload : PairingPayload
  frame : Bytes
  ours : Bytes
  theirs : Bytes
  relId : RelId

def screenIntro (pending : PendingRow) (intro : Option Bytes)
    (record : Bytes) : Ceremony (Option Intro) := do
  let now ← clock
  match intro with
  | none => return none
  | some bytes =>
    match PairingPayload.decode bytes with
    | .error _ => return none
    | .ok payload =>
      match verify sys payload now false with
      | .error _ => return none
      | .ok () =>
        match parseRecord record with
        | .error _ => return none
        | .ok frame =>
          match parsePreKeyFrame sys frame with
          | .error _ => return none
          | .ok theirs =>
            if theirs ≠ payload.identityKey then return none
            else do
              let desk ← get
              let ours ← Action.ofExcept id (ourIdentityKey sys pendingNamespace desk.stores)
              if theirs = ours then return none
              else if ← introThrottled pending.serviceId then
                return none
              else
                let rel := relIdFor sys ours theirs
                if requestBucketFull desk.eng.db rel then
                  return none
                else
                  return some { payload, frame, ours, theirs, relId := rel }

def movePersona (rel : RelId) : Ceremony Unit := do
  let desk ← get
  let (went, stores) := migrateNamespace pendingNamespace rel desk.stores
  set { desk with stores }
  if went then pure ()
  else throw (.store (.corrupt "migrate_namespace"))

/-- The ratchet's answer to the first frame; what it wrote is in the stores. -/
def decryptPreKeyMessage (rel : RelId) (frame : Bytes) : Ceremony (Except SignalError Bytes) := do
  let _ ← viaEngine (callRatchet (.decrypt rel frame))
  let desk ← get
  match sys.messageDecryptPreKey (desk.stores.rowsOf rel) rel frame with
  | .error error => return .error error
  | .ok (plain, writes) => do
    set { desk with stores := applyWrites rel writes desk.stores }
    return .ok plain

def restorePersona (rel : RelId) : Ceremony Unit :=
  modify fun desk => { desk with
    stores := deleteNamespace rel (migrateNamespace rel pendingNamespace desk.stores).2 }

def fileRequest (pending : PendingRow) (intro : Intro) (plain : Bytes) :
    Ceremony Ingest := do
  let host ← Action.ofExcept Failure.payload (onionHostname sys intro.payload.onion)
  let peerOnion := host ++ ".onion"
  let ourOffer ← Action.ofExcept Failure.payload (PairingPayload.decode pending.qrBytes)
  let now ← clock
  insertRelationship (newRelationship intro.relId .inviter .request peerOnion pending.qrBytes
      false now)
    { relId := intro.relId
      serviceId := pending.serviceId
      onion := pending.onion
      peerIdentityKey := intro.theirs
      peerClientAuthPublic := base32Lower intro.payload.clientAuthPublic.toList
      ourClientAuthPrivate := pending.clientAuthPrivate
      ourNonce := ourOffer.nonce
      peerNonce := intro.payload.nonce }
  modify fun desk => { desk with pending := none }
  installClientAuth sys peerOnion pending.clientAuthPrivate
  return .requestReceived intro.relId
    (sas sys intro.ours ourOffer.nonce intro.theirs intro.payload.nonce)
    plain

def openIntro (pending : PendingRow) (intro : Intro) : Ceremony Ingest := do
  movePersona intro.relId
  match ← decryptPreKeyMessage sys intro.relId intro.frame with
  | .error _ => do
    restorePersona intro.relId
    return .dropped
  | .ok plain => fileRequest sys pending intro plain

def ingestIntro (pending : PendingRow) (intro : Option Bytes)
    (record : Bytes) : Ceremony Ingest := do
  match ← screenIntro sys pending intro record with
  | none => return .dropped
  | some intro => openIntro sys pending intro

def ingestMessage (serviceId : String) (record : Bytes) : Ceremony Ingest := do
  let desk ← get
  match loadRelationshipByService desk serviceId with
  | none => return .dropped
  | some row =>
    match parseRecord record with
    | .error _ => return .dropped
    | .ok frame =>
      let now ← clock
      match ← onEngine (decrypt sys.toPlatform row.relId frame now) with
      | .ok plain => return .message row.relId plain
      | .error (.session .duplicate) => return .duplicate
      | .error (.session (.broken reason)) => return .sessionBroken row.relId reason
      | .error _ => return .dropped

def ingestFrame (serviceId : String) (intro : Option Bytes) (record : Bytes) :
    Ceremony Ingest := do
  let desk ← get
  match desk.pending with
  | some pending =>
    if pending.serviceId = serviceId then
      ingestIntro sys pending intro record
    else ingestMessage sys serviceId record
  | none => ingestMessage sys serviceId record

def ingestDrop (serviceId : String) (intro : Option Bytes) (record : Bytes) :
    Ceremony Unit := do
  match ← ingestFrame sys serviceId intro record with
  | .requestReceived rel _ plain
  | .message rel plain => do
    let _ ← viaEngine (handlePlaintext sys.toPlatform rel plain)
  | _ => pure ()

def received : EStateM.Result Failure Desk Ingest → Bool
  | .ok (.requestReceived _ _ _) _ => true
  | _ => false

end

def host : PairingPayload := { PairingPayload.shortest with
  onion := onionRaw PairingPlatform.loopback.sha3 (List.Vector.replicate 32 1) }

def guest : PairingPayload := { PairingPayload.shortest with
  identityKey := [6]
  onion := onionRaw PairingPlatform.loopback.sha3 (List.Vector.replicate 32 2) }

def hosted : PendingRow where
  serviceId := "service"
  onion := hostnameFromPubkey PairingPlatform.loopback.sha3 (List.Vector.replicate 32 1) ++ ".onion"
  qrBytes := host.encode
  clientAuthPrivate := ""
  expiresAt := 300

def hostLocal : NamespacedRow StoreTable.locals.Id StoreTable.locals.Record where
  owner := pendingNamespace
  id := ()
  record := { registrationId := 1, identityKeyPair := [5] }

def inviting : Desk := { Desk.new (Engine.new .empty 1) with
  pending := some hosted
  stores := Stores.empty.put .locals ⟨[hostLocal], List.nodup_singleton _⟩ }

/-- The frame is the tag of a pre-key message and the key of its sender. -/
def guestFrame : Bytes := [tagPreKey, 6]

def guestRecord : Bytes := [2, 0, 2] ++ guestFrame ++ List.replicate 251 0

def guestRelId : RelId := relIdFor .loopback [5] [6]

end SChatCore.Pairing
