import SChatCore.Engine.Api
import SChatCore.Pairing.Payload
import SChatCore.Pairing.Stores

set_option linter.dupNamespace false

namespace SChatCore.Pairing

open Data Data.Action Wire Store Engine Transport

/-! Where pairing happens: an engine, the ratchet's stores, the outstanding
invitation and the transport. -/

inductive Failure
  | payload (error : PairingError)
  | session (error : SessionError)
  | transport (error : TransportError)
  | store (error : StoreError)
  | sqlite (detail : String)
  | contactExists
  | selfPairing
  | notFound
  | eng (error : EngineError)
  deriving DecidableEq

/-- A signed key as its record is stored, and as a bundle shows it. -/
structure SignedKey (size : Nat) where
  record : Bytes
  publicKey : List.Vector UInt8 size
  signature : List.Vector UInt8 64

/-- The key material of one relationship. The serialized pair parses to its
own public key. -/
structure Persona (identityKeyPair : Bytes → Except String Bytes) where
  keyPair : Bytes
  privateKey : Bytes
  identityKey : List.Vector UInt8 33
  parses : identityKeyPair keyPair = .ok identityKey.toList
  registrationId : UInt32
  signedPreKey : SignedKey 33
  kyberPreKey : SignedKey 1569
  oneTimePreKey : Bytes
  oneTimePublic : List.Vector UInt8 33

inductive TransportCall
  | hostService (serviceId : String) (clientAuth : List String)
  | installClientAuth (peerOnion privateB32 : String)
  | removeService (serviceId : String)
  deriving DecidableEq

/-- The libraries pairing needs besides the engine's. The transport answers by
the calls made to it so far. -/
structure PairingPlatform extends Platform where
  sha3 : Bytes → Array32
  x25519 : Array32 → Array32
  clientAuthSecret : Nat → Array32
  nonce : Nat → Array32
  identityKeyPair : Bytes → Except String Bytes
  generatePersona : Nat → Except SessionError (Persona identityKeyPair)
  calculateSignature : Nat → Bytes → Bytes → Except String (List.Vector UInt8 64)
  identityKey : Bytes → Except String Unit
  verifySignature : Bytes → Bytes → Bytes → Bool
  preKeyIdentity : Bytes → Bytes
  toBundle : PairingPayload → Except String Unit
  processPreKeyBundle : Keyring → RelId → PairingPayload → Except SignalError (List StoreWrite)
  messageDecryptPreKey : Keyring → RelId → Bytes → Except SignalError (Bytes × List StoreWrite)
  hostService : List TransportCall → Except TransportError Array32
  installClientAuth : List TransportCall → Except TransportError Unit

/-- A platform that passes everything through: keys count up, a key pair is its
public key, a pre-key message is the identity of its sender. -/
def PairingPlatform.loopback : PairingPlatform := { Platform.loopback with
  sha3 := fun _ => List.Vector.replicate 32 0
  x25519 := id
  clientAuthSecret := fun index =>
    ⟨toBeBytes 32 index, length_toBeBytes 32 index⟩
  nonce := fun index => ⟨toBeBytes 32 index, length_toBeBytes 32 index⟩
  identityKeyPair := .ok
  generatePersona := fun index => .ok {
    keyPair := toBeBytes 33 index
    privateKey := toBeBytes 33 index
    identityKey := ⟨toBeBytes 33 index, length_toBeBytes 33 index⟩
    parses := rfl
    registrationId := 1
    signedPreKey := ⟨[1], List.Vector.replicate 33 5, List.Vector.replicate 64 0⟩
    kyberPreKey := ⟨[1], List.Vector.replicate 1569 8, List.Vector.replicate 64 0⟩
    oneTimePreKey := [1]
    oneTimePublic := List.Vector.replicate 33 5 }
  calculateSignature := fun _ _ _ => .ok (List.Vector.replicate 64 0)
  identityKey := fun _ => .ok ()
  verifySignature := fun _ _ _ => true
  preKeyIdentity := id
  toBundle := fun _ => .ok ()
  processPreKeyBundle := fun _ _ _ => .ok []
  messageDecryptPreKey := fun _ _ frame => .ok (frame.tail, [])
  hostService := fun calls =>
    .ok ⟨toBeBytes 32 calls.length, length_toBeBytes 32 calls.length⟩
  installClientAuth := fun _ => .ok () }

structure PendingRow where
  serviceId : String
  onion : String
  qrBytes : Bytes
  clientAuthPrivate : String
  expiresAt : Nat
  deriving DecidableEq

/-- The columns of a relationship that only pairing reads. -/
structure PairingRow where
  relId : RelId
  serviceId : String
  onion : String
  peerIdentityKey : Bytes
  peerClientAuthPublic : String
  ourClientAuthPrivate : String
  ourNonce : Array32
  peerNonce : Array32
  deriving DecidableEq

structure Desk where
  eng : Engine
  pending : Option PendingRow
  introAt : String → Nat
  stores : Stores
  pairings : Table PairingRow.relId
  transport : List TransportCall

def Desk.new (eng : Engine) : Desk where
  eng := eng
  pending := none
  introAt := fun _ => 0
  stores := .empty
  pairings := .empty
  transport := []

abbrev Ceremony := EStateM Failure Desk

def onEngine (action : Action α) : Ceremony (Except EngineError α) :=
  fun desk => match action.run desk.eng with
    | .ok value eng => .ok (.ok value) { desk with eng }
    | .error error eng => .ok (.error error) { desk with eng }

def viaEngine (action : Action α) : Ceremony α := do
  Action.ofExcept Failure.eng (← onEngine action)

def clock : Ceremony Nat := (fun desk : Desk => desk.eng.clock) <$> get

def drawIndex : Ceremony Nat := viaEngine draw

section

variable (desk : Desk)

theorem run_onEngine (action : Action α) : (onEngine action).run desk =
      match action.run desk.eng with
      | .ok value eng => .ok (.ok value) { desk with eng }
      | .error error eng => .ok (.error error) { desk with eng } :=
  rfl

@[simp] theorem run_get : (get : Ceremony Desk).run desk = .ok desk desk := rfl

@[simp] theorem run_clock : clock.run desk = .ok desk.eng.clock desk := rfl

@[simp] theorem run_drawIndex : drawIndex.run desk = .ok desk.eng.draws { desk with
      eng := { desk.eng with draws := desk.eng.draws + 1 } } :=
  rfl

end

def loadRelationship (desk : Desk) (rel : RelId) : Option (RelationshipRow × PairingRow) := do
  let row ← desk.eng.db.relationship rel
  let pairing ← desk.pairings.lookup rel
  return (row, pairing)

def loadRelationshipByService (desk : Desk) (serviceId : String) :
    Option RelationshipRow :=
  desk.eng.db.relationships.rows.find? fun row =>
    (desk.pairings.lookup row.relId).any fun pairing =>
      pairing.serviceId = serviceId

def insertRelationship (row : RelationshipRow) (pairing : PairingRow) :
    Ceremony Unit := do
  viaEngine (Engine.insertRelationship row)
  modify fun desk => { desk with pairings := desk.pairings.upsert pairing }

variable (sys : PairingPlatform)

def ourIdentityKey (owner : String) (stores : Stores) : Except Failure Bytes :=
  match (stores .locals).lookup (owner, ()) with
  | none => .error (.sqlite "Query returned no rows")
  | some row =>
    match sys.identityKeyPair row.record.identityKeyPair with
    | .error detail => .error (.store (.corrupt s!"identity keypair: {detail}"))
    | .ok key => .ok key

def serviceIdFor (identityKey : Bytes) : String := hexEncode identityKey

def ordered (first second : Bytes) : Bytes × Bytes :=
  if first ≤ second then (first, second) else (second, first)

def relationshipId (first second : Bytes) : Array32 :=
  let (low, high) := ordered first second
  sys.sha256 (asBytes "s//chat6-v7 REL" ++ low ++ high)

def relIdFor (first second : Bytes) : RelId := hexEncode (relationshipId sys first second).toList

def padDigits (width value : Nat) : String :=
  let digits := toString value
  String.ofList (List.replicate (width - digits.length) '0') ++ digits

def sas (first : Bytes) (firstNonce : Array32) (second : Bytes) (secondNonce : Array32) : String :=
  let (low, high, lowNonce, highNonce) :=
    if first ≤ second then (first, second, firstNonce, secondNonce)
    else (second, first, secondNonce, firstNonce)
  let digest := sys.sha256 (asBytes "s//chat6-v7 SAS" ++ low ++ high ++
    lowNonce.toList ++ highNonce.toList)
  padDigits 8 (fromBeBytes (digest.toList.take 8) % 100000000)

def sasFor (desk : Desk) (rel : RelId) : Except Failure String :=
  match loadRelationship desk rel with
  | none => .error .notFound
  | some (row, pairing) =>
    match ourIdentityKey sys row.relId desk.stores with
    | .error error => .error error
    | .ok ours => .ok (sas sys ours pairing.ourNonce
        pairing.peerIdentityKey pairing.peerNonce)

def onionHostname (raw : OnionRaw) : Except PairingError String :=
  match hostnameFromRaw sys.sha3 raw with
  | .error error =>
    let reason := error.text
    .error (.invalid s!"onion: {reason}")
  | .ok host => .ok host

def verify (payload : PairingPayload) (now : Nat) (enforceExpiry : Bool) :
    Except PairingError Unit :=
  if enforceExpiry ∧ payload.expiresAt.toNat < now then .error .expired
  else
    match sys.identityKey payload.identityKey with
    | .error detail => .error (.invalid s!"identity key: {detail}")
    | .ok () =>
      let signs := sys.verifySignature payload.identityKey
      if ¬ signs payload.signedBody payload.signature then
        .error .badSignature
      else if ¬ signs payload.signedPreKeyPublic
          payload.signedPreKeySignature then .error .badSignature
      else if ¬ signs payload.kyberPreKeyPublic
          payload.kyberPreKeySignature then .error .badSignature
      else
        match onionHostname sys payload.onion with
        | .error error => .error error
        | .ok _ => .ok ()

variable {sys}

def fromBundle (persona : Persona sys.identityKeyPair) (onion : OnionRaw)
    (clientAuthPublic nonce : Array32) (expiresAt : UInt64) :
    PairingPayload where
  identityKey := persona.identityKey.toList
  registrationId := persona.registrationId
  preKey := some (1, persona.oneTimePublic.toList)
  signedPreKeyId := 1
  signedPreKeyPublic := persona.signedPreKey.publicKey.toList
  signedPreKeySignature := persona.signedPreKey.signature.toList
  kyberPreKeyId := 1
  kyberPreKeyPublic := persona.kyberPreKey.publicKey.toList
  kyberPreKeySignature := persona.kyberPreKey.signature.toList
  onion := onion
  clientAuthPublic := clientAuthPublic
  nonce := nonce
  expiresAt := expiresAt
  signature := []

variable (sys)

def sign (payload : PairingPayload) (privateKey : Bytes) :
    Ceremony PairingPayload := do
  let index ← drawIndex
  match sys.calculateSignature index privateKey payload.signedBody with
  | .error detail => throw (.payload (.invalid s!"sign: {detail}"))
  | .ok signature => return { payload with signature := signature.toList }

structure ClientAuthKeys where
  publicB32 : String
  privateB32 : String
  deriving DecidableEq

def clientAuthKeys (secret : Array32) : ClientAuthKeys where
  publicB32 := base32Lower (sys.x25519 secret).toList
  privateB32 := base32Lower secret.toList

def decodeClientAuthKey (b32 : String) : Except TransportError Array32 :=
  match base32Decode b32.toList with
  | .error error => .error error
  | .ok bytes =>
    if length : bytes.length = 32 then .ok ⟨bytes, length⟩
    else .error (.keyStore "client-auth key must be 32 bytes")

def ClientAuthKeys.publicBytes (keys : ClientAuthKeys) : Except TransportError Array32 :=
  decodeClientAuthKey keys.publicB32

variable {sys}

def createLocal (owner : String) (persona : Persona sys.identityKeyPair)
    (stores : Stores) : Option Stores :=
  ((stores .locals).insert { owner, id := (), record := {
    registrationId := persona.registrationId
    identityKeyPair := persona.keyPair } }).map (stores.put .locals)

def storePersona (owner : String) (persona : Persona sys.identityKeyPair) :
    Ceremony Unit := do
  let desk ← get
  match createLocal owner persona desk.stores with
  | none => throw (.session (.store (.corrupt "create_local")))
  | some stores =>
    let stores := stores.put .preKeys ((stores .preKeys).upsert {
      owner, id := (1 : UInt32), record := persona.oneTimePreKey })
    let stores := stores.put .signedPreKeys ((stores .signedPreKeys).upsert {
      owner, id := (1 : UInt32), record := persona.signedPreKey.record })
    set { desk with
      stores := saveKyberPreKey owner 1 persona.kyberPreKey.record stores }

variable (sys)

def callTransport (call : TransportCall) : Ceremony (List TransportCall) :=
  modifyGet fun desk => let calls := desk.transport ++ [call]
    (calls, { desk with transport := calls })

/-- The address of a service is the name of its key. -/
def hostServiceWithAuth (serviceId : String) (clientAuth : List String) :
    Ceremony String := do
  let calls ← callTransport (.hostService serviceId clientAuth)
  match sys.hostService calls with
  | .error error => throw (.transport error)
  | .ok pubkey => return hostnameFromPubkey sys.sha3 pubkey ++ ".onion"

def installClientAuth (peerOnion privateB32 : String) : Ceremony Unit := do
  let calls ← callTransport (.installClientAuth peerOnion privateB32)
  Action.ofExcept Failure.transport (sys.installClientAuth calls)

def removeService (serviceId : String) : Ceremony Unit := do
  let _ ← callTransport (.removeService serviceId)

end SChatCore.Pairing
