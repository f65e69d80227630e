import SChatCore.Data.Table
import SChatCore.Wire.Bin

namespace SChatCore.Store

open Data Wire

/-! Rows of the local database. Instants are seconds; sequence numbers keep
their wire width because the store compares them as signed columns. -/

abbrev RelId := String

inductive StoreError
  | corrupt (detail : String)
  | constraint (table : String)
  deriving DecidableEq

inductive Direction
  | in_
  | out
  deriving DecidableEq

inductive DeliveryState
  | received | queued | transmitted | acknowledged | failed
  deriving DecidableEq

structure MessageRow where
  msgId : MsgId
  relId : RelId
  direction : Direction
  appSeq : UInt64
  sentAt : Nat
  receivedAt : Option Nat
  envType : UInt8
  refId : Option MsgId
  payload : Bytes
  state : DeliveryState
  expiresAt : Option Nat
  createdAt : Nat
  edited : Bool
  tombstone : Bool
  readAt : Option Nat
  editCount : Nat
  lastEditSeq : UInt64
  deriving DecidableEq

structure OutboxRow where
  msgId : MsgId
  relId : RelId
  record : Bytes
  attempts : Nat
  nextAttemptAt : Nat
  expiresAt : Nat
  createdAt : Nat
  deriving DecidableEq

structure AttachmentRow where
  headId : MsgId
  relId : RelId
  msgId : MsgId
  direction : Direction
  mediaClass : UInt8
  mimeHint : String
  uncompressedN : UInt32
  chunkCount : UInt16
  chunkBucket : UInt16
  contentSha256 : Array32
  caption : String
  flags : UInt8
  origExt : String
  chunks : Bytes
  complete : Bool
  consumed : Bool
  expiresAt : Option Nat
  createdAt : Nat
  deriving DecidableEq

structure ChunkRow where
  headId : MsgId
  idx : UInt16
  data : Bytes
  relId : RelId
  createdAt : Nat
  deriving DecidableEq

def ChunkRow.key (row : ChunkRow) : MsgId × UInt16 := (row.headId, row.idx)

structure TombstoneRow where
  relId : RelId
  refId : MsgId
  expiry : Nat
  deriving DecidableEq

def TombstoneRow.key (row : TombstoneRow) : RelId × MsgId := (row.relId, row.refId)

structure InboundSeqRow where
  relId : RelId
  appSeq : UInt64
  deriving DecidableEq

structure CiphertextRow where
  msgId : MsgId
  relId : RelId
  frameBytes : Bytes
  createdAt : Nat
  deriving DecidableEq

structure InboundFrameRow where
  relId : RelId
  frameHash : Array32
  expiresAt : Nat
  deriving DecidableEq

def InboundFrameRow.key (row : InboundFrameRow) : RelId × Array32 := (row.relId, row.frameHash)

inductive Role
  | inviter
  | accepter
  deriving DecidableEq

inductive RelationshipState
  | request
  | active
  deriving DecidableEq

inductive SessionColumn
  | active
  | broken
  deriving DecidableEq

inductive CloseState
  | closing
  | closedByPeer
  deriving DecidableEq

/-- The pending proposal column holds the 21 bytes of `encode_pending`. -/
structure RelationshipRow where
  relId : RelId
  role : Role
  state : RelationshipState
  peerOnion : String
  ourQrBytes : Bytes
  introPending : Bool
  sessionState : SessionColumn
  createdAt : Nat
  peerCaps : UInt32
  policyTtlSec : UInt32
  policyFlags : UInt32
  policyWants : UInt32
  policyPending : Option (List.Vector UInt8 21)
  policyLastSyncAt : Nat
  closeState : Option CloseState
  historyCutSeq : UInt64
  peerPrefs : Option Bytes
  deriving DecidableEq

structure ProfileRow where
  relId : RelId
  name : String
  jpeg : Bytes
  updatedAt : Nat
  deriving DecidableEq

structure StickerPackRow where
  packId : Array16
  packPk : Array32
  title : String
  kind : UInt8
  visibility : UInt8
  itemCount : Nat
  iconItemId : UInt16
  installedAt : Nat
  cached : Bool
  fromRel : Option RelId
  lastUsedAt : Nat
  deriving DecidableEq

structure StickerItemRow where
  packId : Array16
  itemId : UInt16
  w : UInt16
  h : UInt16
  sha256 : Array32
  bytes : Bytes
  deriving DecidableEq

def StickerItemRow.key (row : StickerItemRow) : Array16 × UInt16 := (row.packId, row.itemId)

structure PackKeyRow where
  packId : Array16
  secret : Bytes
  deriving DecidableEq

structure CachedItemRow where
  sha256 : Array32
  bytes : Bytes
  w : UInt16
  h : UInt16
  kind : UInt8
  packId : Option Array16
  fromRel : Option RelId
  createdAt : Nat
  deriving DecidableEq

structure StickerServeRow where
  relId : RelId
  day : Nat
  count : Nat
  deriving DecidableEq

def StickerServeRow.key (row : StickerServeRow) : RelId × Nat := (row.relId, row.day)

/-- One per-relationship setting with its decoded value. -/
structure RelSetting (α : Type) where
  relId : RelId
  value : α
  deriving DecidableEq

/-- The settings the engine itself reads: the profile and its own scratch
values. A value that is not in its encoding cannot be stored. -/
structure Settings where
  profileName : Option String
  profileAvatar : Option Bytes
  closeStartedAt : Table (RelSetting.relId (α := Nat))
  resyncReqAt : Table (RelSetting.relId (α := Nat))
  activationSent : Table (RelSetting.relId (α := Unit))
  outSeqFloor : Table (RelSetting.relId (α := UInt64))
  deriving DecidableEq

structure Db where
  relationships : Table RelationshipRow.relId
  messages : Table MessageRow.msgId
  outbox : Table OutboxRow.msgId
  attachments : Table AttachmentRow.headId
  chunks : Table ChunkRow.key
  tombstones : Table TombstoneRow.key
  inboundSeqs : Table (id : InboundSeqRow → InboundSeqRow)
  ciphertexts : Table CiphertextRow.msgId
  inboundFrames : Table InboundFrameRow.key
  profiles : Table ProfileRow.relId
  stickers : Table StickerPackRow.packId
  stickerItems : Table StickerItemRow.key
  packKeys : Table PackKeyRow.packId
  stickerCache : Table CachedItemRow.sha256
  stickerServes : Table StickerServeRow.key
  settings : Settings
  deriving DecidableEq

def Settings.empty : Settings where
  profileName := none
  profileAvatar := none
  closeStartedAt := .empty
  resyncReqAt := .empty
  activationSent := .empty
  outSeqFloor := .empty

def Db.empty : Db where
  relationships := .empty
  messages := .empty
  outbox := .empty
  attachments := .empty
  chunks := .empty
  tombstones := .empty
  inboundSeqs := .empty
  ciphertexts := .empty
  inboundFrames := .empty
  profiles := .empty
  stickers := .empty
  stickerItems := .empty
  packKeys := .empty
  stickerCache := .empty
  stickerServes := .empty
  settings := .empty

def hexDigit (value : Nat) : Char :=
  if value < 10 then Char.ofNat (48 + value) else Char.ofNat (87 + value)

def hexEncode (bytes : Bytes) : String :=
  String.ofList (bytes.flatMap fun byte =>
    [hexDigit (byte.toNat / 16), hexDigit (byte.toNat % 16)])

def signed (seq : UInt64) : Int := seq.toInt64.toInt

end SChatCore.Store
