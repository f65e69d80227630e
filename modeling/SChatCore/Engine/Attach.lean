import SChatCore.Data.Pieces
import SChatCore.Engine.Send

namespace SChatCore.Engine

open Data Wire Store Policy

/-! Planning a transfer. -/

def inlineMax : Nat := 27000

def bucketGranularity : UInt16 := 8

inductive ChunkOut
  | data (bytes : Bytes)
  | pad
  deriving DecidableEq

structure AttachPlan where
  head : AttachHead
  chunks : List ChunkOut
  deriving DecidableEq

structure AttachmentSpec where
  mediaClass : UInt8
  mimeHint : String
  origExt : String
  bytes : Bytes
  caption : String
  viewOnce : Bool
  deriving DecidableEq

inductive MediaKind
  | jpeg | png | webp | heic | mp4 | webm | gif | reject
  deriving DecidableEq

def MediaKind.asStr : MediaKind → String
  | .jpeg => "jpeg"
  | .png => "png"
  | .webp => "webp"
  | .heic => "heic"
  | .mp4 => "mp4"
  | .webm => "webm"
  | .gif => "gif"
  | .reject => "reject"

def sniff (head : Bytes) : MediaKind :=
  if head.take 3 = [0xff, 0xd8, 0xff] then .jpeg
  else if head.take 6 = asBytes "GIF87a" ∨ head.take 6 = asBytes "GIF89a" then
    .gif
  else if head.length ≥ 8 ∧ head.take 4 = [0x89, 0x50, 0x4e, 0x47] then .png
  else if head.take 4 = asBytes "RIFF" ∧ (head.drop 8).take 4 = asBytes "WEBP" then .webp
  else if head.length ≥ 12 ∧ (head.drop 4).take 4 = asBytes "ftyp" then
    if (head.drop 8).take 4 ∈ ["heic", "mif1", "msf1", "heif"].map asBytes then
      .heic
    else .mp4
  else if head.take 4 = [0x1a, 0x45, 0xdf, 0xa3] then .webm
  else .reject

/-- Still images go out re-encoded, animations and videos as they are. -/
def prepareSpec (sys : Platform) (spec : AttachmentSpec) :
    Except MediaError AttachmentSpec :=
  if spec.mediaClass = classImage then
    match sniff spec.bytes with
    | .jpeg | .png | .webp => do
      let bytes ← sys.stripAndReencodeImage spec.bytes
      if bytes.take 2 = [0xff, 0xd8] then
        return { spec with mimeHint := "image/jpeg", origExt := "jpg", bytes }
      else
        return { spec with mimeHint := "image/png", origExt := "png", bytes }
    | .gif => .ok { spec with mimeHint := "image/gif", origExt := "gif" }
    | other => .error (.unsupported other.asStr)
  else if spec.mediaClass = classVideo then .ok { spec with origExt := "mp4" }
  else .ok spec

def planCount (bytes : Bytes) : UInt16 :=
  if bytes.length ≤ inlineMax then 0
  else UInt16.ofNat (pieceCount chunkDataMax bytes)

def planBucket (count : UInt16) : UInt16 :=
  let granularity := bucketGranularity
  (count / granularity + if count % granularity > 0 then 1 else 0) * granularity

def planChunks (bytes : Bytes) : List ChunkOut :=
  if bytes.length ≤ inlineMax then []
  else
    let data := (pieces chunkDataMax bytes).map ChunkOut.data
    data ++ List.replicate ((planBucket (planCount bytes)).toNat - data.length) ChunkOut.pad

def planTransfer (sha256 : Bytes → Array32) (spec : AttachmentSpec) :
    Except EngineError AttachPlan :=
  if spec.bytes.isEmpty ∨ spec.bytes.length > maxAttach then
    .error (.editDenied "attachment size out of range")
  else .ok {
    head := {
      mediaClass := spec.mediaClass
      mimeHint := spec.mimeHint
      origExt := spec.origExt
      uncompressedN := UInt32.ofNat spec.bytes.length
      chunkCount := planCount spec.bytes
      chunkBucket :=
        if spec.bytes.length ≤ inlineMax then 0
        else planBucket (planCount spec.bytes)
      contentSha256 := sha256 spec.bytes
      caption := spec.caption
      flags := if spec.viewOnce then flagViewOnce else 0 }
    chunks := planChunks spec.bytes }

def attachmentOf (rel : RelId) (headId : MsgId) (direction : Direction)
    (head : AttachHead) (expiresAt : Option Nat) : NewAttachment where
  headId := headId
  relId := rel
  msgId := headId
  direction := direction
  mediaClass := head.mediaClass
  mimeHint := head.mimeHint
  uncompressedN := head.uncompressedN
  chunkCount := head.chunkCount
  chunkBucket := head.chunkBucket
  contentSha256 := head.contentSha256
  caption := head.caption
  flags := head.flags
  origExt := head.origExt
  expiresAt := expiresAt

def chunkPayload (headId : MsgId) (index : Nat) : ChunkOut → AttachChunk
  | .data bytes => { headId, index := UInt16.ofNat index, pad := false, data := bytes }
  | .pad => { headId, index := UInt16.ofNat index, pad := true, data := [] }

def planPayloads (headId : MsgId) (plan : AttachPlan) : List AttachChunk :=
  plan.chunks.mapIdx (chunkPayload headId)

def maxOrphanChunksPerHead : Nat := 1024

def maxOrphanBytesPerHead : Nat := 25 * 1024 * 1024

def maxOrphanChunksPerRel : Nat := 4096

def maxOrphanBytesPerRel : Nat := 64 * 1024 * 1024

def orphanCapped (db : Db) (rel : RelId) (chunk : AttachChunk) : Bool :=
  let (count, bytes) := db.orphanHeadStats chunk.headId
  let (relCount, relBytes) := db.orphanRelStats rel
  count ≥ maxOrphanChunksPerHead || bytes + chunk.data.length > maxOrphanBytesPerHead ||
    relCount ≥ maxOrphanChunksPerRel ||
    relBytes + chunk.data.length > maxOrphanBytesPerRel

/-- Orphans are bounded by the caps, the chunks of a known head by its
plan. -/
def refusesChunk (db : Db) (rel : RelId) (chunk : AttachChunk) : Bool :=
  match db.attachment chunk.headId with
  | none => orphanCapped db rel chunk
  | some row => chunk.index ≥ row.chunkCount

def fullBitmap (count : UInt16) : Bytes :=
  let full := List.replicate (bitmapLen count) 0xff
  if count.toNat % 8 = 0 then full
  else full.set (bitmapLen count - 1) (Bitmap.bit (count.toNat % 8) - 1)

variable (sys : Platform)

/-- Reassembles once the stored rows reach the plan's count; a transfer that
does not verify is erased. -/
def tryComplete (rel : RelId) (headId : MsgId) : Action (List EngineEvent) := do
  let db ← readDb
  match db.attachment headId with
  | none => return []
  | some row =>
    if row.complete then return []
    else if (db.chunksFor headId).length < row.chunkCount.toNat then
      return []
    else if (db.chunksFor headId).flatten.length ≠ row.uncompressedN.toNat ∨
        sys.sha256 (db.chunksFor headId).flatten ≠ row.contentSha256
        then do
      writeDb (Db.deleteChunks headId)
      writeDb (Db.deleteAttachment headId)
      return [.attachmentFailed rel headId]
    else do
      writeDb (Db.setChunks headId (fullBitmap row.chunkCount))
      writeDb (Db.markComplete headId)
      return [.attachmentComplete rel headId row.msgId]

def completeInline (rel : RelId) (headId : MsgId) (head : AttachHead)
    (bytes : Bytes) : Action (List EngineEvent) := do
  if sys.sha256 bytes ≠ head.contentSha256 then do
    writeDb (Db.deleteAttachment headId)
    return [.attachmentFailed rel headId]
  else do
    let now ← now
    tryDb (Db.putChunk headId 0 bytes rel now)
    writeDb (Db.markComplete headId)
    return [.attachmentComplete rel headId headId]

def onAttachHead (rel : RelId) (msgId : MsgId)
    (payload : AttachHeadPayload) : Action (List EngineEvent) := do
  let db ← readDb
  let allowed ← store (attachmentsAllowed db rel)
  if ¬ allowed then return []
  else if (db.attachment msgId).isSome then return []
  else do
    let now ← now
    let expiry ← store (messageExpiry db rel now)
    tryDb (Db.insertHead now (attachmentOf rel msgId .in_ payload.head expiry))
    match payload.inline with
    | some bytes => completeInline sys rel msgId payload.head bytes
    | none => tryComplete sys rel msgId

def progress (db : Db) (rel : RelId) (headId : MsgId) : EngineEvent :=
  let row := db.attachment headId
  .attachmentProgress rel headId ((row.map fun row => Bitmap.popcount row.chunks).getD 0)
    ((row.map fun row => row.chunkCount.toNat).getD 0)

def onAttachChunk (rel : RelId) (chunk : AttachChunk) : Action (List EngineEvent) := do
  let db ← readDb
  if chunk.pad then return []
  else if refusesChunk db rel chunk then
    return [.attachmentChunkDropped rel chunk.headId]
  else do
    let now ← now
    tryDb (Db.putChunk chunk.headId chunk.index chunk.data rel now)
    let noted ← updateDb (Db.noteChunk chunk.headId chunk.index)
    match noted with
    | none => return []
    | some false => do
      let db ← readDb
      return [progress db rel chunk.headId]
    | some true => tryComplete sys rel chunk.headId

/-- The head ids are read before the first deletion. -/
def onDeleteTarget (target : MsgId) : Action Unit :=
  writeDb fun db => (db.forMessage target).foldl (fun db row =>
    (db.deleteChunks row.headId).deleteAttachment row.headId) db

def attachmentBytes (db : Db) (headId : MsgId) : Option Bytes :=
  match db.attachment headId with
  | none => none
  | some row =>
    if !row.complete || row.consumed then none
    else if (db.chunksFor headId).isEmpty then none
    else some (db.chunksFor headId).flatten

def attachmentViewed (headId : MsgId) : Action Unit := do
  let db ← readDb
  match db.attachment headId with
  | none => pure ()
  | some row =>
    if row.flags &&& flagViewOnce ≠ 0 ∧ ¬ row.consumed then do
      writeDb (Db.deleteChunks headId)
      writeDb (Db.markConsumed headId)
    else pure ()

def stashInline (rel : RelId) (headId : MsgId) (head : AttachHead)
    (bytes : Bytes) (now : Nat) : Action Unit :=
  if head.chunkCount = 0 then do
    tryDb (Db.putChunk headId 0 bytes rel now)
    writeDb (Db.markComplete headId)
  else pure ()

/-- The head goes out first; its message id names the transfer. -/
def sendAttachment (rel : RelId) (spec : AttachmentSpec) :
    Action MsgId := do
  let spec ← Action.ofExcept .media (prepareSpec sys spec)
  let plan ← Action.ofExcept id (planTransfer sys.sha256 spec)
  let inline := if spec.bytes.length ≤ inlineMax then some spec.bytes else none
  let sent ← sendEnvelope sys rel (.attachHead { head := plan.head, inline }) none
  let now ← now
  let db ← readDb
  let expiry ← store (messageExpiry db rel now)
  tryDb (Db.insertHead now (attachmentOf rel sent.msgId .out plan.head expiry))
  stashInline rel sent.msgId plan.head spec.bytes now
  sendAll sys rel ((planPayloads sent.msgId plan).map Payload.attachChunk)
  return sent.msgId

end SChatCore.Engine
