import SChatCore.Wire.Bin

namespace SChatCore.Wire

def classImage : UInt8 := 1

def classVideo : UInt8 := 2

def maxAttach : Nat := 25 * 1024 * 1024

def chunkDataMax : Nat := 27900

def maxMime : Nat := 64

def maxExt : Nat := 8

def maxCaption : Nat := 16 * 1024

def maxChunks : UInt16 := 1024

def flagViewOnce : UInt8 := 1

structure AttachHead where
  mediaClass : UInt8
  mimeHint : String
  origExt : String
  uncompressedN : UInt32
  chunkCount : UInt16
  chunkBucket : UInt16
  contentSha256 : Array32
  caption : String
  flags : UInt8
  deriving DecidableEq

namespace AttachHead

def validateCommon (head : AttachHead) : Except WireError Unit :=
  let mediaClass := head.mediaClass
  let n := head.uncompressedN
  if mediaClass ≠ classImage ∧ mediaClass ≠ classVideo then
    .error (.badField "attach_head.media_class" s!"class {mediaClass}")
  else if (asBytes head.mimeHint).length > maxMime then
    .error (.tooLarge "attach_head.mime" (asBytes head.mimeHint).length maxMime)
  else if (asBytes head.origExt).length > maxExt then
    .error (.tooLarge "attach_head.ext" (asBytes head.origExt).length maxExt)
  else if n.toNat < 1 ∨ n.toNat > maxAttach then
    .error (.badField "attach_head.uncompressed_n" s!"n {n}")
  else if (asBytes head.caption).length > maxCaption then
    .error (.tooLarge "attach_head.caption" (asBytes head.caption).length maxCaption)
  else .ok ()

def checkPlan (head : AttachHead) : Except WireError Unit :=
  let count := head.chunkCount
  let bucket := head.chunkBucket
  if count < 1 ∨ count > maxChunks ∨ bucket < count ∨ bucket > maxChunks then
    .error (.badField "attach_head.chunks" s!"count {count} bucket {bucket}")
  else .ok ()

def encodeCaptionTail (caption : String) (flags : UInt8) :
    Except WireError Bytes :=
  if (asBytes caption).isEmpty ∧ flags = 0 then .ok []
  else if (asBytes caption).length > maxCaption then
    .error (.tooLarge "attach_head.caption" (asBytes caption).length maxCaption)
  else .ok (lp (asBytes caption) ++ if flags ≠ 0 then [flags] else [])

def encodeChunked (head : AttachHead) : Except WireError Bytes := do
  head.validateCommon
  head.checkPlan
  let tail ← encodeCaptionTail head.caption head.flags
  return [1, head.mediaClass] ++ lp (asBytes head.mimeHint) ++
    lp (asBytes head.origExt) ++ u32be head.uncompressedN ++
    u16be head.chunkCount ++ u16be head.chunkBucket ++
    head.contentSha256.toList ++ tail

def encodeInline (head : AttachHead) (inlineBytes : Bytes) :
    Except WireError Bytes := do
  head.validateCommon
  if head.chunkCount ≠ 0 ∨ head.chunkBucket ≠ 0 then
    throw (.badField "attach_head.chunks" "inline head must have zero chunk plan")
  else if inlineBytes.length ≠ head.uncompressedN.toNat then
    throw (.badLength "attach_head.inline" inlineBytes.length head.uncompressedN.toNat)
  else do
    let tail ← encodeCaptionTail head.caption head.flags
    return [2, head.mediaClass] ++ lp (asBytes head.mimeHint) ++
      lp (asBytes head.origExt) ++ u32be head.uncompressedN ++
      head.contentSha256.toList ++ tail ++ lp inlineBytes

def captionUtf8 (bytes : Bytes) : Except WireError String :=
  match fromUtf8 bytes with
  | some caption => .ok caption
  | none => .error (.badField "attach_head.caption" "invalid utf-8")

/-- The tail of a chunked head: nothing, a caption, or a caption and the flag
byte. The source compares positions with the total length. -/
def decodeCaptionTail : Reader (String × UInt8) := do
  let left ← Reader.remaining
  if left = 0 then return ("", 0)
  else do
    let capLen ← Reader.u32be "attach_head.caption"
    if capLen.toNat > maxCaption then
      throw (.badLength "attach_head.caption" capLen.toNat maxCaption)
    else do
      let capBytes ← Reader.take capLen.toNat "attach_head.caption"
      let after ← Reader.remaining
      if after = 0 then
        if capLen < 1 then throw (.badLength "attach_head.caption" 0 maxCaption)
        else do
          let caption ← captionUtf8 capBytes
          return (caption, 0)
      else if after = 1 then do
        let caption ← (if capLen = 0 then pure "" else captionUtf8 capBytes :
            Except WireError String)
        let flags ← Reader.u8 "attach_head.flags"
        return (caption, flags)
      else throw (.trailing "attach_head" after)

def readAscii (limit : Nat) (field : String) : Reader String := do
  let bytes ← Reader.lp limit field
  if bytes.any (fun byte => 128 ≤ byte) then
    throw (.badField field "not ascii")
  else return (fromUtf8 bytes).getD ""

def chunkedReader : Reader AttachHead := do
  let _ ← Reader.u8 "attach_head.version"
  let mediaClass ← Reader.u8 "attach_head.class"
  let mimeHint ← readAscii maxMime "attach_head.mime"
  let origExt ← readAscii maxExt "attach_head.ext"
  let uncompressedN ← Reader.u32be "attach_head.n"
  let chunkCount ← Reader.u16be "attach_head.count"
  let chunkBucket ← Reader.u16be "attach_head.bucket"
  let contentSha256 ← Reader.takeArray 32 "attach_head.sha256"
  let (caption, flags) ← decodeCaptionTail
  let head : AttachHead := {
    mediaClass, mimeHint, origExt, uncompressedN
    chunkCount, chunkBucket, contentSha256, caption, flags }
  head.validateCommon
  head.checkPlan
  return head

/-- Caption, flags and blob of an inline head. The length prefix of the blob
is recognised by its value and by what then remains. -/
def inlineTail (n : Nat) : Reader (String × UInt8 × Bytes) := do
  let peek ← Reader.peekU32be "attach_head.inline"
  let left ← Reader.remaining
  if peek.toNat = n ∧ left = 4 + peek.toNat then do
    let _ ← Reader.u32be "attach_head.inline"
    let blob ← Reader.take peek.toNat "attach_head.inline"
    return ("", 0, blob)
  else do
    let capLen ← Reader.u32be "attach_head.caption"
    if capLen.toNat > maxCaption then
      throw (.badLength "attach_head.caption" capLen.toNat maxCaption)
    else do
      let capBytes ← Reader.take capLen.toNat "attach_head.caption"
      let caption ← captionUtf8 capBytes
      let peek2 ← Reader.peekU32be "attach_head.inline"
      let left2 ← Reader.remaining
      if peek2.toNat = n ∧ left2 = 4 + peek2.toNat then do
        let _ ← Reader.u32be "attach_head.inline"
        let blob ← Reader.take peek2.toNat "attach_head.inline"
        return (caption, 0, blob)
      else do
        let flags ← Reader.u8 "attach_head.flags"
        let inlineLen ← Reader.u32be "attach_head.inline"
        let left3 ← Reader.remaining
        if inlineLen.toNat ≠ n ∨ left3 ≠ inlineLen.toNat then
          throw (.badLength "attach_head.inline" inlineLen.toNat n)
        else do
          let blob ← Reader.take inlineLen.toNat "attach_head.inline"
          return (caption, flags, blob)

def inlineReader : Reader (AttachHead × Bytes) := do
  let _ ← Reader.u8 "attach_head.version"
  let mediaClass ← Reader.u8 "attach_head.class"
  let mimeHint ← readAscii maxMime "attach_head.mime"
  let origExt ← readAscii maxExt "attach_head.ext"
  let uncompressedN ← Reader.u32be "attach_head.n"
  let contentSha256 ← Reader.takeArray 32 "attach_head.sha256"
  let (caption, flags, blob) ← inlineTail uncompressedN.toNat
  let head : AttachHead := {
    mediaClass, mimeHint, origExt, uncompressedN
    chunkCount := 0, chunkBucket := 0, contentSha256, caption, flags }
  head.validateCommon
  return (head, blob)

def decodeWithInline (bytes : Bytes) : Except WireError (AttachHead × Option Bytes) := do
  let version ← (Reader.u8 "attach_head.version").decode bytes
  if version = 1 then do
    let head ← chunkedReader.decode bytes
    return (head, none)
  else if version = 2 then do
    let (head, blob) ← inlineReader.decode bytes
    return (head, some blob)
  else throw (.badVersion "attach_head" version)

end AttachHead

structure AttachHeadPayload where
  head : AttachHead
  inline : Option Bytes
  deriving DecidableEq

namespace AttachHeadPayload

def encodePayload (payload : AttachHeadPayload) : Except WireError Bytes :=
  match payload.inline with
  | some bytes => payload.head.encodeInline bytes
  | none => payload.head.encodeChunked

def decodePayload (bytes : Bytes) : Except WireError AttachHeadPayload := do
  let (head, inline) ← AttachHead.decodeWithInline bytes
  return { head, inline }

end AttachHeadPayload

structure AttachChunk where
  headId : Array16
  index : UInt16
  pad : Bool
  data : Bytes
  deriving DecidableEq

namespace AttachChunk

def encodePayload (chunk : AttachChunk) : Except WireError Bytes :=
  if chunk.data.length > chunkDataMax then
    .error (.tooLarge "attach_chunk.data" chunk.data.length chunkDataMax)
  else if chunk.pad ∧ ¬ chunk.data.isEmpty then
    .error (.badField "attach_chunk.pad" "pad chunk carries data")
  else .ok (chunk.headId.toList ++ (u16be chunk.index ++
    ((if chunk.pad then 1 else 0) :: lp chunk.data)))

def reader : Reader AttachChunk := do
  let headId ← Reader.takeArray 16 "attach_chunk.head"
  let index ← Reader.u16be "attach_chunk.index"
  let pad ← Reader.u8 "attach_chunk.pad"
  if pad > 1 then throw (.badField "attach_chunk.pad" s!"{pad}")
  else do
    let data ← Reader.lp chunkDataMax "attach_chunk.data"
    Reader.expectEnd "attach_chunk"
    if pad = 1 ∧ ¬ data.isEmpty then
      throw (.badField "attach_chunk.pad" "pad chunk carries data")
    else return { headId, index, pad := pad = 1, data }

def decodePayload (bytes : Bytes) : Except WireError AttachChunk := reader.decode bytes

end AttachChunk

end SChatCore.Wire
