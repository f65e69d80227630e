import SChatCore.Wire.Bin

namespace SChatCore.Wire

namespace Sticker

def kindEmoji : UInt8 := 1

def kindSticker : UInt8 := 2

def visibilityPublic : UInt8 := 1

def visibilityPrivate : UInt8 := 2

def maxBytesSticker : Nat := 512 * 1024

def maxTitleChars : Nat := 32

def inlineBytesMax : Nat := 27500

def itemChunkMax : Nat := 27500

def maxItemChunks : UInt16 := 24

def packChunkMax : Nat := 27500

def maxPackChunks : UInt16 := 1280

def maxThumbBytes : Nat := 8 * 1024

def maxThumbsDocBytes : Nat := 512 * 1024

def maxThumbsChunks : UInt16 := 24

def maxPackDocBytes : Nat := 28 * 1024 * 1024

def maxItems (kind : UInt8) : Nat :=
  if kind = kindEmoji then 64 else if kind = kindSticker then 50 else 0

def maxEdge (kind : UInt8) : Nat :=
  if kind = kindEmoji then 160 else if kind = kindSticker then 512 else 0

def maxBytes (kind : UInt8) : Nat :=
  if kind = kindEmoji then 64 * 1024
  else if kind = kindSticker then maxBytesSticker
  else 0

def validKind (kind : UInt8) : Bool := kind = kindEmoji || kind = kindSticker

def validVisibility (visibility : UInt8) : Bool :=
  visibility = visibilityPublic || visibility = visibilityPrivate

def aspectOk (kind : UInt8) (w h : Nat) : Bool :=
  if w = 0 ∨ h = 0 then false
  else if kind = kindEmoji then w = h
  else if kind = kindSticker then w ≤ h * 3 && h ≤ w * 3
  else false

def itemOk (kind : UInt8) (w h byteLen : Nat) : Bool :=
  validKind kind && 0 < byteLen && byteLen ≤ maxBytes kind &&
    aspectOk kind w h && max w h ≤ maxEdge kind

def checkKind (field : String) (kind visibility : UInt8) :
    Except WireError Unit :=
  if validKind kind && validVisibility visibility then .ok ()
  else .error (.badField field "unknown kind/visibility")

end Sticker

open Sticker

/-! `STICKER`: one item, with its bytes when they fit. -/

structure StickerItem where
  kind : UInt8
  visibility : UInt8
  packId : Array16
  packPk : Array32
  itemId : UInt16
  w : UInt16
  h : UInt16
  contentSha256 : Array32
  bytes : Option Bytes
  deriving DecidableEq

namespace StickerItem

def checkDims (kind : UInt8) (w h : UInt16) : Except WireError Unit :=
  if ¬ aspectOk kind w.toNat h.toNat then
    .error (.badField "sticker.dims" "aspect out of range")
  else if max w.toNat h.toNat > maxEdge kind then
    .error (.badField "sticker.dims" "edge over cap")
  else .ok ()

def checkBytes (kind : UInt8) (bytes : Bytes) : Except WireError Unit :=
  if bytes.isEmpty ∨ bytes.length > maxBytes kind then
    .error (.badField "sticker.bytes" "inline bytes out of range")
  else .ok ()

def validate (item : StickerItem) : Except WireError Unit := do
  checkKind "sticker.kind" item.kind item.visibility
  checkDims item.kind item.w item.h
  match item.bytes with
  | some bytes => checkBytes item.kind bytes
  | none => .ok ()

def encodePayload (item : StickerItem) : Except WireError Bytes := do
  item.validate
  return [1, item.kind, item.visibility] ++ item.packId.toList ++
    item.packPk.toList ++ u16be item.itemId ++ u16be item.w ++ u16be item.h ++
    item.contentSha256.toList ++
    match item.bytes with
    | none => [0]
    | some bytes => 1 :: lp bytes

def bodyReader (kind : UInt8) : Reader (Option Bytes) := do
  let hasBytes ← Reader.u8 "sticker.has_bytes"
  if hasBytes = 0 then do
    Reader.expectEnd "sticker"
    return none
  else if hasBytes = 1 then do
    let bytes ← Reader.lp maxBytesSticker "sticker.bytes"
    Reader.expectEnd "sticker"
    checkBytes kind bytes
    return some bytes
  else throw (.badField "sticker.has_bytes" s!"{hasBytes}")

def reader : Reader StickerItem := do
  let version ← Reader.u8 "sticker.version"
  if version ≠ 1 then throw (.badVersion "sticker" version)
  else do
    let kind ← Reader.u8 "sticker.kind"
    let visibility ← Reader.u8 "sticker.visibility"
    checkKind "sticker.kind" kind visibility
    let packId ← Reader.takeArray 16 "sticker.pack_id"
    let packPk ← Reader.takeArray 32 "sticker.pack_pk"
    let itemId ← Reader.u16be "sticker.item_id"
    let w ← Reader.u16be "sticker.w"
    let h ← Reader.u16be "sticker.h"
    checkDims kind w h
    let contentSha256 ← Reader.takeArray 32 "sticker.sha256"
    let bytes ← bodyReader kind
    return { kind, visibility, packId, packPk, itemId, w, h, contentSha256, bytes }

def decodePayload (bytes : Bytes) : Except WireError StickerItem := reader.decode bytes

end StickerItem

/-! `STICKER_CTRL`: requests, bodies and refusals. -/

structure PackRef where
  packId : Array16
  packPk : Array32
  kind : UInt8
  visibility : UInt8
  itemId : UInt16
  w : UInt16
  h : UInt16
  deriving DecidableEq

namespace PackRef

def encodedLen : Nat := 56

def encode (pack : PackRef) : Bytes :=
  pack.packId.toList ++ pack.packPk.toList ++ [pack.kind, pack.visibility] ++
    u16be pack.itemId ++ u16be pack.w ++ u16be pack.h

def reader : Reader PackRef := do
  let packId ← Reader.takeArray 16 "pack_ref.pack_id"
  let packPk ← Reader.takeArray 32 "pack_ref.pack_pk"
  let kind ← Reader.u8 "pack_ref.kind"
  let visibility ← Reader.u8 "pack_ref.visibility"
  checkKind "pack_ref.kind" kind visibility
  let itemId ← Reader.u16be "pack_ref.item_id"
  let w ← Reader.u16be "pack_ref.w"
  let h ← Reader.u16be "pack_ref.h"
  if ¬ aspectOk kind w.toNat h.toNat then
    throw (.badField "pack_ref.dims" "aspect out of range")
  else return { packId, packPk, kind, visibility, itemId, w, h }

end PackRef

inductive StickerCtrl
  | ack (sha : Array32)
  | wantItem (sha : Bytes)
  | itemBody (sha : Array32) (chunkIndex chunkCount : UInt16) (data : Bytes)
      (pack : Option PackRef)
  | wantPack (packId : Array16) (packPk : Array32)
  | packBody (packId : Array16) (packPk : Array32)
      (chunkIndex chunkCount : UInt16) (data : Bytes)
  | packRefused (packId : Array16) (packPk : Array32) (reason : UInt8)
  | wantThumbs (packId : Array16) (packPk : Array32)
  | thumbsBody (packId : Array16) (packPk : Array32)
      (chunkIndex chunkCount : UInt16) (data : Bytes)
  deriving DecidableEq

namespace StickerCtrl

def refusedPrivate : UInt8 := 1

def refusedUnknown : UInt8 := 2

def refusedRateLimited : UInt8 := 3

def checkChunkPlan (index count maxChunks : UInt16) (field : String) :
    Except WireError Unit :=
  if count < 1 ∨ count > maxChunks ∨ index ≥ count then
    .error (.badField field s!"chunk {index}/{count} (max {maxChunks})")
  else .ok ()

def checkData (data : Bytes) (limit : Nat) (field : String) :
    Except WireError Unit :=
  if data.length > limit then .error (.tooLarge field data.length limit)
  else .ok ()

def checkShaLen (len : Nat) : Except WireError Unit :=
  if 4 ≤ len ∧ len ≤ 32 then .ok ()
  else .error (.badField "sticker_ctrl.want_item" "sha len 4..=32")

def checkReason (reason : UInt8) : Except WireError Unit :=
  if refusedPrivate ≤ reason ∧ reason ≤ refusedRateLimited then .ok ()
  else .error (.badField "sticker_ctrl.refused" s!"reason {reason}")

def encodePayload (ctrl : StickerCtrl) : Except WireError Bytes :=
  match ctrl with
  | .ack sha => return [1, 1] ++ sha.toList
  | .wantItem sha => do
    checkShaLen sha.length
    return [1, 2, UInt8.ofNat sha.length] ++ sha
  | .itemBody sha chunkIndex chunkCount data pack => do
    checkChunkPlan chunkIndex chunkCount maxItemChunks "sticker_ctrl.item_body"
    checkData data itemChunkMax "sticker_ctrl.item_body"
    return [1, 3] ++ sha.toList ++ u16be chunkIndex ++ u16be chunkCount ++ lp data ++
      match pack with
      | some pack => pack.encode
      | none => []
  | .wantPack packId packPk => return [1, 4] ++ packId.toList ++ packPk.toList
  | .packBody packId packPk chunkIndex chunkCount data => do
    checkChunkPlan chunkIndex chunkCount maxPackChunks "sticker_ctrl.pack_body"
    checkData data packChunkMax "sticker_ctrl.pack_body"
    return [1, 5] ++ packId.toList ++ packPk.toList ++ u16be chunkIndex ++
      u16be chunkCount ++ lp data
  | .packRefused packId packPk reason => do
    checkReason reason
    return [1, 6] ++ packId.toList ++ packPk.toList ++ [reason]
  | .wantThumbs packId packPk => return [1, 7] ++ packId.toList ++ packPk.toList
  | .thumbsBody packId packPk chunkIndex chunkCount data => do
    checkChunkPlan chunkIndex chunkCount maxThumbsChunks "sticker_ctrl.thumbs_body"
    checkData data packChunkMax "sticker_ctrl.thumbs_body"
    return [1, 8] ++ packId.toList ++ packPk.toList ++ u16be chunkIndex ++
      u16be chunkCount ++ lp data

/-- The pack trailer of an item body. A trailer of the right length that does
not decode counts as absent. -/
def trailerReader : Reader (Option PackRef) := do
  let left ← Reader.remaining
  if left = 0 then return none
  else if left = PackRef.encodedLen then do
    let trailer ← Reader.take PackRef.encodedLen "sticker_ctrl.item_body.pack"
    return (PackRef.reader.decode trailer).toOption
  else throw (.trailing "sticker_ctrl.item_body" left)

def packIdent (field : String) : Reader (Array16 × Array32) := do
  let packId ← Reader.takeArray 16 (field ++ ".id")
  let packPk ← Reader.takeArray 32 (field ++ ".pk")
  return (packId, packPk)

def chunkReader (field : String) (maxChunks : UInt16) (maxData : Nat) :
    Reader (UInt16 × UInt16 × Bytes) := do
  let index ← Reader.u16be (field ++ ".idx")
  let count ← Reader.u16be (field ++ ".count")
  checkChunkPlan index count maxChunks field
  let data ← Reader.lp maxData (field ++ ".data")
  return (index, count, data)

def opReader (op : UInt8) : Reader StickerCtrl :=
  if op = 1 then do
    let sha ← Reader.takeArray 32 "sticker_ctrl.ack"
    Reader.expectEnd "sticker_ctrl"
    return .ack sha
  else if op = 2 then do
    let n ← Reader.u8 "sticker_ctrl.want_item.len"
    checkShaLen n.toNat
    let sha ← Reader.take n.toNat "sticker_ctrl.want_item"
    Reader.expectEnd "sticker_ctrl"
    return .wantItem sha
  else if op = 3 then do
    let sha ← Reader.takeArray 32 "sticker_ctrl.item_body.sha"
    let (index, count, data) ← chunkReader "sticker_ctrl.item_body" maxItemChunks itemChunkMax
    let pack ← trailerReader
    Reader.expectEnd "sticker_ctrl"
    return .itemBody sha index count data pack
  else if op = 4 then do
    let (packId, packPk) ← packIdent "sticker_ctrl.want_pack"
    Reader.expectEnd "sticker_ctrl"
    return .wantPack packId packPk
  else if op = 5 then do
    let (packId, packPk) ← packIdent "sticker_ctrl.pack_body"
    let (index, count, data) ← chunkReader "sticker_ctrl.pack_body" maxPackChunks packChunkMax
    Reader.expectEnd "sticker_ctrl"
    return .packBody packId packPk index count data
  else if op = 6 then do
    let (packId, packPk) ← packIdent "sticker_ctrl.refused"
    let reason ← Reader.u8 "sticker_ctrl.refused.reason"
    Reader.expectEnd "sticker_ctrl"
    checkReason reason
    return .packRefused packId packPk reason
  else if op = 7 then do
    let (packId, packPk) ← packIdent "sticker_ctrl.want_thumbs"
    Reader.expectEnd "sticker_ctrl"
    return .wantThumbs packId packPk
  else if op = 8 then do
    let (packId, packPk) ← packIdent "sticker_ctrl.thumbs_body"
    let (index, count, data) ← chunkReader "sticker_ctrl.thumbs_body" maxThumbsChunks packChunkMax
    Reader.expectEnd "sticker_ctrl"
    return .thumbsBody packId packPk index count data
  else throw (.badField "sticker_ctrl.op" s!"{op}")

def reader : Reader StickerCtrl := do
  let version ← Reader.u8 "sticker_ctrl.version"
  if version ≠ 1 then throw (.badVersion "sticker_ctrl" version)
  else do
    let op ← Reader.u8 "sticker_ctrl.op"
    opReader op

def decodePayload (bytes : Bytes) : Except WireError StickerCtrl := reader.decode bytes

end StickerCtrl

end SChatCore.Wire
