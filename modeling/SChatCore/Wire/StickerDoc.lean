import SChatCore.Wire.Sticker

namespace SChatCore.Wire

open Sticker

/-! Pack documents: a signed body that lists every item with its digest. -/

def packDocDomain : Bytes := asBytes "s//chat6-v7 Pack"

structure PackDocItem where
  itemId : UInt16
  w : UInt16
  h : UInt16
  sha256 : Array32
  bytes : Bytes
  deriving DecidableEq

structure StickerPackDoc where
  packId : Array16
  kind : UInt8
  visibility : UInt8
  title : String
  iconItemId : UInt16
  items : List PackDocItem
  deriving DecidableEq

def titleReader (field : String) : Reader String := do
  let titleBytes ← Reader.lp (maxTitleChars * 4) field
  match fromUtf8 titleBytes with
  | none => throw (.badField field "utf-8")
  | some title =>
    if title.length > maxTitleChars then
      throw (.tooLarge field title.length maxTitleChars)
    else return title

def checkTitle (field title : String) : Except WireError Unit :=
  if (asBytes title).length > maxTitleChars * 4 then
    .error (.tooLarge field (asBytes title).length (maxTitleChars * 4))
  else .ok ()

namespace StickerPackDoc

/-- The item loop of `body_bytes`; `seen` is the set of item ids so far. -/
def itemBytes (kind : UInt8) (seen : List UInt16) : List PackDocItem → Except WireError Bytes
  | [] => .ok []
  | item :: rest =>
    if seen.contains item.itemId then
      .error (.badField "pack_doc.items" "duplicate item id")
    else if ¬ itemOk kind item.w.toNat item.h.toNat item.bytes.length then
      .error (.badField "pack_doc.item" "item fails caps")
    else do
      let tail ← itemBytes kind (item.itemId :: seen) rest
      return u16be item.itemId ++ u16be item.w ++ u16be item.h ++
        item.sha256.toList ++ lp item.bytes ++ tail

def bodyBytes (doc : StickerPackDoc) : Except WireError Bytes := do
  checkKind "pack_doc.kind" doc.kind doc.visibility
  checkTitle "pack_doc.title" doc.title
  if doc.items.isEmpty ∨ doc.items.length > maxItems doc.kind then
    throw (.badField "pack_doc.items" "item count out of range")
  else do
    let items ← itemBytes doc.kind [] doc.items
    return packDocDomain ++ doc.packId.toList ++ [doc.kind, doc.visibility] ++
      lp (asBytes doc.title) ++ u16be doc.iconItemId ++
      u16be (UInt16.ofNat doc.items.length) ++ items

variable (sha256 : Bytes → Array32)

def itemReader (kind : UInt8) (seen : List UInt16) : Reader PackDocItem := do
  let itemId ← Reader.u16be "pack_doc.item.id"
  let w ← Reader.u16be "pack_doc.item.w"
  let h ← Reader.u16be "pack_doc.item.h"
  let sha ← Reader.takeArray 32 "pack_doc.item.sha"
  let bytes ← Reader.lp (maxBytes kind) "pack_doc.item.bytes"
  if bytes.isEmpty then throw (.badField "pack_doc.item.bytes" "empty")
  else if seen.contains itemId then
    throw (.badField "pack_doc.items" "duplicate item id")
  else if sha256 bytes ≠ sha then
    throw (.badField "pack_doc.item.sha" "hash mismatch")
  else if ¬ itemOk kind w.toNat h.toNat bytes.length then
    throw (.badField "pack_doc.item" "item fails caps")
  else return { itemId, w, h, sha256 := sha, bytes }

def itemsReader (kind : UInt8) : Nat → List UInt16 → Reader (List PackDocItem)
  | 0, _ => return []
  | count + 1, seen => do
    let item ← itemReader sha256 kind seen
    let rest ← itemsReader kind count (item.itemId :: seen)
    return item :: rest

def bodyReader : Reader StickerPackDoc := do
  let domain ← Reader.take packDocDomain.length "pack_doc.domain"
  if domain ≠ packDocDomain then
    throw (.badField "pack_doc.domain" "mismatch")
  else do
    let packId ← Reader.takeArray 16 "pack_doc.pack_id"
    let kind ← Reader.u8 "pack_doc.kind"
    let visibility ← Reader.u8 "pack_doc.visibility"
    checkKind "pack_doc.kind" kind visibility
    let title ← titleReader "pack_doc.title"
    let iconItemId ← Reader.u16be "pack_doc.icon"
    let count ← Reader.u16be "pack_doc.count"
    if count < 1 ∨ count.toNat > maxItems kind then
      throw (.badField "pack_doc.items" "item count out of range")
    else do
      let items ← itemsReader sha256 kind count.toNat []
      Reader.expectEnd "pack_doc"
      if ¬ items.any (fun item => item.itemId = iconItemId) then
        throw (.badField "pack_doc.icon" "icon item missing")
      else return { packId, kind, visibility, title, iconItemId, items }

def decodeBody (body : Bytes) : Except WireError StickerPackDoc := (bodyReader sha256).decode body

def decodeSigned (verify : Array32 → Bytes → Bytes → Bool) (blob : Bytes)
    (packPk : Array32) : Except WireError StickerPackDoc :=
  let cut := blob.length - 64
  if blob.length > maxPackDocBytes then
    .error (.tooLarge "pack_doc" blob.length maxPackDocBytes)
  else if blob.length < 64 + packDocDomain.length + 16 + 1 + 1 + 4 + 2 + 2 then
    .error (.truncated "pack_doc")
  else if ¬ verify packPk (blob.take cut) (blob.drop cut) then
    .error (.badField "pack_doc.sig" "signature invalid")
  else decodeBody sha256 (blob.take cut)

/-! Scanning what has arrived so far, without digests and signature. -/

def scanItem (kind : UInt8) : Reader UInt16 := do
  let itemId ← Reader.u16be "pack_doc.item.id"
  let _ ← Reader.take (2 + 2 + 32) "pack_doc.item.head"
  let n ← Reader.u32be "pack_doc.item.len"
  if n.toNat = 0 ∨ n.toNat > maxBytes kind then
    throw (.badField "pack_doc.item.len" "out of range")
  else do
    let _ ← Reader.take n.toNat "pack_doc.item.bytes"
    return itemId

/-- The complete items; whatever stops the walk ends the count. -/
def scanItems (kind : UInt8) : Nat → List UInt16 → Bytes → Nat
  | 0, _, _ => 0
  | count + 1, seen, rest =>
    match (scanItem kind).run rest with
    | .error _ => 0
    | .ok (itemId, rest) =>
      if seen.contains itemId then 0
      else scanItems kind count (itemId :: seen) rest + 1

def scanHeader : Reader (UInt8 × Nat) := do
  let domain ← Reader.take packDocDomain.length "pack_doc.domain"
  if domain ≠ packDocDomain then
    throw (.badField "pack_doc.domain" "mismatch")
  else do
    let _ ← Reader.take 16 "pack_doc.pack_id"
    let kind ← Reader.u8 "pack_doc.kind"
    let _ ← Reader.u8 "pack_doc.visibility"
    if ¬ validKind kind then throw (.badField "pack_doc.kind" "unknown kind")
    else do
      let _ ← Reader.lp (maxTitleChars * 4) "pack_doc.title"
      let _ ← Reader.u16be "pack_doc.icon"
      let count ← Reader.u16be "pack_doc.count"
      if count < 1 ∨ count.toNat > maxItems kind then
        throw (.badField "pack_doc.items" "item count out of range")
      else return (kind, count.toNat)

def scanPartial (part : Bytes) : Option (Nat × Nat) :=
  if part.length > maxPackDocBytes then none
  else
    match scanHeader.run part with
    | .error _ => none
    | .ok ((kind, count), rest) => some (scanItems kind count [] rest, count)

end StickerPackDoc

structure Thumb where
  itemId : UInt16
  bytes : Bytes
  deriving DecidableEq

structure StickerThumbsDoc where
  title : String
  kind : UInt8
  iconItemId : UInt16
  thumbs : List Thumb
  deriving DecidableEq

namespace StickerThumbsDoc

def thumbBytes (seen : List UInt16) : List Thumb → Except WireError Bytes
  | [] => .ok []
  | thumb :: rest =>
    if seen.contains thumb.itemId then
      .error (.badField "thumbs_doc.thumbs" "duplicate item id")
    else if thumb.bytes.isEmpty ∨ thumb.bytes.length > maxThumbBytes then
      .error (.badField "thumbs_doc.thumb" "bytes out of range")
    else do
      let tail ← thumbBytes (thumb.itemId :: seen) rest
      return u16be thumb.itemId ++ lp thumb.bytes ++ tail

def encode (doc : StickerThumbsDoc) : Except WireError Bytes := do
  if ¬ validKind doc.kind then
    throw (.badField "thumbs_doc.kind" "unknown kind")
  else do
    checkTitle "thumbs_doc.title" doc.title
    if doc.thumbs.isEmpty ∨ doc.thumbs.length > maxItems doc.kind then
      throw (.badField "thumbs_doc.thumbs" "count out of range")
    else do
      let thumbs ← thumbBytes [] doc.thumbs
      let out := lp (asBytes doc.title) ++ [doc.kind] ++
        u16be doc.iconItemId ++ u16be (UInt16.ofNat doc.thumbs.length) ++ thumbs
      if out.length > maxThumbsDocBytes then
        throw (.tooLarge "thumbs_doc" out.length maxThumbsDocBytes)
      else return out

def thumbReader (seen : List UInt16) : Reader Thumb := do
  let itemId ← Reader.u16be "thumbs_doc.thumb.id"
  let bytes ← Reader.lp maxThumbBytes "thumbs_doc.thumb.bytes"
  if bytes.isEmpty then throw (.badField "thumbs_doc.thumb" "empty")
  else if seen.contains itemId then
    throw (.badField "thumbs_doc.thumbs" "duplicate item id")
  else return { itemId, bytes }

def thumbsReader : Nat → List UInt16 → Reader (List Thumb)
  | 0, _ => return []
  | count + 1, seen => do
    let thumb ← thumbReader seen
    let rest ← thumbsReader count (thumb.itemId :: seen)
    return thumb :: rest

def reader : Reader StickerThumbsDoc := do
  let title ← titleReader "thumbs_doc.title"
  let kind ← Reader.u8 "thumbs_doc.kind"
  if ¬ validKind kind then throw (.badField "thumbs_doc.kind" "unknown kind")
  else do
    let iconItemId ← Reader.u16be "thumbs_doc.icon"
    let count ← Reader.u16be "thumbs_doc.count"
    if count < 1 ∨ count.toNat > maxItems kind then
      throw (.badField "thumbs_doc.thumbs" "count out of range")
    else do
      let thumbs ← thumbsReader count.toNat []
      Reader.expectEnd "thumbs_doc"
      return { title, kind, iconItemId, thumbs }

def decode (blob : Bytes) : Except WireError StickerThumbsDoc :=
  if blob.length > maxThumbsDocBytes then
    .error (.tooLarge "thumbs_doc" blob.length maxThumbsDocBytes)
  else reader.decode blob

end StickerThumbsDoc

end SChatCore.Wire
