import SChatCore.Data.Pieces
import SChatCore.Engine.Send
import SChatCore.Store.Stickers

namespace SChatCore.Engine

open Data Wire Store Sticker

/-! Inline emoji tokens: `:e:`, sixteen lowercase hex digits, `:`. -/

def hexValue (byte : UInt8) : Option UInt8 :=
  if 0x30 ≤ byte ∧ byte ≤ 0x39 then some (byte - 0x30)
  else if 0x61 ≤ byte ∧ byte ≤ 0x66 then some (byte - 0x57)
  else none

def hexPairs : Bytes → Option Bytes
  | [] => some []
  | [_] => none
  | high :: low :: rest => do
    let high ← hexValue high
    let low ← hexValue low
    let others ← hexPairs rest
    return (high * 16 + low) :: others

/-- The hash front named by a token at the start of `text`. -/
def tokenAt (text : Bytes) : Option Bytes :=
  if text.length < 20 ∨ text.take 3 ≠ asBytes ":e:" ∨ text[19]? ≠ some 0x3a then none
  else hexPairs ((text.drop 3).take 16)

def scanTokens : Nat → Bytes → List Bytes
  | _, [] => []
  | skip + 1, _ :: rest => scanTokens skip rest
  | 0, byte :: rest =>
    match tokenAt (byte :: rest) with
    | some token => token :: scanTokens 19 rest
    | none => scanTokens 0 rest

def extract (text : String) : List Bytes := (scanTokens 0 (asBytes text)).eraseDups

def bodies (size : Nat) (blob : Bytes)
    (body : UInt16 → UInt16 → Bytes → StickerCtrl) : List Payload :=
  let count := UInt16.ofNat (max (pieceCount size blob) 1)
  (pieces size blob).mapIdx fun index data =>
    .stickerCtrl (body (UInt16.ofNat index) count data)

def itemBodies (item : StickerItemRow) (pack : PackRef) : List Payload :=
  bodies itemChunkMax item.bytes fun index count data =>
    .itemBody item.sha256 index count data (some pack)

def packDoc (info : StickerPackRow) (items : List StickerItemRow) : StickerPackDoc where
  packId := info.packId
  kind := info.kind
  visibility := info.visibility
  title := info.title
  iconItemId := info.iconItemId
  items := items.map fun item =>
    { itemId := item.itemId, w := item.w, h := item.h, sha256 := item.sha256,
      bytes := item.bytes }

section

variable (sys : Platform)

def packDocument (db : Db) (packId : Array16) : Except EngineError (Option Bytes) :=
  match db.packInfo packId with
  | none => .ok none
  | some info =>
    match (packDoc info (db.itemsFor packId)).bodyBytes with
    | .error error => .error (.wire error)
    | .ok body =>
      match db.packKeys.lookup packId with
      | none => .ok none
      | some key =>
        match sys.loadPackKey key.secret info.packPk with
        | .error detail => .error (.store (.corrupt detail))
        | .ok () => .ok (some (body ++ sys.sign key.secret body))

def thumbsOf (items : List StickerItemRow) : List Thumb :=
  items.filterMap fun item =>
    (sys.makeThumbnail item.bytes).map fun bytes =>
      { itemId := item.itemId, bytes }

def thumbsDoc (info : StickerPackRow) (thumbs : List Thumb) : StickerThumbsDoc where
  title := info.title
  kind := info.kind
  iconItemId := info.iconItemId
  thumbs := thumbs

end

variable (sys : Platform)

def answerWantItem (rel : RelId) (sha : Bytes) : Action Unit := do
  let granted ← rateAllow .stickerServe rel
  let db ← readDb
  if granted then
    match db.findItem sha with
    | none => pure ()
    | some (item, pack) => sendAll sys rel (itemBodies item pack)
  else pure ()

def refusePack (rel : RelId) (packId : Array16) (packPk : Array32)
    (reason : UInt8) : Action Unit := do
  let _ ← sendEnvelope sys rel (.stickerCtrl (.packRefused packId packPk reason)) none

def servePack (rel : RelId) (packId : Array16) (packPk : Array32) :
    Action Unit := do
  let db ← readDb
  match packDocument sys db packId with
  | .error error => throw error
  | .ok none => refusePack sys rel packId packPk StickerCtrl.refusedUnknown
  | .ok (some blob) =>
    sendAll sys rel (bodies packChunkMax blob
      fun index count data => .packBody packId packPk index count data)

def answerWantPack (rel : RelId) (packId : Array16) (packPk : Array32) :
    Action Unit := do
  let db ← readDb
  match db.packInfo packId with
  | none => refusePack sys rel packId packPk StickerCtrl.refusedUnknown
  | some info =>
    if info.packPk ≠ packPk then
      refusePack sys rel packId packPk StickerCtrl.refusedUnknown
    else if info.visibility = visibilityPrivate then
      refusePack sys rel packId packPk StickerCtrl.refusedPrivate
    else do
      let now ← now
      let serves ← updateDb (Db.notePackServe rel (now / 86400))
      if serves > Store.Sticker.packServesPerPeerPerDay then
        refusePack sys rel packId packPk StickerCtrl.refusedRateLimited
      else servePack sys rel packId packPk

def answerWantThumbs (rel : RelId) (packId : Array16) (packPk : Array32) :
    Action Unit := do
  let granted ← rateAllow .stickerServe rel
  let db ← readDb
  match db.packInfo packId with
  | none => pure ()
  | some info =>
    let thumbs := thumbsOf sys (db.itemsFor packId)
    if !granted || info.packPk ≠ packPk ||
        info.visibility = visibilityPrivate || thumbs.isEmpty then pure ()
    else do
      let blob ← wire (thumbsDoc info thumbs).encode
      sendAll sys rel (bodies packChunkMax blob
        fun index count data => .thumbsBody packId packPk index count data)

def fetchPack (rel : RelId) (packId : Array16) (packPk : Array32) :
    Action Unit := do
  let _ ← sendEnvelope sys rel (.stickerCtrl (.wantPack packId packPk)) none

def fetchThumbs (rel : RelId) (packId : Array16) (packPk : Array32) :
    Action Unit := do
  let _ ← sendEnvelope sys rel (.stickerCtrl (.wantThumbs packId packPk)) none

def ackSticker (rel : RelId) (sha : Array32) : Action Unit := do
  let _ ← sendEnvelope sys rel (.stickerCtrl (.ack sha)) none

def keepItem (rel : RelId) (item : CachedItemRow) : Action Unit := do
  let db ← readDb
  if db.haveItem item.sha256 then pure ()
  else do
    writeDb (Db.cachePut item)
    ackSticker sys rel item.sha256

def onSticker (rel : RelId) (msgId : MsgId) (item : StickerItem) : Action (List EngineEvent) := do
  let now ← now
  match item.bytes with
  | some bytes =>
    if sys.sha256 bytes ≠ item.contentSha256 then return []
    else do
      keepItem sys rel
        { sha256 := item.contentSha256, bytes, w := item.w, h := item.h
          kind := item.kind, packId := some item.packId
          fromRel := some rel, createdAt := now }
      return [.sticker rel msgId true]
  | none => do
    let db ← readDb
    if db.haveItem item.contentSha256 then
      return [.sticker rel msgId true]
    else do
      let _ ← sendEnvelope sys rel (.stickerCtrl (.wantItem item.contentSha256.toList)) none
      return [.sticker rel msgId false]

/-- Chunks go through the reassembly buffers; a blob comes out at the last
one. -/
def feed (buffer : PendingBuffers → Option Bytes × PendingBuffers) : Action (Option Bytes) :=
  modifyGet fun eng =>
    let (blob, stickerPending) := buffer eng.stickerPending
    (blob, { eng with stickerPending })

def feedItem (sha : Array32) (index count : UInt16) (data : Bytes) (now : Nat)
    (buffers : PendingBuffers) : Option Bytes × PendingBuffers :=
  let (blob, items) := buffers.items.feed maxPendingItems maxPendingItemBytes
    sha.toList index count data now
  (blob, { buffers with items })

def feedPack (packId : Array16) (index count : UInt16) (data : Bytes)
    (now : Nat) (buffers : PendingBuffers) : Option Bytes × PendingBuffers :=
  let (blob, packs) := buffers.packs.feed maxPendingPacks maxPackDocBytes
    packId.toList index count data now
  (blob, { buffers with packs })

def packProgress (packId : Array16) (buffers : PendingBuffers) : Option (Nat × Nat) := do
  let entry ← buffers.packs.lookup packId.toList
  let part ← entry.pending.blob
  StickerPackDoc.scanPartial part

def feedThumbs (packId : Array16) (index count : UInt16) (data : Bytes)
    (now : Nat) (buffers : PendingBuffers) : Option Bytes × PendingBuffers :=
  let (blob, thumbs) := buffers.thumbs.feed maxPendingPacks maxThumbsDocBytes
    packId.toList index count data now
  (blob, { buffers with thumbs })

/-- A public pack we do not know is fetched for the cache. -/
def fetchUnknownPack (rel : RelId) : Option PackRef → Action Unit
  | none => pure ()
  | some pack => do
    let db ← readDb
    if pack.visibility = visibilityPublic ∧ (db.packInfo pack.packId).isNone then
      fetchPack sys rel pack.packId pack.packPk
    else pure ()

def cachedItem (rel : RelId) (sha : Array32) (bytes : Bytes) (now : Nat) :
    Option PackRef → CachedItemRow
  | some pack =>
    { sha256 := sha, bytes, w := pack.w, h := pack.h, kind := pack.kind
      packId := some pack.packId, fromRel := some rel, createdAt := now }
  | none =>
    { sha256 := sha, bytes, w := 0, h := 0, kind := kindSticker
      packId := none, fromRel := some rel, createdAt := now }

def onItemBody (rel : RelId) (sha : Array32) (index count : UInt16)
    (data : Bytes) (pack : Option PackRef) : Action Unit := do
  let now ← now
  let blob ← feed (feedItem sha index count data now)
  match blob with
  | none => pure ()
  | some bytes =>
    if sys.sha256 bytes ≠ sha then pure ()
    else do
      keepItem sys rel (cachedItem rel sha bytes now pack)
      fetchUnknownPack sys rel pack

/-- Verify and install; a pack that fails leaves only what was written before
the failure. -/
def installPackBlob (rel : RelId) (blob : Bytes) (packPk : Array32)
    (now : Nat) (db : Db) : Option Array16 × Db :=
  match StickerPackDoc.decodeSigned sys.sha256 sys.verify blob packPk with
  | .error _ => (none, db)
  | .ok doc =>
    match db.admitPack (some rel) true with
    | some _ => (none, db)
    | none =>
      match Db.putItems doc.packId doc.items (db.installPackRow doc packPk (some rel) true now) with
      | (.ok (), db) => (some doc.packId, db)
      | (.error _, db) => (none, db)

def onPackBody (rel : RelId) (packId : Array16) (packPk : Array32)
    (index count : UInt16) (data : Bytes) : Action (List EngineEvent) := do
  let now ← now
  let blob ← feed (feedPack packId index count data now)
  match blob with
  | none => return []
  | some blob => do
    let installed ← updateDb (installPackBlob sys rel blob packPk now)
    return (installed.map EngineEvent.stickerPackInstalled).toList

def onThumbsBody (packId : Array16) (index count : UInt16) (data : Bytes) :
    Action (List EngineEvent) := do
  let now ← now
  let blob ← feed (feedThumbs packId index count data now)
  match blob with
  | none => return []
  | some blob =>
    match StickerThumbsDoc.decode blob with
    | .ok doc => return [.stickerThumbs packId doc]
    | .error _ => return []

def onStickerCtrl (rel : RelId) : StickerCtrl → Action (List EngineEvent)
  | .ack _ => return []
  | .wantItem sha => do
    answerWantItem sys rel sha
    return []
  | .itemBody sha index count data pack => do
    onItemBody sys rel sha index count data pack
    return []
  | .wantPack packId packPk => do
    answerWantPack sys rel packId packPk
    return []
  | .packBody packId packPk index count data => onPackBody sys rel packId packPk index count data
  | .packRefused packId _ reason => return [.stickerPackRefused packId reason]
  | .wantThumbs packId packPk => do
    answerWantThumbs sys rel packId packPk
    return []
  | .thumbsBody packId _ index count data => onThumbsBody packId index count data

def fetchEmoji (rel : RelId) (front : Bytes) : Action Unit := do
  let db ← readDb
  if db.haveItemPrefix front then pure ()
  else do
    let granted ← rateAllow .stickerFetch rel
    if granted then do
      let _ ← sendEnvelope sys rel (.stickerCtrl (.wantItem front)) none
    else pure ()

def fetchMissingEmoji (rel : RelId) (body : String) : Action Unit :=
  (extract body).forM (fetchEmoji sys rel)

def pushEmoji (rel : RelId) (front : Bytes) : Action Unit := do
  let db ← readDb
  match db.findItem front with
  | none => pure ()
  | some (item, pack) => sendAll sys rel (itemBodies item pack)

def pushInlineEmoji (rel : RelId) (body : String) : Action Unit :=
  (extract body).forM (pushEmoji sys rel)

def sendSticker (rel : RelId) (packId : Array16) (itemId : UInt16) :
    Action MsgId := do
  let db ← readDb
  match db.stickerItems.lookup (packId, itemId), db.packInfo packId with
  | some item, some info => do
    let sent ← sendEnvelope sys rel (.sticker
      { kind := info.kind, visibility := info.visibility, packId
        packPk := info.packPk, itemId, w := item.w, h := item.h
        contentSha256 := item.sha256
        bytes := if item.bytes.length ≤ inlineBytesMax then some item.bytes
          else none }) none
    return sent.msgId
  | _, _ => throw .notFound

end SChatCore.Engine
