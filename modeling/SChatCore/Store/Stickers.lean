import SChatCore.Store.Schema
import SChatCore.Wire.StickerDoc
import Mathlib.Data.List.Sort

namespace SChatCore.Store

open Data Wire

/-! Installed packs, the loose-item cache and the serving quota. -/

namespace Sticker

def maxPacksTotal : Nat := 100

def maxPacksPerSender : Nat := 16

def maxCachedPacks : Nat := 32

def maxCacheEntries : Nat := 4096

def cacheTtlSec : Nat := 7 * 86400

def packServesPerPeerPerDay : Nat := 8

end Sticker

inductive PackQuota
  | total | perSender | cached
  deriving DecidableEq

namespace Db

def packInfo (db : Db) (packId : Array16) : Option StickerPackRow := db.stickers.lookup packId

def itemsFor (db : Db) (packId : Array16) : List StickerItemRow :=
  (db.stickerItems.select fun row => row.packId = packId).insertionSort
    fun first second => first.itemId ≤ second.itemId

def itemBySha (db : Db) (sha : Array32) : Option StickerItemRow :=
  db.stickerItems.rows.find? fun row => row.sha256 = sha

def cacheGet (db : Db) (sha : Array32) : Option CachedItemRow := db.stickerCache.lookup sha

def cachePut (item : CachedItemRow) (db : Db) : Db :=
  { db with stickerCache := db.stickerCache.insertOrIgnore item }

def haveItem (db : Db) (sha : Array32) : Bool :=
  (db.itemBySha sha).isSome || (db.cacheGet sha).isSome

def startsWith (sha : Array32) (front : Bytes) : Bool := sha.toList.take front.length = front

def haveItemPrefix (db : Db) (front : Bytes) : Bool :=
  db.stickerItems.rows.any (fun row => startsWith row.sha256 front) ||
    db.stickerCache.rows.any (fun row => startsWith row.sha256 front)

def findItem (db : Db) (sha : Bytes) : Option (StickerItemRow × PackRef) := do
  let item ← db.stickerItems.rows.find? fun row =>
    if sha.length = 32 then row.sha256.toList = sha
    else startsWith row.sha256 sha
  let info ← db.packInfo item.packId
  return (item, {
    packId := item.packId
    packPk := info.packPk
    kind := info.kind
    visibility := info.visibility
    itemId := item.itemId
    w := item.w
    h := item.h })

def notePackServe (rel : RelId) (day : Nat) (db : Db) : Nat × Db :=
  match db.stickerServes.insert { relId := rel, day, count := 1 } with
  | some stickerServes => (1, { db with stickerServes })
  | none =>
    let count := ((db.stickerServes.lookup (rel, day)).map StickerServeRow.count).getD 0 + 1
    (count, { db with
      stickerServes := db.stickerServes.update (fun row => row.relId = rel && row.day = day)
        (fun row => { row with count := row.count + 1 }) fun _ => rfl })

def admitPack (db : Db) (fromRel : Option RelId) (cached : Bool) :
    Option PackQuota :=
  if db.stickers.rows.length ≥ Sticker.maxPacksTotal then some .total
  else if fromRel.any (fun rel =>
      decide ((db.stickers.select fun row => row.fromRel = some rel).length ≥
        Sticker.maxPacksPerSender)) then some .perSender
  else if cached && decide ((db.stickers.select fun row => row.cached).length ≥
      Sticker.maxCachedPacks) then some .cached
  else none

def docItemRow (packId : Array16) (item : PackDocItem) : StickerItemRow where
  packId := packId
  itemId := item.itemId
  w := item.w
  h := item.h
  sha256 := item.sha256
  bytes := item.bytes

/-- Items are written after the pack's old items are gone; a repeated item id
with other contents stops the loop, with what was written so far in place. -/
def putItems (packId : Array16) : List PackDocItem → Db → Except StoreError Unit × Db
  | [], db => (.ok (), db)
  | item :: rest, db =>
    let id := hexEncode packId.toList
    let itemId := item.itemId
    match db.stickerItems.lookup (packId, item.itemId) with
    | some prev =>
      if prev.sha256 ≠ item.sha256 ∨ prev.bytes ≠ item.bytes then
        (.error (.corrupt s!"sticker item {id}:{itemId} rewritten"), db)
      else putItems packId rest db
    | none =>
      putItems packId rest { db with
        stickerItems := db.stickerItems.insertOrIgnore (docItemRow packId item) }

def installPackRow (doc : StickerPackDoc) (packPk : Array32)
    (fromRel : Option RelId) (cached : Bool) (now : Nat) (db : Db) : Db :=
  { db with
    stickers := db.stickers.upsert {
      packId := doc.packId
      packPk
      title := doc.title
      kind := doc.kind
      visibility := doc.visibility
      itemCount := doc.items.length
      iconItemId := doc.iconItemId
      installedAt := now
      cached
      fromRel
      lastUsedAt := now }
    stickerItems := db.stickerItems.delete fun row => row.packId = doc.packId }

/-- Cache hygiene: expired and surplus loose items, then expired and surplus
auto-cached packs with their item blobs. -/
def sweepCache (now : Nat) (db : Db) : Db :=
  let horizon := now - Sticker.cacheTtlSec
  let fresh := db.stickerCache.delete fun row => row.createdAt < horizon
  let newest := (fresh.rows.insertionSort fun first second =>
    second.createdAt ≤ first.createdAt).take Sticker.maxCacheEntries
  let freshPacks := db.stickers.delete fun row =>
    row.cached && decide (row.lastUsedAt < horizon)
  let kept := ((freshPacks.select fun row => row.cached).insertionSort
    fun first second => second.lastUsedAt ≤ first.lastUsedAt).take Sticker.maxCachedPacks
  let stickers := freshPacks.delete fun row =>
    row.cached && !(kept.map StickerPackRow.packId).contains row.packId
  { db with
    stickerCache := fresh.delete fun row =>
      !(newest.map CachedItemRow.sha256).contains row.sha256
    stickers
    stickerItems := db.stickerItems.delete fun row =>
      (stickers.lookup row.packId).isNone }

def withoutStickers (db : Db) : Db :=
  { db with
    stickers := .empty
    stickerItems := .empty
    packKeys := .empty
    stickerCache := .empty
    stickerServes := .empty }

theorem putItems_rest (packId : Array16) (items : List PackDocItem) (db : Db) :
    (putItems packId items db).2 = { db with
      stickerItems := (putItems packId items db).2.stickerItems } := by
  induction items generalizing db with
  | nil => rfl
  | cons item rest ih =>
    unfold putItems
    cases db.stickerItems.lookup (packId, item.itemId) with
    | some prev =>
      simp only
      split
      · rfl
      · exact ih db
    | none => exact ih _

end Db

end SChatCore.Store
