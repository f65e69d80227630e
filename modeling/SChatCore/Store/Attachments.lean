import SChatCore.Store.Schema
import SChatCore.Data.Bitmap
import Mathlib.Data.List.Sort

namespace SChatCore.Store

open Data Wire

/-! Transfer state and chunk payloads. -/

structure NewAttachment where
  headId : MsgId
  relId : RelId
  msgId : MsgId
  direction : Direction
  mediaClass : UInt8
  mimeHint : String
  uncompressedN : UInt32
  chunkCount : UInt16
  chunkBucket : UInt16
  contentSha256 : Array32
  caption : String
  flags : UInt8
  origExt : String
  expiresAt : Option Nat

def NewAttachment.row (head : NewAttachment) (now : Nat) : AttachmentRow where
  headId := head.headId
  relId := head.relId
  msgId := head.msgId
  direction := head.direction
  mediaClass := head.mediaClass
  mimeHint := head.mimeHint
  uncompressedN := head.uncompressedN
  chunkCount := head.chunkCount
  chunkBucket := head.chunkBucket
  contentSha256 := head.contentSha256
  caption := head.caption
  flags := head.flags
  origExt := head.origExt
  chunks := []
  complete := false
  consumed := false
  expiresAt := head.expiresAt
  createdAt := now

def bitmapLen (count : UInt16) : Nat := (count.toNat + 7) / 8

/-- `Vec::resize` to `len` bytes, filling with zeros. -/
def resize (bytes : Bytes) (len : Nat) : Bytes :=
  bytes.take len ++ List.replicate (len - bytes.length) 0

def AttachmentRow.withChunk (row : AttachmentRow) (index : UInt16) : Bytes :=
  Bitmap.set (resize row.chunks (bitmapLen row.chunkCount)) index.toNat

namespace Db

def attachment (db : Db) (headId : MsgId) : Option AttachmentRow := db.attachments.lookup headId

def insertHead (now : Nat) (head : NewAttachment) (db : Db) :
    Except StoreError Db :=
  match db.attachments.insert (head.row now) with
  | some attachments => .ok { db with attachments }
  | none => .error (.constraint "attachments")

def forMessage (db : Db) (msgId : MsgId) : List AttachmentRow :=
  db.attachments.select fun row => row.msgId = msgId

def setChunks (headId : MsgId) (chunks : Bytes) (db : Db) : Db :=
  { db with
    attachments := db.attachments.update (fun row => row.headId = headId)
      (fun row => { row with chunks }) fun _ => rfl }

/-- Marks one chunk in the bitmap. `none` when the head is unknown or the
index out of its plan, otherwise whether every bit is now set. -/
def noteChunk (headId : MsgId) (index : UInt16) (db : Db) : Option Bool × Db :=
  match db.attachment headId with
  | none => (none, db)
  | some row =>
    if index ≥ row.chunkCount then (none, db)
    else
      let chunks := row.withChunk index
      (some (row.chunkCount.toNat ≤ Bitmap.popcount chunks), db.setChunks headId chunks)

/-- Both completion paths set the flag; `try_complete` also fills the
bitmap. -/
def markComplete (headId : MsgId) (db : Db) : Db :=
  { db with
    attachments := db.attachments.update (fun row => row.headId = headId)
      (fun row => { row with complete := true }) fun _ => rfl }

def markConsumed (headId : MsgId) (db : Db) : Db :=
  { db with
    attachments := db.attachments.update (fun row => row.headId = headId)
      (fun row => { row with consumed := true }) fun _ => rfl }

def sweepExpiredAttachments (now : Nat) (db : Db) : Db :=
  { db with
    attachments := db.attachments.delete fun row => row.expiresAt.any (· ≤ now) }

def deleteAttachment (headId : MsgId) (db : Db) : Db :=
  { db with
    attachments := db.attachments.delete fun row => row.headId = headId }

def chunk (db : Db) (headId : MsgId) (index : UInt16) : Option Bytes :=
  (db.chunks.lookup (headId, index)).map ChunkRow.data

/-- Same bytes again is a redelivery; other bytes are refused. -/
def putChunk (headId : MsgId) (index : UInt16) (data : Bytes)
    (rel : RelId) (now : Nat) (db : Db) : Except StoreError Db :=
  let id := hexEncode headId.toList
  match db.chunk headId index with
  | some prev =>
    if prev ≠ data then
      .error (.corrupt s!"chunk {id}:{index} rewritten with different bytes")
    else .ok db
  | none =>
    match db.chunks.insert { headId, idx := index, data, relId := rel,
                             createdAt := now } with
    | some chunks => .ok { db with chunks }
    | none => .error (.constraint "attachment_chunks")

def chunkRowsFor (db : Db) (headId : MsgId) : List ChunkRow :=
  (db.chunks.select fun row => row.headId = headId).insertionSort
    fun first second => first.idx ≤ second.idx

def chunksFor (db : Db) (headId : MsgId) : List Bytes := (db.chunkRowsFor headId).map ChunkRow.data

def deleteChunks (headId : MsgId) (db : Db) : Db :=
  { db with chunks := db.chunks.delete fun row => row.headId = headId }

def withoutHeads (heads : List MsgId) (db : Db) : Db :=
  { db with
    chunks := db.chunks.delete fun row => heads.contains row.headId
    attachments := db.attachments.delete fun row => heads.contains row.headId }

theorem withoutHeads_cons (headId : MsgId) (rest : List MsgId) (db : Db) :
    ((db.deleteChunks headId).deleteAttachment headId).withoutHeads rest =
      db.withoutHeads (headId :: rest) := by
  simp [withoutHeads, deleteChunks, deleteAttachment, Table.delete_delete, eq_comm]

theorem withoutHeads_nil (db : Db) : db.withoutHeads [] = db := by
  have chunks : (db.chunks.delete fun _ => false) = db.chunks := by
    apply Table.ext
    simp [Table.delete]
  have attachments : (db.attachments.delete fun _ => false) =
      db.attachments := by
    apply Table.ext
    simp [Table.delete]
  simp [withoutHeads, chunks, attachments]

theorem foldl_deleteHead (heads : List MsgId) (db : Db) : heads.foldl (fun db headId =>
      (db.deleteChunks headId).deleteAttachment headId) db =
        db.withoutHeads heads := by
  induction heads generalizing db with
  | nil => rw [withoutHeads_nil, List.foldl_nil]
  | cons headId rest ih => rw [List.foldl_cons, ih, withoutHeads_cons]

def stats (rows : List ChunkRow) : Nat × Nat :=
  (rows.length, (rows.map fun row => row.data.length).sum)

def orphanHeadStats (db : Db) (headId : MsgId) : Nat × Nat :=
  stats (db.chunks.select fun row => row.headId = headId)

def orphanRelStats (db : Db) (rel : RelId) : Nat × Nat :=
  stats (db.chunks.select fun row =>
    row.relId = rel && (db.attachment row.headId).isNone)

def sweepOrphans (olderThan : Int) (db : Db) : Db :=
  { db with
    chunks := db.chunks.delete fun row =>
      (row.createdAt : Int) < olderThan && (db.attachment row.headId).isNone }

end Db

end SChatCore.Store
