import SChatCore.Wire.Bin

namespace SChatCore.Wire

open Data.Stream

/-! Capability bits a peer announces in its `RESYNC_REQ`. -/

namespace Caps

def capV15 : UInt32 := 1

def capV19 : UInt32 := 2

def capSticker : UInt32 := 4

def capPresence : UInt32 := 8

def capPolicy : UInt32 := 16

def capTyping : UInt32 := 32

def capRead : UInt32 := 64

def localCaps : UInt32 :=
  capV15 ||| capV19 ||| capSticker ||| capPresence ||| capPolicy ||| capTyping ||| capRead

def has (peerCaps bit : UInt32) : Bool := peerCaps &&& bit ≠ 0

end Caps

def maxBitmapBytes : Nat := 512

def bitmapBits : Nat := maxBitmapBytes * 8

def deepWindow : UInt64 := 4096

def hashDomain : Bytes := asBytes "S7HIST1"

/-- The oldest sequence number the deep digest covers; every step of the
source saturates. -/
def deepBase (maxContiguousSeq : UInt64) : UInt64 :=
  UInt64.ofNat (max (min (maxContiguousSeq.toNat - deepWindow.toNat + 1) (2 ^ 64 - 1)) 1)

def historyHash (sha256 : Bytes → Array32) (maxContiguousSeq : UInt64)
    (bitmap : Bytes) (deepSeqs : List UInt64) : Array32 :=
  let deepDigest := sha256 (deepSeqs.flatMap u64be)
  sha256 (hashDomain ++ u64be maxContiguousSeq ++
    u32be (UInt32.ofNat bitmap.length) ++ bitmap ++ deepDigest.toList)

/-- What the loop of `hashContiguous` hashes, one number after the other; its
counter leaves the range only at the last horizon. -/
def contiguousSeqs (maxContiguousSeq : UInt64) : List UInt64 :=
  let base := (deepBase maxContiguousSeq).toNat
  (List.range' base (maxContiguousSeq.toNat + 1 - base)).map UInt64.ofNat

def hashContiguous (sha256 : Bytes → Array32) (maxContiguousSeq : UInt64)
    (bitmap : Bytes) : Array32 :=
  let deepDigest := sha256 ((contiguousSeqs maxContiguousSeq).flatMap u64be)
  sha256 (hashDomain ++ u64be maxContiguousSeq ++
    u32be (UInt32.ofNat bitmap.length) ++ bitmap ++ deepDigest.toList)

structure ResyncReq where
  maxContiguousSeq : UInt64
  receivedSeqBitmap : Bytes
  caps : UInt32
  historyHash : Array32
  deriving DecidableEq

namespace ResyncReq

def encodePayload (request : ResyncReq) : Except WireError Bytes :=
  if request.receivedSeqBitmap.length > maxBitmapBytes then
    .error (.tooLarge "resync.bitmap" request.receivedSeqBitmap.length maxBitmapBytes)
  else .ok (u64be request.maxContiguousSeq ++ (lp request.receivedSeqBitmap ++
    (u32be request.caps ++ request.historyHash.toList)))

def reader : Reader ResyncReq := do
  let maxContiguousSeq ← Reader.u64be "resync.max_seq"
  let receivedSeqBitmap ← Reader.lp maxBitmapBytes "resync.bitmap"
  let caps ← Reader.u32be "resync.caps"
  let historyHash ← Reader.takeArray 32 "resync.history_hash"
  Reader.expectEnd "resync"
  return { maxContiguousSeq, receivedSeqBitmap, caps, historyHash }

def decodePayload (bytes : Bytes) : Except WireError ResyncReq := reader.decode bytes

theorem decodePayload_of_encodePayload (encoded : request.encodePayload = .ok bytes) :
    decodePayload bytes = .ok request := by
  unfold encodePayload at encoded
  split at encoded
  · cases encoded
  · rename_i bounded
    cases encoded
    apply @Reader.decode_eq _ _ _ [] _
    unfold reader
    rw [run_bind, Reader.run_u64be]
    simp only
    rw [run_bind, Reader.run_lp (by omega) (by decide)]
    simp only
    rw [run_bind, Reader.run_u32be]
    simp only
    rw [run_bind, ← List.append_nil request.historyHash.toList, Reader.run_takeArray]
    rfl

end ResyncReq

end SChatCore.Wire
