import SChatCore.Store.Schema
import SChatCore.Wire.Payload

namespace SChatCore.Engine

open Data Wire Store

/-! RAM-only state: presence dots, typing indicators, sticker reassembly
buffers and rate limits. -/

def presenceTtlSecs : Nat := 45

structure PresenceEntry where
  relId : RelId
  flags : Presence
  seenAt : Nat
  deriving DecidableEq

abbrev PresenceTable := Table PresenceEntry.relId

namespace PresenceTable

def note (table : PresenceTable) (rel : RelId) (flags : Presence)
    (now : Nat) : Option Presence × PresenceTable :=
  let prev := (table.lookup rel).map PresenceEntry.flags
  (if prev = some flags then none else some flags,
    table.upsert { relId := rel, flags, seenAt := now })

def fresh (now : Nat) (entry : PresenceEntry) : Bool := now - entry.seenAt < presenceTtlSecs

def offline : Presence := { inApp := false, doNotDisturb := false }

def state (table : PresenceTable) (rel : RelId) (now : Nat) : Presence :=
  match table.lookup rel with
  | some entry => if fresh now entry then entry.flags else offline
  | none => offline

def sweep (table : PresenceTable) (now : Nat) : List RelId × PresenceTable :=
  ((table.select fun entry => !fresh now entry && entry.flags.inApp).map PresenceEntry.relId,
    table.delete fun entry => !fresh now entry)

def forget (table : PresenceTable) (rel : RelId) : PresenceTable :=
  table.delete fun entry => entry.relId = rel

end PresenceTable

def typingTtlSecs : Nat := 5

def typingSendIntervalSecs : Nat := 3

structure TypingTable where
  inbound : Table (RelSetting.relId (α := Nat))
  lastSent : Table (RelSetting.relId (α := Nat))
  deriving DecidableEq

namespace TypingTable

def isTyping (table : TypingTable) (rel : RelId) (now : Nat) : Bool :=
  (table.inbound.lookup rel).any fun entry => now < entry.value

def note (table : TypingTable) (rel : RelId) (typing : Bool) (now : Nat) :
    Option Bool × TypingTable :=
  let was := table.isTyping rel now
  let inbound :=
    if typing then
      table.inbound.upsert { relId := rel, value := now + typingTtlSecs }
    else table.inbound.delete fun entry => entry.relId = rel
  (if was = typing then none else some typing, { table with inbound })

def sweep (table : TypingTable) (now : Nat) : List RelId × TypingTable :=
  ((table.inbound.select fun entry => entry.value ≤ now).map RelSetting.relId,
    { table with inbound := table.inbound.delete fun entry =>
        entry.value ≤ now })

def shouldSend (table : TypingTable) (rel : RelId) (now : Nat) : Bool :=
  (table.lastSent.lookup rel).all fun entry =>
    typingSendIntervalSecs ≤ now - entry.value

def noteSent (table : TypingTable) (rel : RelId) (now : Nat) : TypingTable :=
  { table with lastSent := table.lastSent.upsert { relId := rel, value := now } }

def forget (table : TypingTable) (rel : RelId) : TypingTable where
  inbound := table.inbound.delete fun entry => entry.relId = rel
  lastSent := table.lastSent.delete fun entry => entry.relId = rel

end TypingTable

inductive Surface
  | resyncReq | ephemeral | stickerFetch | stickerServe
  deriving DecidableEq

def Surface.bucketParams : Surface → Nat × Nat
  | resyncReq => (8, 1)
  | ephemeral => (16, 4)
  | stickerFetch => (32, 8)
  | stickerServe => (128, 16)

/-- Unsigned arithmetic of some width that stops at its largest value. -/
def saturate (width value : Nat) : Nat := min value (2 ^ width - 1)

structure TokenBucket where
  capacity : Nat
  tokens : Nat
  refillPerSec : Nat
  lastRefill : Nat
  deriving DecidableEq

namespace TokenBucket

def new (capacity refillPerSec now : Nat) : TokenBucket :=
  { capacity, tokens := capacity, refillPerSec, lastRefill := now }

def refill (bucket : TokenBucket) (now : Nat) : TokenBucket :=
  let elapsed := now - bucket.lastRefill
  if elapsed > 0 then
    let add := saturate 64 (elapsed * bucket.refillPerSec)
    { bucket with
      tokens := min (saturate 32 (bucket.tokens + min add bucket.capacity)) bucket.capacity
      lastRefill := now }
  else bucket

def check (bucket : TokenBucket) (now : Nat) : Bool × TokenBucket :=
  let full := bucket.refill now
  if full.tokens > 0 then (true, { full with tokens := full.tokens - 1 })
  else (false, full)

/-- One more call, beside the number of calls granted so far. -/
def count (account : Nat × TokenBucket) (now : Nat) : Nat × TokenBucket :=
  let (grant, next) := account.2.check now
  (account.1 + grant.toNat, next)

/-- Grants and tokens together are paid for by the capacity and by the time up
to the last refill. -/
structure Paid (fresh : TokenBucket) (latest granted : Nat)
    (bucket : TokenBucket) : Prop where
  capacity : bucket.capacity = fresh.capacity
  rate : bucket.refillPerSec = fresh.refillPerSec
  started : fresh.lastRefill ≤ bucket.lastRefill
  seen : bucket.lastRefill ≤ latest
  within : bucket.tokens ≤ fresh.capacity
  paid : granted + bucket.tokens ≤ fresh.capacity +
    fresh.refillPerSec * (bucket.lastRefill - fresh.lastRefill)

theorem Paid.refill (paid : Paid fresh latest granted bucket) (now : Nat) :
    Paid fresh (max latest now) granted (bucket.refill now) := by
  obtain ⟨capacity, rate, started, seen, within, paid⟩ := paid
  unfold TokenBucket.refill
  simp only
  split
  · rename_i elapsed
    have later := Nat.lt_of_sub_pos elapsed
    refine ⟨capacity, rate, started.trans later.le, Nat.le_max_right .., ?_, ?_⟩
    · exact (Nat.min_le_right _ _).trans_eq capacity
    · -- saturation and both caps only lower what the elapsed time adds
      have added : saturate 32 (bucket.tokens + min (saturate 64
          ((now - bucket.lastRefill) * bucket.refillPerSec)) bucket.capacity) ≤
          bucket.tokens + fresh.refillPerSec * (now - bucket.lastRefill) := by
        rw [← rate, Nat.mul_comm bucket.refillPerSec]
        unfold saturate
        omega
      have span : fresh.refillPerSec * (now - fresh.lastRefill) =
          fresh.refillPerSec * (bucket.lastRefill - fresh.lastRefill) +
            fresh.refillPerSec * (now - bucket.lastRefill) := by
        rw [← Nat.mul_add]
        congr 1
        omega
      simp only
      omega
  · exact ⟨capacity, rate, started, seen.trans (Nat.le_max_left ..), within, paid⟩

theorem Paid.count (paid : Paid fresh latest account.1 account.2) (now : Nat) :
    Paid fresh (max latest now) (count account now).1 (count account now).2 := by
  obtain ⟨capacity, rate, started, seen, within, paid⟩ := paid.refill now
  unfold TokenBucket.count check
  simp only
  split
  · refine ⟨capacity, rate, started, seen, (Nat.sub_le ..).trans within, ?_⟩
    simp only [Bool.toNat_true]
    omega
  · exact ⟨capacity, rate, started, seen, within, paid⟩

theorem paid_counts (times : List Nat) (paid : Paid fresh latest account.1 account.2) :
    Paid fresh (times.foldl max latest) (times.foldl count account).1
      (times.foldl count account).2 := by
  induction times generalizing latest account with
  | nil => exact paid
  | cons now rest ih => exact ih (paid.count now)

/-- Whatever the clock does, a bucket grants no more than its capacity and what
the time since its making refills. -/
theorem grants_bounded (capacity refillPerSec : UInt32) (start : UInt64) (times : List UInt64) :
    let seen := times.map UInt64.toNat
    let after := seen.foldl count (0, new capacity.toNat refillPerSec.toNat start.toNat)
    after.1 ≤ capacity.toNat + refillPerSec.toNat * (seen.foldl max start.toNat - start.toNat) ∧
      after.2.tokens ≤ capacity.toNat := by
  intro seen after
  have paid : Paid (new capacity.toNat refillPerSec.toNat start.toNat)
      (seen.foldl max start.toNat) after.1 after.2 :=
    paid_counts seen ⟨rfl, rfl, le_rfl, le_rfl, le_rfl, by simp [new]⟩
  have most : after.2.lastRefill - start.toNat ≤ seen.foldl max start.toNat - start.toNat :=
    Nat.sub_le_sub_right paid.seen _
  refine ⟨?_, paid.within⟩
  calc after.1 ≤ after.1 + after.2.tokens := Nat.le_add_right ..
    _ ≤ _ := paid.paid
    _ ≤ _ := Nat.add_le_add_left (Nat.mul_le_mul_left _ most) _

end TokenBucket

structure RateEntry where
  surface : Surface
  relId : RelId
  bucket : TokenBucket
  deriving DecidableEq

def RateEntry.key (entry : RateEntry) : Surface × RelId := (entry.surface, entry.relId)

abbrev RateTables := Table RateEntry.key

def RateTables.check (tables : RateTables) (surface : Surface)
    (rel : RelId) (now : Nat) : Bool × RateTables :=
  let (capacity, refill) := surface.bucketParams
  let bucket := ((tables.lookup (surface, rel)).map
    RateEntry.bucket).getD (TokenBucket.new capacity refill now)
  let (granted, bucket) := bucket.check now
  (granted, tables.upsert { surface, relId := rel, bucket })

structure PieceEntry where
  index : UInt16
  data : Bytes
  deriving DecidableEq

structure PendingChunks where
  chunkCount : UInt16
  chunks : Table PieceEntry.index
  totalBytes : Nat
  createdAt : Nat
  deriving DecidableEq

namespace PendingChunks

def new (chunkCount : UInt16) (now : Nat) : PendingChunks :=
  { chunkCount, chunks := .empty, totalBytes := 0, createdAt := now }

def blob (pending : PendingChunks) : Option Bytes :=
  ((List.range pending.chunkCount.toNat).mapM fun index =>
    (pending.chunks.lookup (UInt16.ofNat index)).map PieceEntry.data).map List.flatten

def add (pending : PendingChunks) (index : UInt16) (data : Bytes) : Option Bytes × PendingChunks :=
  if index ≥ pending.chunkCount ∨ (pending.chunks.lookup index).isSome then
    (none, pending)
  else
    let next : PendingChunks := { pending with
      totalBytes := pending.totalBytes + data.length
      chunks := pending.chunks.insertOrIgnore { index, data } }
    (if next.chunks.rows.length = next.chunkCount.toNat then next.blob
      else none, next)

end PendingChunks

structure PendingEntry where
  key : Bytes
  pending : PendingChunks
  deriving DecidableEq

abbrev PendingMap := Table PendingEntry.key

namespace PendingMap

/-- One chunk of one transfer, under the map's own entry and byte caps. A blob
comes out when the transfer is complete, and its entry goes. -/
def feed (map : PendingMap) (maxEntries maxBytes : Nat) (key : Bytes)
    (index count : UInt16) (data : Bytes) (now : Nat) :
    Option Bytes × PendingMap :=
  let remove := fun (map : PendingMap) =>
    map.delete fun entry => entry.key = key
  match map.lookup key with
  | none =>
    if map.rows.length ≥ maxEntries then (none, map)
    else step (PendingChunks.new count now) remove
  | some entry => step entry.pending remove
where
  step (pending : PendingChunks) (remove : PendingMap → PendingMap) : Option Bytes × PendingMap :=
    let admitted := map.upsert { key, pending }
    if pending.chunkCount ≠ count then (none, admitted)
    else if pending.totalBytes + data.length > maxBytes then
      (none, remove admitted)
    else
      let (done, pending) := pending.add index data
      if done.isSome then (done, remove admitted)
      else (none, admitted.upsert { key, pending })

end PendingMap

def maxPendingItems : Nat := 64

def maxPendingItemBytes : Nat := 8 * 1024 * 1024

def maxPendingPacks : Nat := 4

def pendingChunkTtlSec : Nat := 600

/-- Buffers are keyed by content: item hash or pack id. -/
structure PendingBuffers where
  items : PendingMap
  packs : PendingMap
  thumbs : PendingMap
  deriving DecidableEq

namespace PendingBuffers

def stale (now : Nat) (entry : PendingEntry) : Bool :=
  entry.pending.createdAt + pendingChunkTtlSec ≤ now

def sweep (buffers : PendingBuffers) (now : Nat) : PendingBuffers where
  items := buffers.items.delete (stale now)
  packs := buffers.packs.delete (stale now)
  thumbs := buffers.thumbs.delete (stale now)

def empty : PendingBuffers := ⟨.empty, .empty, .empty⟩

end PendingBuffers

end SChatCore.Engine
