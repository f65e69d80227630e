import SChatCore.Attach.Delivery
import SChatCore.Wire.Reencode

namespace SChatCore.Attach

open Data Wire Engine

/-! What the sizes of the records of a transfer show of the file. -/

/-! Two lengths are told apart by the buckets that hold only one of them. -/

def SameBucket (first second : Nat) : Prop :=
  ∀ bucket ∈ recordBuckets, first ≤ bucket ↔ second ≤ bucket

instance (first second : Nat) : Decidable (SameBucket first second) :=
  inferInstanceAs (Decidable (∀ bucket ∈ recordBuckets, _))

theorem SameBucket.symm (same : SameBucket first second) :
    SameBucket second first :=
  fun bucket mem => (same bucket mem).symm

theorem le_iff_bucketFor (mem : bucket ∈ recordBuckets) : recordHeaderBytes + payloadLen ≤ bucket ↔
      ∃ found, bucketFor payloadLen = some found ∧ found ≤ bucket := by
  have sorted : recordBuckets.Pairwise (· < ·) := by decide
  constructor
  · intro fits
    cases found : bucketFor payloadLen with
    | none =>
      exact absurd (decide_eq_true fits) (by
        simpa using List.find?_eq_none.mp found bucket mem)
    | some first =>
      refine ⟨first, rfl, ?_⟩
      obtain ⟨-, before, after, split, skipped⟩ := List.find?_eq_some_iff_append.mp found
      rw [split] at mem sorted
      rcases List.mem_append.mp mem with early | late
      · have small := skipped bucket early
        simp at small
        omega
      · rcases List.mem_cons.mp late with same | later
        · exact same.ge
        · have ordered := (List.pairwise_append.mp sorted).2.1
          exact (List.rel_of_pairwise_cons ordered later).le
  · rintro ⟨first, found, le⟩
    have fits := List.find?_some found
    simp only [decide_eq_true_eq] at fits
    omega

theorem bucketFor_of_sameBucket
    (same : SameBucket (recordHeaderBytes + first) (recordHeaderBytes + second))
    (found : bucketFor first = some bucket) :
    bucketFor second = some bucket := by
  have mem := List.mem_of_find?_eq_some found
  have fits := (le_iff_bucketFor mem).mpr ⟨bucket, found, le_rfl⟩
  obtain ⟨other, found', le⟩ := (le_iff_bucketFor mem).mp ((same bucket mem).mp fits)
  have member' := List.mem_of_find?_eq_some found'
  have fits' := (le_iff_bucketFor member').mpr ⟨other, found', le_rfl⟩
  obtain ⟨again, found'', ge⟩ := (le_iff_bucketFor member').mp ((same other member').mpr fits')
  cases found.symm.trans found''
  rw [found', le_antisymm le ge]

theorem bucketFor_eq_iff : bucketFor first = bucketFor second ↔
      SameBucket (recordHeaderBytes + first) (recordHeaderBytes + second) := by
  constructor
  · intro same bucket mem
    rw [le_iff_bucketFor mem, le_iff_bucketFor mem, same]
  · intro same
    refine Option.ext fun bucket => ?_
    exact ⟨fun found => bucketFor_of_sameBucket same found,
      fun found => bucketFor_of_sameBucket same.symm found⟩

theorem length_buildRecord {padding : Nat → UInt8} {payload : Bytes} :
    ((Wire.buildRecord padding payload).toOption).map List.length = bucketFor payload.length := by
  unfold Wire.buildRecord
  split
  · rename_i none
    rw [none]
    rfl
  · rename_i bucket found
    rw [found]
    have fits := List.find?_some found
    simp only [decide_eq_true_eq] at fits
    simp only [Except.toOption, Option.map_some, Option.some.injEq,
      List.length_append, List.length_cons, length_u16be, List.length_map, List.length_range]
    unfold recordHeaderBytes at *
    omega

/-! The session, as far as an observer of lengths sees it. -/

/-- The ids, times, keys and padding of a transfer are arbitrary; a plaintext
of `n` bytes becomes a ciphertext of `length n`. -/
structure Channel (length : Nat → Nat) where
  stamp : Nat → MsgId × UInt64 × UInt64
  cipher : Nat → Bytes → Bytes
  preKey : Nat → Bool
  padding : Nat → Nat → UInt8
  length_cipher : ∀ index plain, (cipher index plain).length = length plain.length

namespace Channel

variable (channel : Channel length)

def envelope (index : Nat) (payload : Payload) : Envelope where
  msgId := (channel.stamp index).1
  appSeq := (channel.stamp index).2.1
  sentAt := (channel.stamp index).2.2
  refId := none
  payload := payload

def kind (index : Nat) : CiphertextKind := if channel.preKey index then .preKey else .signal

/-- The size of the record the payload at `index` leaves in, if it does. -/
def size (nfc : String → String) (index : Nat) (payload : Payload) :
    Option Nat := do
  let plain ← ((channel.envelope index payload).encode nfc).toOption
  let frame ← (frameOf (channel.kind index) (channel.cipher index plain)).toOption
  let record ← (Wire.buildRecord (channel.padding index) frame).toOption
  return record.length

def sizes (sys : Platform) (spec : AttachmentSpec) : List (Option Nat) :=
  match planTransfer sys.sha256 spec with
  | .error _ => []
  | .ok plan =>
    let inline := if spec.bytes.length ≤ inlineMax then some spec.bytes else none
    (.attachHead { head := plan.head, inline } ::
      (planPayloads (channel.stamp 0).1 plan).map Payload.attachChunk).mapIdx (channel.size sys.nfc)

end Channel

def plaintextLen (nfc : String → String) (payload : Payload) : Option Nat :=
  ((payload.encode nfc).toOption.map fun bytes => 38 + bytes.length).filter
    fun len => len ≤ maxEnvelopeBytes

theorem length_frameOf {channel : Channel length} (index : Nat) (body : Bytes) :
    ∃ frame, frameOf (channel.kind index) body = .ok frame ∧ frame.length = body.length + 1 := by
  unfold Channel.kind
  split
  · exact ⟨_, rfl, rfl⟩
  · exact ⟨_, rfl, rfl⟩

theorem Channel.size_eq (channel : Channel length) (nfc : String → String)
    (index : Nat) (payload : Payload) :
    channel.size nfc index payload = (plaintextLen nfc payload).bind fun len =>
        bucketFor (length len + 1) := by
  unfold Channel.size plaintextLen
  cases encoded : (channel.envelope index payload).encode nfc with
  | error error =>
    cases written : payload.encode nfc with
    | error error' => rfl
    | ok bytes =>
      have large : ¬ 38 + bytes.length ≤ maxEnvelopeBytes := by
        intro fits
        obtain ⟨out, ok⟩ := (@Envelope.encodable_iff nfc
          (channel.envelope index payload)).mp ⟨bytes, written, fits⟩
        rw [encoded] at ok
        cases ok
      simp [Except.toOption, Option.filter, large]
  | ok plain =>
    obtain ⟨bytes, written, fits, rfl⟩ := Envelope.encode_eq_ok.mp encoded
    have len : ((channel.envelope index payload).raw bytes).bytes.length =
        38 + bytes.length := Envelope.length_bytes _
    have written : payload.encode nfc = .ok bytes := written
    obtain ⟨frame, framed, longer⟩ := @length_frameOf _ channel index
      (channel.cipher index ((channel.envelope index payload).raw bytes).bytes)
    rw [channel.length_cipher, len] at longer
    rw [len] at fits
    have built := @length_buildRecord (channel.padding index) frame
    rw [longer] at built
    simp only [written, Except.toOption, Option.map_some, Option.filter,
      fits, decide_true, if_true, framed, Option.bind_some, Option.bind_eq_bind]
    rw [← built]
    cases Wire.buildRecord (channel.padding index) frame with
    | error error => rfl
    | ok record => rfl

theorem map_length_encodeChunked {first second : AttachHead}
    (mediaClass : first.mediaClass = second.mediaClass)
    (mimeHint : first.mimeHint = second.mimeHint) (origExt : first.origExt = second.origExt)
    (caption : first.caption = second.caption) (flags : first.flags = second.flags)
    (ranges : (1 ≤ first.uncompressedN.toNat ∧ first.uncompressedN.toNat ≤ maxAttach) ∧
      1 ≤ second.uncompressedN.toNat ∧ second.uncompressedN.toNat ≤ maxAttach)
    (plans : first.checkPlan = .ok () ∧ second.checkPlan = .ok ()) :
    first.encodeChunked.toOption.map List.length =
      second.encodeChunked.toOption.map List.length := by
  have valid : first.validateCommon = .ok () ↔ second.validateCommon = .ok () := by
    rw [AttachHead.validateCommon_eq_ok, AttachHead.validateCommon_eq_ok,
      mediaClass, mimeHint, origExt, caption]
    simp only [ranges.1, ranges.2, true_and]
  unfold AttachHead.encodeChunked
  rw [plans.1, plans.2, caption, flags, mediaClass, mimeHint, origExt]
  cases firstValid : first.validateCommon with
  | ok _ =>
    rw [valid.mp firstValid]
    cases AttachHead.encodeCaptionTail second.caption second.flags with
    | error error => rfl
    | ok tail => simp [bind, Except.bind, pure, Except.pure, Except.toOption]
  | error error =>
    cases secondValid : second.validateCommon with
    | ok _ =>
      rw [valid.mpr secondValid] at firstValid
      cases firstValid
    | error error' => rfl

theorem plaintextLen_chunked (lengths : first.encodeChunked.toOption.map List.length =
      second.encodeChunked.toOption.map List.length) :
    plaintextLen nfc (.attachHead { head := first, inline := none }) =
      plaintextLen nfc (.attachHead { head := second, inline := none }) := by
  have sums := congrArg (Option.map fun len => 38 + len) lengths
  simp only [Option.map_map] at sums
  exact congrArg (Option.filter fun len => len ≤ maxEnvelopeBytes) sums

/-- The bytes of the chunk at `index`; past the file they are none, as in a
pad. -/
def dataLen (n index : Nat) : Nat := min chunkDataMax (n - index * chunkDataMax)

section

variable {nfc : String → String} {chunk : AttachChunk}
  (bounded : chunk.data.length ≤ chunkDataMax)
  (padded : chunk.pad = true → chunk.data = [])
include bounded padded

theorem length_encodeChunk : ∃ bytes, Payload.encode nfc (.attachChunk chunk) = .ok bytes ∧
      38 + bytes.length = 61 + chunk.data.length := by
  have empty : ¬ (chunk.pad = true ∧ ¬ chunk.data.isEmpty = true) := by
    rintro ⟨pad, content⟩
    exact content (by rw [padded pad]; rfl)
  have encoded : Payload.encode nfc (.attachChunk chunk) =
      .ok (chunk.headId.toList ++ (u16be chunk.index ++
        ((if chunk.pad then 1 else 0) :: lp chunk.data))) := by
    show chunk.encodePayload = _
    unfold AttachChunk.encodePayload
    rw [if_neg (not_lt.mpr bounded), if_neg empty]
  refine ⟨_, encoded, ?_⟩
  simp
  omega

omit padded in
theorem chunk_fits : 61 + chunk.data.length ≤ maxEnvelopeBytes := by
  unfold chunkDataMax at bounded
  unfold maxEnvelopeBytes
  omega

theorem plaintextLen_chunk :
    plaintextLen nfc (.attachChunk chunk) = some (61 + chunk.data.length) := by
  obtain ⟨bytes, encoded, total⟩ := @length_encodeChunk nfc _ bounded padded
  unfold plaintextLen
  rw [encoded]
  simp only [Except.toOption, Option.map_some, total]
  exact Option.filter_some_pos (decide_eq_true (chunk_fits bounded))

end

section

variable {bytes : Bytes} (large : inlineMax < bytes.length)
  (small : bytes.length ≤ maxAttach)
include large small

theorem toNat_planBucket : (planBucket (planCount bytes)).toNat =
    (pieceCount chunkDataMax bytes + 7) / 8 * 8 := by
  have bound := Stored.pieceCount_le small
  have count : (planCount bytes).toNat = pieceCount chunkDataMax bytes := by
    unfold planCount
    rw [if_neg (not_le.mpr large)]
    exact UInt16.toNat_ofNat_of_lt (by show _ < 2 ^ 16; omega)
  have partly : planCount bytes % 8 > 0 ↔ 0 < pieceCount chunkDataMax bytes % 8 := by
    rw [gt_iff_lt, UInt16.lt_iff_toNat_lt, UInt16.toNat_mod, count]
    rfl
  unfold planBucket bucketGranularity
  simp only [UInt16.toNat_mul, UInt16.toNat_div, UInt16.toNat_add, count]
  split
  · have odd := partly.mp ‹_›
    simp
    omega
  · have even := partly.not.mp ‹_›
    simp
    omega

omit small in
theorem getElem?_planChunks_eq (index : Nat) : (planChunks bytes)[index]? =
      if index < pieceCount chunkDataMax bytes then
        some (.data (piece chunkDataMax bytes index))
      else if index < (planBucket (planCount bytes)).toNat then some .pad
      else none := by
  split
  · rename_i inside
    exact getElem?_planChunks_data large inside
  · rename_i outside
    unfold planChunks
    rw [if_neg (not_le.mpr large), List.getElem?_append_right (by
      simpa using outside)]
    simp only [List.length_map, length_pieces, List.getElem?_replicate]
    split
    · rw [if_pos (by omega)]
    · rw [if_neg (by omega)]

theorem planPayloads_getElem? (headId : MsgId)
    (chunks : plan.chunks = planChunks bytes) (index : Nat) :
    if index < (planBucket (planCount bytes)).toNat then
      ∃ chunk, (planPayloads headId plan)[index]? = some chunk ∧
        chunk.data.length = dataLen bytes.length index ∧
        (chunk.pad = true → chunk.data = [])
    else (planPayloads headId plan)[index]? = none := by
  have whole := toNat_planBucket large small
  unfold planPayloads
  rw [List.getElem?_mapIdx, chunks, getElem?_planChunks_eq large]
  split
  · split
    · refine ⟨_, rfl, ?_, nofun⟩
      simp [chunkPayload, piece, dataLen]
    · rename_i outside
      refine ⟨_, rfl, ?_, fun _ => rfl⟩
      have past := @length_le_pieceCount_mul _ chunkDataMax (by decide) bytes
      have further := Nat.mul_le_mul_right chunkDataMax (not_lt.mp outside)
      simp only [chunkPayload, List.length_nil, dataLen]
      omega
  · rw [if_neg (by omega)]
    rfl

end

def inRecord (length : Nat → Nat) (data : Nat) : Nat := recordHeaderBytes + (length (61 + data) + 1)

def chunkedHead (sha256 : Bytes → Array32) (spec : AttachmentSpec) : AttachHead where
  mediaClass := spec.mediaClass
  mimeHint := spec.mimeHint
  origExt := spec.origExt
  uncompressedN := UInt32.ofNat spec.bytes.length
  chunkCount := planCount spec.bytes
  chunkBucket := planBucket (planCount spec.bytes)
  contentSha256 := sha256 spec.bytes
  caption := spec.caption
  flags := if spec.viewOnce then flagViewOnce else 0

section

variable {spec : AttachmentSpec} (large : inlineMax < spec.bytes.length)
  (small : spec.bytes.length ≤ maxAttach)
include large small

theorem planTransfer_large (sha256 : Bytes → Array32) : planTransfer sha256 spec =
      .ok { head := chunkedHead sha256 spec, chunks := planChunks spec.bytes } := by
  have content : ¬ (spec.bytes.isEmpty ∨ spec.bytes.length > maxAttach) := by
    rintro (empty | long)
    · rw [List.isEmpty_iff] at empty
      rw [empty] at large
      exact absurd large (by decide)
    · omega
  unfold planTransfer chunkedHead
  rw [if_neg content, if_neg (not_le.mpr large)]

theorem checkPlan_chunkedHead (sha256 : Bytes → Array32) :
    (chunkedHead sha256 spec).checkPlan = .ok () := by
  have count := toNat_planCount large small
  have bucket := toNat_planBucket large small
  have positive := pieceCount_pos large
  have bound := Stored.pieceCount_le small
  have limit : maxChunks.toNat = 1024 := rfl
  unfold AttachHead.checkPlan chunkedHead
  rw [if_neg ?_]
  simp only [gt_iff_lt, UInt16.lt_iff_toNat_lt, limit, count, bucket]
  show ¬ (_ < 1 ∨ _)
  omega

theorem uncompressedN_chunkedHead (sha256 : Bytes → Array32) :
    1 ≤ (chunkedHead sha256 spec).uncompressedN.toNat ∧
      (chunkedHead sha256 spec).uncompressedN.toNat ≤ maxAttach := by
  have value : (UInt32.ofNat spec.bytes.length).toNat = spec.bytes.length := by
    unfold maxAttach at small
    exact UInt32.toNat_ofNat_of_lt (by show _ < 2 ^ 32; omega)
  show 1 ≤ (UInt32.ofNat _).toNat ∧ (UInt32.ofNat _).toNat ≤ _
  rw [value]
  exact ⟨by omega, small⟩

/-- The records of a transfer in pieces: the head's, and one for each chunk up
to the bucket. -/
theorem Channel.sizes_eq (channel : Channel length) :
    channel.sizes sys spec = channel.size sys.nfc 0 (.attachHead {
        head := chunkedHead sys.sha256 spec, inline := none }) ::
      (List.range (planBucket (planCount spec.bytes)).toNat).map fun index =>
        bucketFor (length (61 + dataLen spec.bytes.length index) + 1) := by
  unfold Channel.sizes
  rw [planTransfer_large large small, if_neg (not_le.mpr large)]
  simp only [List.mapIdx_cons]
  congr 1
  refine List.ext_getElem? fun index => ?_
  rw [List.getElem?_mapIdx, List.getElem?_map, List.getElem?_map]
  have planned := @planPayloads_getElem? _ large small
    ⟨chunkedHead sys.sha256 spec, planChunks spec.bytes⟩
    (channel.stamp 0).1 rfl index
  split at planned
  · rename_i inside
    obtain ⟨chunk, found, size, padded⟩ := planned
    rw [found, List.getElem?_range inside]
    have bounded : chunk.data.length ≤ chunkDataMax := size.trans_le (min_le_left _ _)
    simp only [Option.map_some, channel.size_eq,
      plaintextLen_chunk bounded padded, Option.bind_some, size]
  · rename_i outside
    rw [planned, List.getElem?_eq_none (by simpa using outside)]
    rfl

end

/-! What the sizes show: the number of full chunks, up to what the last one
shares with a full chunk or with a pad. -/

def chunksOf (n : Nat) : Nat := (n - 1) / chunkDataMax + 1

def lastLen (n : Nat) : Nat := (n - 1) % chunkDataMax + 1

section

variable (positive : 0 < n)
include positive

theorem dataLen_of_lt (before : index + 1 < chunksOf n) : dataLen n index = chunkDataMax := by
  unfold chunksOf chunkDataMax at before
  unfold dataLen chunkDataMax
  omega

theorem dataLen_last (last : index + 1 = chunksOf n) : dataLen n index = lastLen n := by
  unfold chunksOf chunkDataMax at last
  unfold dataLen lastLen chunkDataMax
  omega

theorem dataLen_of_ge (past : chunksOf n ≤ index) : dataLen n index = 0 := by
  unfold chunksOf chunkDataMax at past
  unfold dataLen chunkDataMax
  omega

theorem chunksOf_eq {bytes : Bytes} (length : bytes.length = n) :
    pieceCount chunkDataMax bytes = chunksOf n := by
  unfold pieceCount chunksOf chunkDataMax
  omega

end

/-- The longer file has one chunk more, which passes for a pad, where the
last chunk of the shorter passes for a full one. -/
def Spills (length : Nat → Nat) (shorter longer : Nat) : Prop :=
  chunksOf longer = chunksOf shorter + 1 ∧ SameBucket (inRecord length (lastLen shorter))
      (inRecord length chunkDataMax) ∧
    SameBucket (inRecord length (lastLen longer)) (inRecord length 0)

/-- Two lengths an observer of the records cannot tell apart. -/
def Alike (length : Nat → Nat) (first second : Nat) : Prop :=
  chunksOf first = chunksOf second ∧ SameBucket (inRecord length (lastLen first))
        (inRecord length (lastLen second)) ∨
    Spills length first second ∨ Spills length second first

section

variable {length : Nat → Nat} (lower : ∀ n, n ≤ length n)
  (upper : ∀ n, length n ≤ n + 4096)

include lower upper in
theorem full_apart_from_pad : ¬ SameBucket (inRecord length 0) (inRecord length chunkDataMax) := by
  intro same
  have fits := (same 16384 (by decide)).mp
  have pad := upper 61
  have full := lower (61 + chunkDataMax)
  unfold inRecord recordHeaderBytes chunkDataMax at fits
  unfold chunkDataMax at full
  simp only [Nat.add_zero] at fits
  omega

def SameShape (length : Nat → Nat) (bucket first second : Nat) : Prop :=
  ∀ index < bucket, SameBucket (inRecord length (dataLen first index))
    (inRecord length (dataLen second index))

include lower upper in
theorem spills_of_sameShape (positive : 0 < shorter) (positive' : 0 < longer)
    (fits : chunksOf longer ≤ bucket) (fewer : chunksOf shorter < chunksOf longer)
    (same : SameShape length bucket shorter longer) :
    Spills length shorter longer := by
  have next := same (chunksOf shorter) (by omega)
  rw [dataLen_of_ge positive le_rfl] at next
  have one : chunksOf longer = chunksOf shorter + 1 := by
    by_contra more
    rw [dataLen_of_lt positive' (by omega)] at next
    exact full_apart_from_pad lower upper next
  rw [dataLen_last positive' one.symm] at next
  have count : 0 < chunksOf shorter := Nat.succ_pos _
  have last := same (chunksOf shorter - 1) (by omega)
  rw [dataLen_last positive (by omega), dataLen_of_lt positive' (by omega)] at last
  exact ⟨one, last, next.symm⟩

theorem sameShape_of_spills (positive : 0 < shorter) (positive' : 0 < longer)
    (spills : Spills length shorter longer) :
    SameShape length bucket shorter longer := by
  obtain ⟨one, last, extra⟩ := spills
  intro index _
  rcases Nat.lt_trichotomy (index + 1) (chunksOf shorter) with
    before | here | past
  · rw [dataLen_of_lt positive before, dataLen_of_lt positive' (by omega)]
    exact fun _ _ => Iff.rfl
  · rw [dataLen_last positive here, dataLen_of_lt positive' (by omega)]
    exact last
  · rw [dataLen_of_ge positive (by omega)]
    rcases Nat.lt_or_eq_of_le (Nat.succ_le_of_lt past) with later | next
    · rw [dataLen_of_ge positive' (by omega)]
      exact fun _ _ => Iff.rfl
    · rw [dataLen_last positive' (by omega)]
      exact extra.symm

include lower upper in
theorem sameShape_iff (positive : 0 < first) (positive' : 0 < second)
    (fits : chunksOf first ≤ bucket) (fits' : chunksOf second ≤ bucket) :
    SameShape length bucket first second ↔ Alike length first second := by
  constructor
  · intro same
    rcases Nat.lt_trichotomy (chunksOf first) (chunksOf second) with
      fewer | equal | more
    · exact .inr (.inl (spills_of_sameShape lower upper positive positive' fits' fewer same))
    · have count : 0 < chunksOf first := Nat.succ_pos _
      have last := same (chunksOf first - 1) (by omega)
      rw [dataLen_last positive (by omega), dataLen_last positive' (by omega)] at last
      exact .inl ⟨equal, last⟩
    · exact .inr (.inr (spills_of_sameShape lower upper positive' positive
        fits more fun index inside => (same index inside).symm))
  · rintro (⟨equal, last⟩ | spills | spills)
    · intro index _
      rcases Nat.lt_trichotomy (index + 1) (chunksOf first) with
        before | here | past
      · rw [dataLen_of_lt positive before, dataLen_of_lt positive' (by omega)]
        exact fun _ _ => Iff.rfl
      · rw [dataLen_last positive here, dataLen_last positive' (by omega)]
        exact last
      · rw [dataLen_of_ge positive (by omega), dataLen_of_ge positive' (by omega)]
        exact fun _ _ => Iff.rfl
    · exact sameShape_of_spills positive positive' spills
    · exact fun index inside =>
        (sameShape_of_spills positive' positive spills index inside).symm

end

def bucketOf (sha256 : Bytes → Array32) (spec : AttachmentSpec) : Option UInt16 :=
  (planTransfer sha256 spec).toOption.map fun plan => plan.head.chunkBucket

theorem bucketOf_large (large : inlineMax < spec.bytes.length)
    (small : spec.bytes.length ≤ maxAttach) (sha256 : Bytes → Array32) :
    bucketOf sha256 spec = some (planBucket (planCount spec.bytes)) := by
  unfold bucketOf
  rw [planTransfer_large large small]
  rfl

section

variable {sys : Platform} (first second : Channel length)
  {spec : AttachmentSpec} {other : Bytes}
  (range : inlineMax < spec.bytes.length ∧ spec.bytes.length ≤ maxAttach)
  (range' : inlineMax < other.length ∧ other.length ≤ maxAttach)
include range range'

theorem size_heads_eq : first.size sys.nfc 0 (.attachHead {
        head := chunkedHead sys.sha256 spec, inline := none }) =
      second.size sys.nfc 0 (.attachHead {
        head := chunkedHead sys.sha256 { spec with bytes := other },
        inline := none }) := by
  have second' : inlineMax < ({ spec with bytes := other } :
      AttachmentSpec).bytes.length ∧ _ := range'
  have lengths := @map_length_encodeChunked (chunkedHead sys.sha256 spec)
    (chunkedHead sys.sha256 { spec with bytes := other })
    rfl rfl rfl rfl rfl
    ⟨uncompressedN_chunkedHead range.1 range.2 sys.sha256,
      uncompressedN_chunkedHead second'.1 second'.2 sys.sha256⟩
    ⟨checkPlan_chunkedHead range.1 range.2 sys.sha256,
      checkPlan_chunkedHead second'.1 second'.2 sys.sha256⟩
  rw [first.size_eq, second.size_eq, plaintextLen_chunked lengths]

theorem sizes_eq_iff_sameShape (bucket : bucketOf sys.sha256 spec =
      bucketOf sys.sha256 { spec with bytes := other }) :
    first.sizes sys spec = second.sizes sys { spec with bytes := other } ↔
      SameShape length (planBucket (planCount spec.bytes)).toNat
        spec.bytes.length other.length := by
  have second' : inlineMax < ({ spec with bytes := other } :
      AttachmentSpec).bytes.length ∧ _ := range'
  have buckets : planBucket (planCount spec.bytes) = planBucket (planCount other) := by
    rw [bucketOf_large range.1 range.2, bucketOf_large second'.1 second'.2] at bucket
    exact Option.some.inj bucket
  rw [first.sizes_eq range.1 range.2, second.sizes_eq second'.1 second'.2,
    size_heads_eq first second range range', List.cons_inj_right]
  show (List.range _).map _ = (List.range (planBucket (planCount other)).toNat).map _ ↔ _
  rw [← buckets, List.map_inj_left]
  simp only [List.mem_range, bucketFor_eq_iff]
  rfl

omit range' in
theorem chunksOf_le_bucket :
    chunksOf spec.bytes.length ≤ (planBucket (planCount spec.bytes)).toNat := by
  have whole := toNat_planBucket range.1 range.2
  have count := @chunksOf_eq _ (by omega) spec.bytes rfl
  omega

end

/-- Two files of one bucket, sent with the same metadata over any two
sessions, leave in records of the same sizes exactly if their lengths are
alike. -/
theorem sizes_eq_iff_alike {length : Nat → Nat} (lower : ∀ n, n ≤ length n)
    (upper : ∀ n, length n ≤ n + 4096) (sys : Platform)
    (first second : Channel length) (spec : AttachmentSpec) (other : Bytes)
    (range : inlineMax < spec.bytes.length ∧ spec.bytes.length ≤ maxAttach)
    (range' : inlineMax < other.length ∧ other.length ≤ maxAttach)
    (bucket : bucketOf sys.sha256 spec = bucketOf sys.sha256 { spec with bytes := other }) :
    first.sizes sys spec = second.sizes sys { spec with bytes := other } ↔
      Alike length spec.bytes.length other.length := by
  have second' : inlineMax < ({ spec with bytes := other } :
      AttachmentSpec).bytes.length ∧ _ := range'
  have buckets := bucket
  rw [bucketOf_large range.1 range.2, bucketOf_large second'.1 second'.2] at buckets
  have fits := chunksOf_le_bucket second'
  rw [← Option.some.inj buckets] at fits
  rw [sizes_eq_iff_sameShape first second range range' bucket]
  exact sameShape_iff lower upper (by omega) (by omega) (chunksOf_le_bucket range) fits

def clearChannel : Channel id where
  stamp _ := (List.Vector.replicate 16 0, 0, 0)
  cipher _ plain := plain
  preKey _ := false
  padding _ _ := 0
  length_cipher _ _ := rfl

def picture (n : Nat) : AttachmentSpec where
  mediaClass := classImage
  mimeHint := ""
  origExt := ""
  bytes := List.replicate n 0
  caption := ""
  viewOnce := false

theorem range_picture {n : Nat} (large : inlineMax < n) (small : n ≤ maxAttach) :
    inlineMax < (picture n).bytes.length ∧ (picture n).bytes.length ≤ maxAttach := by
  have length : (picture n).bytes.length = n := List.length_replicate
  rw [length]
  exact ⟨large, small⟩

theorem bucketOf_picture (sha256 : Bytes → Array32) (large : inlineMax < n)
    (small : n ≤ maxAttach) :
    bucketOf sha256 (picture n) =
      some (planBucket (UInt16.ofNat ((n + chunkDataMax - 1) / chunkDataMax)))
    := by
  have length : (picture n).bytes.length = n := List.length_replicate
  rw [bucketOf_large (by omega) (by omega), planCount,
    if_neg (by rw [length]; omega), pieceCount, length]

theorem neighbours_alike : clearChannel.sizes .loopback (picture 28000) =
      clearChannel.sizes .loopback (picture 28001) := by
  have range := @range_picture 28000 (by decide) (by decide)
  have range' := @range_picture 28001 (by decide) (by decide)
  refine (sizes_eq_iff_alike (fun _ => le_rfl) (fun _ => Nat.le_add_right _ _)
    .loopback clearChannel clearChannel (picture 28000)
    (picture 28001).bytes range range' ?_).mpr ?_
  · refine (bucketOf_picture _ (by decide) (by decide)).trans
      ((bucketOf_picture _ (by decide) (by decide)).trans ?_).symm
    decide
  · show Alike id (List.replicate _ _).length (List.replicate _ _).length
    rw [List.length_replicate, List.length_replicate]
    exact .inl ⟨by decide, by decide⟩

/-- Two chunks either way, the second one short or full. -/
theorem last_chunk_shows : bucketOf Platform.loopback.sha256 (picture 28000) =
        bucketOf Platform.loopback.sha256 (picture 55800) ∧
      clearChannel.sizes .loopback (picture 28000) ≠
        clearChannel.sizes .loopback (picture 55800) := by
  have range := @range_picture 28000 (by decide) (by decide)
  have range' := @range_picture 55800 (by decide) (by decide)
  have bucket : bucketOf Platform.loopback.sha256 (picture 28000) =
      bucketOf Platform.loopback.sha256 (picture 55800) := by
    refine (bucketOf_picture _ (by decide) (by decide)).trans
      ((bucketOf_picture _ (by decide) (by decide)).trans ?_).symm
    decide
  refine ⟨bucket, fun same => ?_⟩
  have shape := (sizes_eq_iff_sameShape clearChannel clearChannel range range' bucket).mp same 1 ?_
  · simp only [picture, List.length_replicate] at shape
    exact absurd shape (by decide)
  · have fits := chunksOf_le_bucket range
    simp only [picture, List.length_replicate] at fits ⊢
    exact lt_of_lt_of_le (by decide) fits

end SChatCore.Attach
