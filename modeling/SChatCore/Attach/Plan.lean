import SChatCore.Attach.Sizes

namespace SChatCore.Attach

open Data Wire Engine

/-! The plan of a transfer is exact. -/

/-- The chunks of a plan are the pieces of the file and then pads, as many as
its head announces. -/
structure ExactPlan (bytes : Bytes) (plan : AttachPlan) (data : List Bytes) :
    Prop where
  dataFirst : ∃ pads, plan.chunks = data.map ChunkOut.data ++ List.replicate pads ChunkOut.pad
  whole : data.flatten = bytes
  sizes : ∀ piece ∈ data, 1 ≤ piece.length ∧ piece.length ≤ chunkDataMax
  full : ∀ piece ∈ data.dropLast, piece.length = chunkDataMax
  count : plan.head.chunkCount.toNat = data.length
  bucket : IsLeast { n | bucketGranularity.toNat ∣ n ∧ data.length ≤ n } plan.head.chunkBucket.toNat
  filled : plan.chunks.length = plan.head.chunkBucket.toNat
  bounded : plan.head.chunkBucket ≤ maxChunks
  length : plan.head.uncompressedN.toNat = bytes.length
  indices : ∀ (headId : MsgId) (index : Nat) (chunk : AttachChunk),
    (planPayloads headId plan)[index]? = some chunk → chunk.index.toNat = index

section

variable {bytes : Bytes} {index : Nat}

theorem piece_range (inside : index < pieceCount chunkDataMax bytes) :
    1 ≤ (piece chunkDataMax bytes index).length ∧
      (piece chunkDataMax bytes index).length ≤ chunkDataMax := by
  have before := (lt_pieceCount_iff (by decide) bytes index).mp inside
  have positive : 0 < chunkDataMax := by decide
  rw [length_piece]
  omega

theorem piece_full (inside : index + 1 < pieceCount chunkDataMax bytes) :
    (piece chunkDataMax bytes index).length = chunkDataMax := by
  have before := (lt_pieceCount_iff (by decide) bytes (index + 1)).mp inside
  rw [Nat.succ_mul] at before
  rw [length_piece]
  omega

end

section

variable {spec : AttachmentSpec} (large : inlineMax < spec.bytes.length)
  (small : spec.bytes.length ≤ maxAttach)
include large small

theorem length_planChunks : (planChunks spec.bytes).length =
      (planBucket (planCount spec.bytes)).toNat := by
  have bucket := toNat_planBucket large small
  unfold planChunks
  rw [if_neg (not_le.mpr large)]
  simp only [List.length_append, List.length_map, length_pieces, List.length_replicate]
  omega

theorem planTransfer_exact (sha256 : Bytes → Array32) :
    ∃ plan data, planTransfer sha256 spec = .ok plan ∧ ExactPlan spec.bytes plan data := by
  have bound := Stored.pieceCount_le small
  have bucket := toNat_planBucket large small
  refine ⟨_, pieces chunkDataMax spec.bytes,
    planTransfer_large large small sha256, ?_, flatten_pieces (by decide) _,
    ?_, ?_, ?_, ⟨⟨?_, ?_⟩, ?_⟩, length_planChunks large small, ?_, ?_, ?_⟩
  · unfold planChunks
    rw [if_neg (not_le.mpr large)]
    exact ⟨_, rfl⟩
  · intro chunk mem
    obtain ⟨index, inside, rfl⟩ := List.mem_map.mp mem
    exact piece_range (List.mem_range.mp inside)
  · intro chunk mem
    rw [pieces, ← List.map_dropLast] at mem
    obtain ⟨index, inside, rfl⟩ := List.mem_map.mp mem
    refine piece_full ?_
    rw [List.dropLast_eq_take, List.take_range, List.length_range] at inside
    have before := List.mem_range.mp inside
    omega
  · rw [length_pieces]
    exact toNat_planCount large small
  · show 8 ∣ (planBucket (planCount spec.bytes)).toNat
    rw [bucket]
    exact Nat.dvd_mul_left _ _
  · show _ ≤ (planBucket (planCount spec.bytes)).toNat
    rw [bucket, length_pieces]
    omega
  · rintro n ⟨⟨factor, rfl⟩, enough⟩
    show (planBucket (planCount spec.bytes)).toNat ≤ 8 * factor
    replace enough : (pieces chunkDataMax spec.bytes).length ≤ 8 * factor := enough
    rw [length_pieces] at enough
    omega
  · refine UInt16.le_iff_toNat_le.mpr ?_
    show (planBucket (planCount spec.bytes)).toNat ≤ 1024
    omega
  · show (UInt32.ofNat spec.bytes.length).toNat = _
    unfold maxAttach at small
    exact UInt32.toNat_ofNat_of_lt (by show _ < 2 ^ 32; omega)
  · intro headId index chunk found
    unfold planPayloads at found
    rw [List.getElem?_mapIdx, Option.map_eq_some_iff] at found
    obtain ⟨out, listed, rfl⟩ := found
    obtain ⟨inside, -⟩ := List.getElem?_eq_some_iff.mp listed
    rw [length_planChunks large small] at inside
    have value : (UInt16.ofNat index).toNat = index :=
      UInt16.toNat_ofNat_of_lt (by show _ < 2 ^ 16; omega)
    cases out with
    | data bytes => exact value
    | pad => exact value

end

theorem planTransfer_exact_picture : ∃ plan data,
    planTransfer Platform.loopback.sha256 (picture 28000) = .ok plan ∧
      ExactPlan (picture 28000).bytes plan data :=
  planTransfer_exact (@range_picture 28000 (by decide) (by decide)).1
    (@range_picture 28000 (by decide) (by decide)).2 _

def transferPayloads (headId : MsgId) (spec : AttachmentSpec) (plan : AttachPlan) : List Payload :=
  .attachHead {
    head := plan.head
    inline := if spec.bytes.length ≤ inlineMax then some spec.bytes else none } ::
    (planPayloads headId plan).map Payload.attachChunk

/-- Whatever id, number and time the envelope gets, it encodes. -/
def Sendable (nfc : String → String) (payload : Payload) : Prop :=
  ∀ msgId appSeq sentAt, ∃ bytes, (Envelope.mk msgId appSeq sentAt none
    payload).encode nfc = .ok bytes

/-- An attachment within the limits of every field of its head. -/
structure Within (spec : AttachmentSpec) : Prop where
  content : spec.bytes ≠ []
  small : spec.bytes.length ≤ maxAttach
  mediaClass : spec.mediaClass = classImage ∨ spec.mediaClass = classVideo
  mimeHint : (asBytes spec.mimeHint).length ≤ maxMime
  origExt : (asBytes spec.origExt).length ≤ maxExt
  caption : (asBytes spec.caption).length ≤ maxCaption

def specFlags (spec : AttachmentSpec) : UInt8 := if spec.viewOnce then flagViewOnce else 0

def inlineSize (spec : AttachmentSpec) : Nat :=
  88 + (asBytes spec.mimeHint).length + (asBytes spec.origExt).length +
    AttachHead.tailSize (asBytes spec.caption) (specFlags spec) +
    spec.bytes.length

section

variable {nfc : String → String}

theorem sendable_iff {payload : Payload} :
    Sendable nfc payload ↔ ∃ bytes, payload.encode nfc = .ok bytes ∧
      38 + bytes.length ≤ maxEnvelopeBytes := by
  constructor
  · intro sendable
    exact (Envelope.encodable_iff ⟨.replicate 16 0, 0, 0, none, payload⟩).mpr (sendable _ _ _)
  · intro encodable msgId appSeq sentAt
    exact (Envelope.encodable_iff ⟨msgId, appSeq, sentAt, none, payload⟩).mp encodable

theorem encodeCaptionTail_length (flags : UInt8) (bounded : (asBytes caption).length ≤ maxCaption) :
    ∃ tail, AttachHead.encodeCaptionTail caption flags = .ok tail ∧
      tail.length = AttachHead.tailSize (asBytes caption) flags := by
  unfold AttachHead.encodeCaptionTail AttachHead.tailSize
  rw [if_neg (not_lt.mpr bounded)]
  by_cases plain : flags = 0
  · cases empty : (asBytes caption).isEmpty with
    | true => exact ⟨_, if_pos ⟨rfl, plain⟩, by simp [plain]⟩
    | false => exact ⟨_, if_neg (by simp), by simp [plain]⟩
  · refine ⟨_, if_neg fun both => plain both.2, ?_⟩
    simp only [ne_eq, plain, not_false_eq_true, if_true, List.length_append,
      length_lp, List.length_singleton]
    omega

section

variable {head : AttachHead} {tail : Bytes}
  (valid : head.validateCommon = .ok ())
  (written : AttachHead.encodeCaptionTail head.caption head.flags = .ok tail)
include valid written

theorem length_encodeChunked (plan : head.checkPlan = .ok ()) :
    ∃ bytes, head.encodeChunked = .ok bytes ∧ bytes.length = 50 +
      (asBytes head.mimeHint).length + (asBytes head.origExt).length +
      tail.length := by
  have encoded : head.encodeChunked = .ok ([1, head.mediaClass] ++
      lp (asBytes head.mimeHint) ++ lp (asBytes head.origExt) ++
      u32be head.uncompressedN ++ u16be head.chunkCount ++
      u16be head.chunkBucket ++ head.contentSha256.toList ++ tail) := by
    unfold AttachHead.encodeChunked
    rw [valid, plan, written]
    rfl
  refine ⟨_, encoded, ?_⟩
  simp
  omega

theorem length_encodeInline {blob : Bytes} (unplanned : head.chunkCount = 0 ∧ head.chunkBucket = 0)
    (announced : blob.length = head.uncompressedN.toNat) :
    ∃ bytes, head.encodeInline blob = .ok bytes ∧ bytes.length = 50 +
      (asBytes head.mimeHint).length + (asBytes head.origExt).length +
      tail.length + blob.length := by
  have encoded : head.encodeInline blob = .ok ([2, head.mediaClass] ++
      lp (asBytes head.mimeHint) ++ lp (asBytes head.origExt) ++
      u32be head.uncompressedN ++ head.contentSha256.toList ++ tail ++
      lp blob) := by
    unfold AttachHead.encodeInline
    rw [valid, written, if_neg (by simp [unplanned]), if_neg (by
      simp [announced])]
    rfl
  refine ⟨_, encoded, ?_⟩
  simp
  omega

end

variable {spec : AttachmentSpec} {plan : AttachPlan} {sha256 : Bytes → Array32}

theorem Within.planned (within : Within spec) : ∃ plan, planTransfer sha256 spec = .ok plan := by
  unfold planTransfer
  rw [if_neg ?_]
  · exact ⟨_, rfl⟩
  · rintro (empty | long)
    · exact within.content (List.isEmpty_iff.mp empty)
    · exact absurd within.small (not_le.mpr long)

theorem Within.toNat_length (within : Within spec) :
    (UInt32.ofNat spec.bytes.length).toNat = spec.bytes.length := by
  have small := within.small
  unfold maxAttach at small
  exact UInt32.toNat_ofNat_of_lt (by show _ < 2 ^ 32; omega)

theorem Within.validateCommon (within : Within spec)
    (planned : planTransfer sha256 spec = .ok plan) :
    plan.head.validateCommon = .ok () := by
  have positive := List.length_pos_iff.mpr within.content
  have length := within.toNat_length
  unfold planTransfer at planned
  split at planned
  · cases planned
  · cases planned
    refine AttachHead.validateCommon_eq_ok.mpr ⟨within.mediaClass,
      within.mimeHint, within.origExt, ?_, within.caption⟩
    simp only [length]
    exact ⟨positive, within.small⟩

theorem Within.sendable_chunked (within : Within spec) (large : inlineMax < spec.bytes.length) :
    Sendable nfc (.attachHead {
      head := chunkedHead sha256 spec, inline := none }) := by
  obtain ⟨tail, written, length⟩ := encodeCaptionTail_length (specFlags spec) within.caption
  obtain ⟨bytes, encoded, total⟩ := @length_encodeChunked (chunkedHead sha256 spec) tail
    (within.validateCommon (planTransfer_large large within.small sha256))
    written (checkPlan_chunkedHead large within.small sha256)
  refine sendable_iff.mpr ⟨bytes, encoded, ?_⟩
  have short := AttachHead.tailSize_le (asBytes spec.caption) (specFlags spec)
  have caption : (asBytes spec.caption).length ≤ 16384 := within.caption
  have mime : (asBytes spec.mimeHint).length ≤ 64 := within.mimeHint
  have ext : (asBytes spec.origExt).length ≤ 8 := within.origExt
  unfold maxEnvelopeBytes
  simp only [chunkedHead] at total
  omega

theorem Within.sendable_inline_iff (within : Within spec) (small : spec.bytes.length ≤ inlineMax)
    (planned : planTransfer sha256 spec = .ok plan) :
    Sendable nfc (.attachHead {
      head := plan.head, inline := some spec.bytes }) ↔
      inlineSize spec ≤ maxEnvelopeBytes := by
  have valid := within.validateCommon planned
  have announced := within.toNat_length
  unfold planTransfer at planned
  split at planned
  · cases planned
  cases planned
  obtain ⟨tail, written, length⟩ := encodeCaptionTail_length (specFlags spec) within.caption
  obtain ⟨bytes, encoded, total⟩ := @length_encodeInline _ tail valid written
    spec.bytes ⟨if_pos small, rfl⟩ announced.symm
  have size : 38 + bytes.length = inlineSize spec := by
    unfold inlineSize
    simp only at total
    omega
  rw [← size, sendable_iff]
  constructor
  · rintro ⟨bytes', encoded', fits⟩
    cases encoded.symm.trans encoded'
    exact fits
  · intro fits
    exact ⟨bytes, encoded, fits⟩

theorem sendable_chunk {chunk : AttachChunk} (bounded : chunk.data.length ≤ chunkDataMax)
    (padded : chunk.pad = true → chunk.data = []) :
    Sendable nfc (.attachChunk chunk) := by
  obtain ⟨bytes, encoded, total⟩ := @length_encodeChunk nfc _ bounded padded
  exact sendable_iff.mpr ⟨bytes, encoded, total.trans_le (chunk_fits bounded)⟩

theorem sendable_planned (planned : planTransfer sha256 spec = .ok plan)
    (mem : chunk ∈ planPayloads headId plan) :
    Sendable nfc (.attachChunk chunk) := by
  obtain ⟨index, found⟩ := List.mem_iff_getElem?.mp mem
  unfold planPayloads at found
  rw [List.getElem?_mapIdx, chunks_of_planTransfer planned, Option.map_eq_some_iff] at found
  obtain ⟨out, listed, rfl⟩ := found
  rcases getElem?_planChunks listed with rfl | ⟨inside, rfl⟩
  · exact sendable_chunk (Nat.zero_le _) fun _ => rfl
  · exact sendable_chunk (piece_range inside).2 nofun

/-- The head and every chunk of a plan encode, unless the head carries the
file and the caption leaves it no room. -/
theorem plan_sendable_iff (sha256 : Bytes → Array32) (within : Within spec) :
    (∃ plan, planTransfer sha256 spec = .ok plan ∧
      ∀ headId, ∀ payload ∈ transferPayloads headId spec plan, Sendable nfc payload) ↔
      (spec.bytes.length ≤ inlineMax → inlineSize spec ≤ maxEnvelopeBytes) := by
  constructor
  · rintro ⟨plan, planned, sendable⟩ small
    have head := sendable (.replicate 16 0) _ List.mem_cons_self
    rw [if_pos small] at head
    exact (within.sendable_inline_iff small planned).mp head
  · intro fits
    obtain ⟨plan, planned⟩ := @Within.planned spec sha256 within
    refine ⟨plan, planned, fun headId payload mem => ?_⟩
    rcases List.mem_cons.mp mem with rfl | listed
    · rcases Nat.lt_or_ge inlineMax spec.bytes.length with large | small
      · rw [if_neg (not_le.mpr large)]
        cases planned.symm.trans (planTransfer_large large within.small sha256)
        exact within.sendable_chunked large
      · rw [if_pos small]
        exact (within.sendable_inline_iff small planned).mpr (fits small)
    · obtain ⟨chunk, chosen, rfl⟩ := List.mem_map.mp listed
      exact sendable_planned planned chosen

end

/-! A caption beside a file that nearly fills the head. -/

def captioned (length : Nat) : AttachmentSpec where
  mediaClass := classImage
  mimeHint := "image/png"
  origExt := "png"
  bytes := List.replicate inlineMax 0
  caption := String.ofList (List.replicate length 'a')
  viewOnce := false

section

variable {length : Nat}

theorem length_captioned : (asBytes (captioned length).caption).length = length := by
  show (asBytes (String.ofList (List.replicate length 'a'))).length = length
  unfold asBytes
  rw [String.toByteArray_ofList]
  induction length with
  | zero => rfl
  | succ length ih =>
    rw [List.replicate_succ, List.utf8Encode_cons, ByteArray.data_append,
      Array.toList_append, List.length_append, ih, Nat.add_comm]
    rfl

theorem within_captioned (short : length ≤ maxCaption) : Within (captioned length) where
  content := by
    simp only [captioned]
    decide
  small := by
    simp only [captioned, List.length_replicate]
    decide
  mediaClass := .inl rfl
  mimeHint := show (asBytes "image/png").length ≤ maxMime by decide
  origExt := show (asBytes "png").length ≤ maxExt by decide
  caption := length_captioned.trans_le short

theorem inlineSize_captioned (something : length ≠ 0) :
    inlineSize (captioned length) = 27104 + length := by
  have mime : (asBytes (captioned length).mimeHint).length = 9 :=
    show (asBytes "image/png").length = 9 by decide
  have ext : (asBytes (captioned length).origExt).length = 3 :=
    show (asBytes "png").length = 3 by decide
  have bytes : (captioned length).bytes.length = 27000 := List.length_replicate
  have caption : (asBytes (captioned length).caption).isEmpty = false := by
    rw [← Bool.not_eq_true, List.isEmpty_iff_length_eq_zero, length_captioned]
    exact something
  unfold inlineSize AttachHead.tailSize
  rw [mime, ext, bytes, caption, length_captioned]
  show 88 + 9 + 3 + (4 + length) + 27000 = _
  omega

end

theorem short_caption_sendable :
    ∃ plan, planTransfer Platform.loopback.sha256 (captioned 3) = .ok plan ∧
      ∀ headId, ∀ payload ∈ transferPayloads headId (captioned 3) plan,
        Sendable Platform.loopback.nfc payload := by
  refine (plan_sendable_iff _ (within_captioned (by decide))).mpr fun _ => ?_
  rw [inlineSize_captioned (by decide)]
  decide

theorem long_caption_unsendable : Within (captioned 900) ∧
      ∀ plan, planTransfer Platform.loopback.sha256 (captioned 900) = .ok plan →
        ¬ ∀ headId, ∀ payload ∈ transferPayloads headId (captioned 900) plan,
          Sendable Platform.loopback.nfc payload := by
  have within : Within (captioned 900) := within_captioned (by decide)
  have small : (captioned 900).bytes.length ≤ inlineMax := (List.length_replicate (n := 27000)).le
  refine ⟨within, fun plan planned sendable => ?_⟩
  have head := sendable (.replicate 16 0) _ List.mem_cons_self
  rw [if_pos small, within.sendable_inline_iff small planned,
    inlineSize_captioned (by decide)] at head
  exact absurd head (by decide)

end SChatCore.Attach
