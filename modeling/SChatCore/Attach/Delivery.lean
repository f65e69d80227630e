import SChatCore.Attach.Reassembly
import SChatCore.Engine.Api

namespace SChatCore.Attach

open Data Wire Store Engine Policy

/-! The sender's plan. -/

section

variable {sys : Platform} {spec : AttachmentSpec}

theorem toNat_planCount (large : inlineMax < spec.bytes.length)
    (small : spec.bytes.length ≤ maxAttach) :
    (planCount spec.bytes).toNat = pieceCount chunkDataMax spec.bytes := by
  have bound := Stored.pieceCount_le small
  unfold planCount
  rw [if_neg (not_le.mpr large)]
  exact UInt16.toNat_ofNat_of_lt (by show _ < 2 ^ 16; omega)

theorem pieceCount_pos (large : inlineMax < spec.bytes.length) :
    0 < pieceCount chunkDataMax spec.bytes := by
  unfold pieceCount chunkDataMax
  omega

theorem announces_of_planTransfer (planned : planTransfer sys.sha256 spec = .ok plan)
    (large : inlineMax < spec.bytes.length) (small : spec.bytes.length ≤ maxAttach) :
    Announces sys spec.bytes plan.head := by
  unfold planTransfer at planned
  split at planned
  · cases planned
  · cases planned
    refine ⟨toNat_planCount large small, ?_, rfl⟩
    unfold maxAttach at small
    exact UInt32.toNat_ofNat_of_lt (by show _ < 2 ^ 32; omega)

theorem chunks_of_planTransfer (planned : planTransfer sha256 spec = .ok plan) :
    plan.chunks = planChunks spec.bytes := by
  unfold planTransfer at planned
  split at planned
  · cases planned
  · cases planned
    rfl

theorem getElem?_planChunks (found : (planChunks bytes)[index]? = some chunk) :
    chunk = .pad ∨ index < pieceCount chunkDataMax bytes ∧
      chunk = .data (piece chunkDataMax bytes index) := by
  unfold planChunks at found
  split at found
  · cases found
  · rw [List.getElem?_append] at found
    split at found
    · rename_i inside
      right
      rw [List.length_map, length_pieces] at inside
      rw [List.getElem?_map, pieces, List.getElem?_map, List.getElem?_range inside] at found
      exact ⟨inside, (Option.some.inj found).symm⟩
    · left
      exact (List.mem_replicate.mp (List.mem_of_getElem? found)).2

theorem getElem?_planChunks_data (large : inlineMax < bytes.length)
    (inside : index < pieceCount chunkDataMax bytes) :
    (planChunks bytes)[index]? = some (.data (piece chunkDataMax bytes index)) := by
  unfold planChunks
  rw [if_neg (not_le.mpr large), List.getElem?_append_left (by simpa using inside),
    List.getElem?_map, pieces, List.getElem?_map, List.getElem?_range inside]
  rfl

theorem getElem?_planPayloads (planned : planTransfer sys.sha256 spec = .ok plan)
    (small : spec.bytes.length ≤ maxAttach)
    (found : (planPayloads headId plan)[index]? = some chunk) :
    chunk.pad = true ∨ index = chunk.index.toNat ∧ index < pieceCount chunkDataMax spec.bytes ∧
        chunk = dataChunk headId spec.bytes chunk.index := by
  unfold planPayloads at found
  rw [List.getElem?_mapIdx, chunks_of_planTransfer planned, Option.map_eq_some_iff] at found
  obtain ⟨out, listed, rfl⟩ := found
  rcases getElem?_planChunks listed with rfl | ⟨inside, rfl⟩
  · exact .inl rfl
  · right
    have bound := Stored.pieceCount_le small
    have index16 : (UInt16.ofNat index).toNat = index :=
      UInt16.toNat_ofNat_of_lt (by show _ < 2 ^ 16; omega)
    refine ⟨index16.symm, inside, ?_⟩
    show _ = dataChunk headId spec.bytes (UInt16.ofNat index)
    unfold dataChunk
    rw [index16]
    rfl

theorem planPayloads_cases (headId : MsgId) (planned : planTransfer sys.sha256 spec = .ok plan)
    (small : spec.bytes.length ≤ maxAttach) (mem : chunk ∈ planPayloads headId plan) :
    chunk.pad = true ∨ chunk.index.toNat < pieceCount chunkDataMax spec.bytes ∧
        chunk = dataChunk headId spec.bytes chunk.index := by
  obtain ⟨index, found⟩ := List.mem_iff_getElem?.mp mem
  refine (getElem?_planPayloads planned small found).imp_right ?_
  rintro ⟨rfl, inside, same⟩
  exact ⟨inside, same⟩

theorem dataChunk_mem (headId : MsgId) (planned : planTransfer sys.sha256 spec = .ok plan)
    (large : inlineMax < spec.bytes.length)
    (inside : index.toNat < pieceCount chunkDataMax spec.bytes) :
    dataChunk headId spec.bytes index ∈ planPayloads headId plan := by
  refine List.mem_iff_getElem?.mpr ⟨index.toNat, ?_⟩
  unfold planPayloads
  rw [List.getElem?_mapIdx, chunks_of_planTransfer planned, getElem?_planChunks_data large inside]
  simp [chunkPayload, dataChunk]

inductive Delivery
  | head
  | chunk (chunk : AttachChunk)
  deriving DecidableEq

def Delivery.arrival : Delivery → Arrival
  | .head => .head
  | .chunk payload => if payload.pad then .pad else .data payload.index.toNat

def deliver (sys : Platform) (rel : RelId) (headId : MsgId)
    (head : AttachHead) : Delivery → Action (List EngineEvent)
  | .head => onAttachHead sys rel headId { head, inline := none }
  | .chunk chunk => onAttachChunk sys rel chunk

def deliverAll (sys : Platform) (rel : RelId) (headId : MsgId)
    (head : AttachHead) : List (Nat × Delivery) → Action Unit
  | [] => pure ()
  | (clock, delivery) :: rest => do
    modify fun eng => { eng with clock }
    let _ ← deliver sys rel headId head delivery
    deliverAll sys rel headId head rest

structure Delivers (headId : MsgId) (plan : AttachPlan)
    (deliveries : List Delivery) : Prop where
  planned : ∀ chunk, .chunk chunk ∈ deliveries → chunk ∈ planPayloads headId plan
  head : .head ∈ deliveries
  chunks : ∀ chunk ∈ planPayloads headId plan, .chunk chunk ∈ deliveries

def beforeHead (deliveries : List Delivery) : List Delivery := deliveries.takeWhile (· ≠ .head)

def afterHead (deliveries : List Delivery) : List Delivery :=
  (deliveries.dropWhile (· ≠ .head)).tail

def Brings (headId : MsgId) (plan : AttachPlan) (deliveries : List Delivery) : Prop :=
  ∀ chunk ∈ planPayloads headId plan, chunk.pad = false → .chunk chunk ∈ deliveries

def Reassembles (sys : Platform) (rel : RelId) (headId : MsgId)
    (head : AttachHead) (bytes : Bytes) (order : List (Nat × Delivery)) (eng : Engine) : Prop :=
  ∃ next, (deliverAll sys rel headId head order).run eng = .ok () next ∧
    (∃ row, next.db.attachment headId = some row ∧ row.complete = true) ∧
    attachmentBytes next.db headId = some bytes

theorem split_at_head (head : .head ∈ deliveries) :
    deliveries = beforeHead deliveries ++ .head :: afterHead deliveries ∧
      .head ∉ beforeHead deliveries := by
  induction deliveries with
  | nil => cases head
  | cons first rest ih =>
    cases first with
    | head => exact ⟨rfl, List.not_mem_nil⟩
    | chunk chunk =>
      have later : .head ∈ rest := by simpa using head
      obtain ⟨split, headless⟩ := ih later
      refine ⟨congrArg (.chunk chunk :: ·) split, ?_⟩
      show .head ∉ .chunk chunk :: beforeHead rest
      simpa using headless

theorem reads_back_iff (positive : 0 < pieceCount chunkDataMax spec.bytes)
    (receives : Receives sys rel headId spec.bytes phase eng) :
    ((∃ row, eng.db.attachment headId = some row ∧ row.complete = true) ∧
      attachmentBytes eng.db headId = some spec.bytes) ↔
      phase = .complete := by
  cases receives.holds with
  | orphan unseen holds => simp [unseen]
  | pending seen planned open_ marks subset holds => simp [seen, open_]
  | complete seen planned closed holds =>
    have listed : (eng.db.chunksFor headId).isEmpty = false := by
      rw [List.isEmpty_eq_false_iff, ← List.length_pos_iff,
        holds.length_chunksFor, Finset.card_range]
      exact positive
    unfold attachmentBytes
    rw [seen]
    simp [closed, planned.unconsumed, listed, holds.flatten_chunksFor]

variable (planned : planTransfer sys.sha256 spec = .ok plan)
  (large : inlineMax < spec.bytes.length)
  (small : spec.bytes.length ≤ maxAttach)

include planned small

theorem mem_indexes_arrivals {deliveries : List Delivery}
    (known : ∀ chunk, .chunk chunk ∈ deliveries → chunk ∈ planPayloads headId plan) (index : Nat) :
    index ∈ indexes (deliveries.map Delivery.arrival) ↔ index < pieceCount chunkDataMax spec.bytes ∧
        .chunk (dataChunk headId spec.bytes (UInt16.ofNat index)) ∈
          deliveries := by
  have count := Stored.pieceCount_le small
  rw [mem_indexes, List.mem_map]
  constructor
  · rintro ⟨delivery, mem, arrival⟩
    cases delivery with
    | head => cases arrival
    | chunk chunk =>
      rcases planPayloads_cases headId planned small (known chunk mem) with
        pad | ⟨inside, same⟩
      · rw [Delivery.arrival, if_pos pad] at arrival
        cases arrival
      · rw [same] at arrival mem
        cases arrival
        exact ⟨inside, by simpa [dataChunk] using mem⟩
  · rintro ⟨inside, mem⟩
    refine ⟨_, mem, ?_⟩
    have index16 : (UInt16.ofNat index).toNat = index :=
      UInt16.toNat_ofNat_of_lt (by show _ < 2 ^ 16; omega)
    exact congrArg Arrival.data index16

include large
theorem receives_delivery (delivery : Delivery) (known : ∀ chunk, delivery = .chunk chunk →
      chunk ∈ planPayloads headId plan)
    (receives : Receives sys rel headId spec.bytes phase eng) :
    ∃ events next, (deliver sys rel headId plan.head delivery).run eng = .ok events next ∧
      Receives sys rel headId spec.bytes
        (phase.step (pieceCount chunkDataMax spec.bytes) delivery.arrival)
        next := by
  cases delivery with
  | head => exact receives_head (announces_of_planTransfer planned large small) receives
  | chunk chunk =>
    rcases planPayloads_cases headId planned small (known chunk rfl) with
      pad | ⟨inside, same⟩
    · refine ⟨[], eng, ?_, ?_⟩
      · exact (run_onAttachChunk sys rel eng chunk).trans (if_pos pad)
      · have arrival : (Delivery.chunk chunk).arrival = .pad := if_pos pad
        rw [arrival]
        cases phase with
        | orphan stored | pending stored marked | complete => exact receives
    · rw [same]
      exact receives_chunk small receives inside

theorem receives_deliverAll (known : ∀ chunk, .chunk chunk ∈ order.map Prod.snd →
      chunk ∈ planPayloads headId plan)
    (receives : Receives sys rel headId spec.bytes phase eng) :
    ∃ next, (deliverAll sys rel headId plan.head order).run eng = .ok () next ∧
      Receives sys rel headId spec.bytes (phase.run (pieceCount chunkDataMax spec.bytes)
          ((order.map Prod.snd).map Delivery.arrival)) next := by
  induction order generalizing phase eng with
  | nil => exact ⟨eng, rfl, receives⟩
  | cons first rest ih =>
    obtain ⟨clock, delivery⟩ := first
    have ticked : Receives sys rel headId spec.bytes phase
        { eng with clock } := ⟨receives.allowed, receives.holds⟩
    obtain ⟨events, middle, ran, received⟩ := receives_delivery planned
      large small delivery (fun chunk same => known chunk (by simp [same]))
      ticked
    obtain ⟨next, others, final⟩ := ih
      (fun chunk mem => known chunk (List.mem_cons_of_mem _ mem)) received
    refine ⟨next, ?_, final⟩
    rw [deliverAll, EStateM.run_bind, EStateM.run_modify]
    simp only
    rw [EStateM.run_bind, ran]
    exact others

theorem indexes_arrivals_iff {deliveries : List Delivery}
    (known : ∀ chunk, .chunk chunk ∈ deliveries → chunk ∈ planPayloads headId plan) :
    indexes (deliveries.map Delivery.arrival) = Finset.range (pieceCount chunkDataMax spec.bytes) ↔
      Brings headId plan deliveries := by
  have count := Stored.pieceCount_le small
  have listed := mem_indexes_arrivals planned small known
  constructor
  · intro full chunk mem real
    rcases planPayloads_cases headId planned small mem with
      pad | ⟨inside, same⟩
    · rw [real] at pad
      cases pad
    · have arrived := ((listed chunk.index.toNat).mp (full ▸ Finset.mem_range.mpr inside)).2
      rw [UInt16.ofNat_toNat] at arrived
      rwa [same]
  · intro brings
    ext index
    rw [listed, Finset.mem_range]
    refine and_iff_left_of_imp fun inside => ?_
    have index16 : (UInt16.ofNat index).toNat = index :=
      UInt16.toNat_ofNat_of_lt (by show _ < 2 ^ 16; omega)
    exact brings _ (dataChunk_mem headId planned large (index16.symm ▸ inside)) rfl

theorem reassembles_iff_complete (allowed : attachmentsAllowed eng.db rel = .ok true)
    (unseen : eng.db.attachment headId = none)
    (foreign : ∀ row ∈ eng.db.chunks, row.headId ≠ headId ∧ row.relId ≠ rel)
    (delivers : Delivers headId plan (order.map Prod.snd)) :
    Reassembles sys rel headId plan.head spec.bytes order eng ↔
      Phase.run (pieceCount chunkDataMax spec.bytes) (.orphan ∅)
        ((order.map Prod.snd).map Delivery.arrival) = .complete := by
  obtain ⟨next, ran, received⟩ := receives_deliverAll planned large small
    delivers.planned ⟨allowed, .orphan unseen (Stored.empty foreign)⟩
  rw [← reads_back_iff (pieceCount_pos large) received]
  unfold Reassembles
  rw [ran]
  constructor
  · rintro ⟨other, same, reads⟩
    cases same
    exact reads
  · intro reads
    exact ⟨next, rfl, reads⟩

theorem run_arrivals_iff {deliveries : List Delivery} (delivers : Delivers headId plan deliveries) :
    Phase.run (pieceCount chunkDataMax spec.bytes) (.orphan ∅)
        (deliveries.map Delivery.arrival) = .complete ↔
      Brings headId plan (beforeHead deliveries) ∨ Brings headId plan (afterHead deliveries) := by
  obtain ⟨split, headless⟩ := split_at_head delivers.head
  have knownBefore : ∀ chunk, .chunk chunk ∈ beforeHead deliveries →
      chunk ∈ planPayloads headId plan := fun chunk mem =>
    delivers.planned chunk (split ▸ List.mem_append_left _ mem)
  have knownAfter : ∀ chunk, .chunk chunk ∈ afterHead deliveries →
      chunk ∈ planPayloads headId plan := fun chunk mem =>
    delivers.planned chunk (split ▸ List.mem_append_right _ (List.mem_cons_of_mem _ mem))
  have noHead : Arrival.head ∉ (beforeHead deliveries).map Delivery.arrival := by
    intro mem
    obtain ⟨delivery, listed, arrival⟩ := List.mem_map.mp mem
    cases delivery with
    | head => exact headless listed
    | chunk chunk =>
      rw [Delivery.arrival] at arrival
      split at arrival <;> cases arrival
  have bounded : indexes ((afterHead deliveries).map Delivery.arrival) ⊆
      Finset.range (pieceCount chunkDataMax spec.bytes) := fun index mem =>
    Finset.mem_range.mpr ((mem_indexes_arrivals planned small knownAfter index).mp mem).1
  have arrivals := congrArg (List.map Delivery.arrival) split
  rw [List.map_append, List.map_cons] at arrivals
  rw [arrivals]
  show Phase.run _ _ (_ ++ Arrival.head :: _) = _ ↔ _
  rw [Phase.run_eq_complete_iff (pieceCount_pos large) noHead bounded,
    indexes_arrivals_iff planned large small knownBefore,
    indexes_arrivals_iff planned large small knownAfter]

end

/-- A transfer completes and reads back exactly when all of its data chunks
arrive before the first head, or all of them after it. -/
theorem reassembles_iff_one_side {sys : Platform} {rel : RelId}
    {headId : MsgId} {spec : AttachmentSpec} {plan : AttachPlan} {eng : Engine}
    {order : List (Nat × Delivery)} (planned : planTransfer sys.sha256 spec = .ok plan)
    (large : inlineMax < spec.bytes.length) (small : spec.bytes.length ≤ maxAttach)
    (allowed : attachmentsAllowed eng.db rel = .ok true) (unseen : eng.db.attachment headId = none)
    (foreign : ∀ row ∈ eng.db.chunks, row.headId ≠ headId ∧ row.relId ≠ rel)
    (delivers : Delivers headId plan (order.map Prod.snd)) :
    Reassembles sys rel headId plan.head spec.bytes order eng ↔
      Brings headId plan (beforeHead (order.map Prod.snd)) ∨
        Brings headId plan (afterHead (order.map Prod.snd)) :=
  (reassembles_iff_complete planned large small allowed unseen foreign
    delivers).trans (run_arrivals_iff planned large small delivers)

def aroundHead (before after : List AttachChunk) : List Delivery :=
  before.map .chunk ++ .head :: after.map .chunk

theorem delivers_aroundHead (split : planPayloads headId plan = before ++ after) :
    Delivers headId plan (aroundHead before after) where
  planned chunk mem := by
    rw [split]
    simpa [aroundHead] using mem
  head := by simp [aroundHead]
  chunks chunk mem := by
    rw [split] at mem
    simpa [aroundHead] using mem

theorem beforeHead_aroundHead (before after : List AttachChunk) :
    beforeHead (aroundHead before after) = before.map .chunk := by
  unfold beforeHead aroundHead
  simp

theorem afterHead_aroundHead (before after : List AttachChunk) :
    afterHead (aroundHead before after) = after.map .chunk := by
  unfold afterHead aroundHead
  simp

def twoChunks : AttachmentSpec where
  mediaClass := classVideo
  mimeHint := ""
  origExt := ""
  bytes := List.replicate 27901 0
  caption := ""
  viewOnce := false

theorem length_twoChunks : twoChunks.bytes.length = 27901 := List.length_replicate

theorem planTransfer_twoChunks (sha256 : Bytes → Array32) :
    ∃ plan, planTransfer sha256 twoChunks = .ok plan := by
  unfold planTransfer
  rw [if_neg]
  · exact ⟨_, rfl⟩
  · rw [List.isEmpty_iff, ← List.length_eq_zero_iff, length_twoChunks, maxAttach]
    omega

def freshReceiver : Engine :=
  Engine.new (paired (newRelationship "peer" .accepter .active "" [] false 0)) 0

theorem attachmentsAllowed_freshReceiver :
    attachmentsAllowed freshReceiver.db "peer" = .ok true := by
  have found : freshReceiver.db.relationship "peer" =
      some (newRelationship "peer" .accepter .active "" [] false 0) :=
    relationship_paired _
  have wanted : PolicyState.attachments
      (ofRow (newRelationship "peer" .accepter .active "" [] false 0)) = true := by
    decide
  exact congrArg Except.ok wanted

theorem map_snd_clock (deliveries : List Delivery) (clock : Nat) :
    (deliveries.map (clock, ·)).map Prod.snd = deliveries := by
  rw [List.map_map]
  exact List.map_id deliveries

/-- Delivered after their head, the chunks of a transfer complete it. -/
theorem reassembles_head_first :
    ∃ plan, planTransfer Platform.loopback.sha256 twoChunks = .ok plan ∧
      Reassembles Platform.loopback "peer" (.replicate 16 7) plan.head twoChunks.bytes
        ((aroundHead [] (planPayloads (.replicate 16 7) plan)).map (0, ·))
        freshReceiver := by
  obtain ⟨plan, planned⟩ := planTransfer_twoChunks Platform.loopback.sha256
  refine ⟨plan, planned, ?_⟩
  refine (reassembles_iff_one_side planned (by rw [length_twoChunks, inlineMax]; omega)
    (by rw [length_twoChunks, maxAttach]; omega)
    attachmentsAllowed_freshReceiver rfl
    (fun row mem => nomatch mem) ?_).mpr (.inr ?_)
  · rw [map_snd_clock]
    exact delivers_aroundHead rfl
  · rw [map_snd_clock, afterHead_aroundHead]
    intro chunk mem _
    exact List.mem_map_of_mem mem

/-- The first chunk before the head and the others after it: every envelope
of the plan arrived once, and the transfer stays incomplete. -/
theorem not_reassembles_around_head :
    ∃ plan, planTransfer Platform.loopback.sha256 twoChunks = .ok plan ∧
      ∃ first rest, planPayloads (.replicate 16 7) plan = first :: rest ∧
        ¬ Reassembles Platform.loopback "peer" (.replicate 16 7) plan.head
          twoChunks.bytes ((aroundHead [first] rest).map (0, ·))
          freshReceiver := by
  obtain ⟨plan, planned⟩ := planTransfer_twoChunks Platform.loopback.sha256
  have large : inlineMax < twoChunks.bytes.length := by
    rw [length_twoChunks, inlineMax]
    omega
  have small : twoChunks.bytes.length ≤ maxAttach := by
    rw [length_twoChunks, maxAttach]
    omega
  have count : pieceCount chunkDataMax twoChunks.bytes = 2 := by
    rw [pieceCount, length_twoChunks, chunkDataMax]
  have zero := dataChunk_mem (.replicate 16 7) planned large
    (count ▸ (by decide : (0 : UInt16).toNat < 2))
  have one := dataChunk_mem (.replicate 16 7) planned large
    (count ▸ (by decide : (1 : UInt16).toNat < 2))
  refine ⟨plan, planned, ?_⟩
  cases split : planPayloads (.replicate 16 7) plan with
  | nil =>
    rw [split] at zero
    cases zero
  | cons first rest =>
    refine ⟨first, rest, rfl, ?_⟩
    rw [reassembles_iff_complete planned large small attachmentsAllowed_freshReceiver rfl
      (fun row mem => nomatch mem)
      (by rw [map_snd_clock]; exact delivers_aroundHead split),
      map_snd_clock,
      run_arrivals_iff planned large small (delivers_aroundHead split),
      beforeHead_aroundHead, afterHead_aroundHead]
    rintro (brings | brings)
    · -- chunk 1 is not the first envelope of the plan
      obtain ⟨chunk, listed, same⟩ := List.mem_map.mp (brings _ one rfl)
      cases same
      cases List.mem_singleton.mp listed
      have place : (planPayloads (.replicate 16 7) plan)[0]? =
          some (dataChunk (.replicate 16 7) twoChunks.bytes 1) := by
        rw [split]
        rfl
      rcases getElem?_planPayloads planned small place with pad | ⟨same, _⟩
      · cases pad
      · cases same
    · -- and chunk 0 is not among the others
      obtain ⟨chunk, listed, same⟩ := List.mem_map.mp (brings _ zero rfl)
      cases same
      obtain ⟨index, found⟩ := List.mem_iff_getElem?.mp listed
      have place : (planPayloads (.replicate 16 7) plan)[index + 1]? =
          some (dataChunk (.replicate 16 7) twoChunks.bytes 0) := by
        rw [split]
        exact found
      rcases getElem?_planPayloads planned small place with pad | ⟨same, _⟩
      · cases pad
      · cases same

end SChatCore.Attach
