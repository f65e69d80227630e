import SChatCore.Engine.Resync
import SChatCore.Repair.Exact

namespace SChatCore.Repair

open Data Wire Store Engine

/-! What a request decides about the rows that are still under way. -/

structure UnderWay (db : Db) (rel : RelId) (row : MessageRow) : Prop where
  stored : row ∈ db.messages
  own : row.relId = rel
  out : row.direction = .out
  undecided : row.state = .queued ∨ row.state = .transmitted

/-- The number is above the horizon of the request and its bit is not set; the
bitmap may end before it. -/
def Lacking (request : ResyncReq) (seq : UInt64) : Prop :=
  request.maxContiguousSeq.toNat < seq.toNat ∧
    let offset := seq.toNat - request.maxContiguousSeq.toNat - 1
    ∀ byte, request.receivedSeqBitmap[offset / 8]? = some byte →
      byte.toNat.testBit (offset % 8) = false

def windowEnd (request : ResyncReq) : Nat := request.maxContiguousSeq.toNat + bitmapBits

section

variable {db : Db}

theorem toNat_through (room : windowEnd request < 2 ^ 64) :
    (request.maxContiguousSeq + UInt64.ofNat bitmapBits).toNat =
      windowEnd request := by
  have bits : (UInt64.ofNat bitmapBits).toNat = bitmapBits := by decide
  rw [UInt64.toNat_add, bits]
  exact Nat.mod_eq_of_lt room

theorem mem_unsettled_iff (low : row.appSeq.toNat < 2 ^ 63) (room : windowEnd request < 2 ^ 63) :
    row ∈ unsettled db rel request ↔
      UnderWay db rel row ∧ row.appSeq.toNat ≤ windowEnd request := by
  have edge := @toNat_through request (by omega)
  rw [mem_unsettled, signed_of_lt low, signed_of_lt (edge ▸ room), edge, Int.ofNat_le]
  constructor
  · rintro ⟨stored, own, out, inside, undecided⟩
    exact ⟨⟨stored, own, out, undecided⟩, inside⟩
  · rintro ⟨⟨stored, own, out, undecided⟩, inside⟩
    exact ⟨stored, own, out, inside, undecided⟩

theorem unsettled_eq_nil (numbered : ∀ row, UnderWay db rel row → row.appSeq.toNat < 2 ^ 63)
    (high : 2 ^ 63 ≤ windowEnd request) (room : windowEnd request < 2 ^ 64) :
    unsettled db rel request = [] := by
  refine List.eq_nil_iff_forall_not_mem.mpr fun row listed => ?_
  obtain ⟨stored, own, out, inside, undecided⟩ := mem_unsettled.mp listed
  have low := numbered row ⟨stored, own, out, undecided⟩
  have below : signed (request.maxContiguousSeq + UInt64.ofNat bitmapBits) < 0 :=
    (signed_neg_iff _).mpr (toNat_through room ▸ high)
  rw [signed_of_lt low] at inside
  omega

theorem covers_eq_true_iff : covers request row = true ↔ isMissing request.maxContiguousSeq
      request.receivedSeqBitmap row.appSeq = false := by
  unfold covers
  rw [Bool.not_eq_true']

theorem covers_eq_false_iff (positive : 0 < row.appSeq.toNat)
    (inside : row.appSeq.toNat ≤ windowEnd request) :
    covers request row = false ↔ Lacking request row.appSeq := by
  unfold windowEnd at inside
  rw [← Bool.not_eq_true, covers_eq_true_iff, isMissing_eq_false_iff positive]
  unfold Lacking
  simp only [← Bitmap.has_eq_false_iff]
  constructor
  · intro uncovered
    have above : request.maxContiguousSeq.toNat < row.appSeq.toNat :=
      Nat.not_le.mp fun low => uncovered (.inl low)
    refine ⟨above, ?_⟩
    rw [← Bool.not_eq_true]
    exact fun marked => uncovered (.inr ⟨above, by omega, marked⟩)
  · rintro ⟨above, clear⟩ (low | ⟨-, -, marked⟩)
    · omega
    · rw [clear] at marked
      cases marked

theorem mem_coveredIds (mem : row ∈ rows) (covered : covers request row = true) :
    row.msgId ∈ coveredIds request rows :=
  List.mem_map_of_mem (List.mem_filter.mpr ⟨mem, covered⟩)

theorem mem_coveredIds_unsettled (stored : row ∈ db.messages) :
    row.msgId ∈ coveredIds request (unsettled db rel request) ↔
      row ∈ unsettled db rel request ∧ covers request row = true := by
  constructor
  · intro listed
    obtain ⟨other, chosen, same⟩ := List.mem_map.mp listed
    obtain ⟨candidate, covered⟩ := List.mem_filter.mp chosen
    have equal : other = row := Table.eq_of_key_eq (mem_unsettled.mp candidate).1 stored same
    exact equal ▸ ⟨candidate, covered⟩
  · rintro ⟨candidate, covered⟩
    exact mem_coveredIds candidate covered

theorem message_acknowledged_of_stored {ids : List MsgId} (stored : row ∈ db.messages) :
    (acknowledged ids db).message row.msgId =
      some (if row.msgId ∈ ids then { row with state := .acknowledged } else row) := by
  have found : db.message row.msgId = some row := Table.lookup_key stored
  simp only [message_acknowledged, found, Option.map_some, List.contains_iff_mem]

end

theorem pairwise_retransmits (unique : ∀ first second, first ∈ unsettled eng.db rel request →
      second ∈ unsettled eng.db rel request →
      first.appSeq = second.appSeq → first = second) :
    (retransmits rel request eng).Pairwise fun first second =>
      signed first.appSeq < signed second.appSeq := by
  have sorted : (unsettled eng.db rel request).Pairwise
      fun first second => signed first.appSeq ≤ signed second.appSeq :=
    List.pairwise_insertionSort _ _
  have distinct : (unsettled eng.db rel request).Pairwise fun first second => first ≠ second := by
    have ids := @nodup_unsettled eng.db rel request
    exact (List.Nodup.of_map _ ids)
  have ascending : (unsettled eng.db rel request).Pairwise
      fun first second => signed first.appSeq < signed second.appSeq := by
    refine (sorted.and distinct).imp_of_mem fun {first second} one two both => ?_
    refine lt_of_le_of_ne both.1 fun same => both.2 ?_
    exact unique first second one two (signed_injective same)
  unfold retransmits
  refine ascending.filterMap _ fun first second less frame sent other next => ?_
  unfold retransmit at sent next
  split at sent
  · cases sent
  split at next
  · cases next
  obtain ⟨_, -, rfl⟩ := Option.map_eq_some_iff.mp sent
  obtain ⟨_, -, rfl⟩ := Option.map_eq_some_iff.mp next
  exact less

def Shown (request : ResyncReq) (row : MessageRow) : Prop :=
  row.appSeq.toNat ≤ windowEnd request ∧ ¬ Lacking request row.appSeq

/-- The row is within the window, lacking and alive, and its frame is kept. -/
structure Overdue (eng : Engine) (rel : RelId) (request : ResyncReq)
    (row : MessageRow) (frame : Retransmit) : Prop where
  underWay : UnderWay eng.db rel row
  inside : row.appSeq.toNat ≤ windowEnd request
  lacking : Lacking request row.appSeq
  alive : row.expired eng.clock = false
  cached : ∃ kept ∈ eng.db.ciphertexts, kept.msgId = row.msgId ∧
    kept.relId = rel ∧ kept.frameBytes = frame.frame
  sameId : frame.msgId = row.msgId
  sameSeq : frame.appSeq = row.appSeq

/-- The verdict on every row: shown rows are acknowledged, the frames of
lacking ones come back in order, and nothing else changes. -/
structure Verdict (rel : RelId) (request : ResyncReq) (eng : Engine)
    (frames : List Retransmit) (after : Engine) : Prop where
  acknowledged : ∀ row, UnderWay eng.db rel row → Shown request row →
    after.db.message row.msgId = some { row with state := .acknowledged }
  others : ∀ row ∈ eng.db.messages, ¬ (UnderWay eng.db rel row ∧ Shown request row) →
    after.db.message row.msgId = some row
  unknown : ∀ msgId, eng.db.message msgId = none → after.db.message msgId = none
  rest : after = { eng with
    db := { eng.db with messages := after.db.messages } }
  returned : ∀ frame, frame ∈ frames ↔ ∃ row, Overdue eng rel request row frame
  ascending : frames.Pairwise fun first second => first.appSeq < second.appSeq

/-- The numbers of the outbound rows, as the store compares them. -/
def Numbered (db : Db) (rel : RelId) : Prop :=
  ∀ row ∈ db.messages, row.relId = rel → row.direction = .out →
    1 ≤ row.appSeq.toNat ∧ row.appSeq.toNat < 2 ^ 63

theorem Numbered.underWay (numbered : Numbered db rel) (underWay : UnderWay db rel row) :
    1 ≤ row.appSeq.toNat ∧ row.appSeq.toNat < 2 ^ 63 :=
  numbered row underWay.stored underWay.own underWay.out

section

variable (numbered : Numbered db rel) (room : windowEnd request < 2 ^ 63)

include numbered room

theorem mem_unsettled_iff_underWay : row ∈ unsettled db rel request ↔
      UnderWay db rel row ∧ row.appSeq.toNat ≤ windowEnd request := by
  constructor
  · intro listed
    obtain ⟨stored, own, out, -, -⟩ := mem_unsettled.mp listed
    exact (mem_unsettled_iff (numbered row stored own out).2 room).mp listed
  · rintro ⟨underWay, inside⟩
    exact (mem_unsettled_iff (numbered.underWay underWay).2 room).mpr ⟨underWay, inside⟩

theorem mem_coveredIds_iff_shown (stored : row ∈ db.messages) :
    row.msgId ∈ coveredIds request (unsettled db rel request) ↔
      UnderWay db rel row ∧ Shown request row := by
  rw [mem_coveredIds_unsettled stored, mem_unsettled_iff_underWay numbered room, and_assoc]
  refine and_congr_right fun underWay => and_congr_right fun inside => ?_
  rw [← covers_eq_false_iff (numbered.underWay underWay).1 inside, Bool.not_eq_false]

end

theorem handleRequest_exact (active : sessionState eng.db rel ≠ .broken)
    (numbered : Numbered eng.db rel)
    (unique : ∀ first ∈ eng.db.messages, ∀ second ∈ eng.db.messages,
      first.relId = rel → first.direction = .out →
      second.relId = rel → second.direction = .out →
      first.appSeq = second.appSeq → first = second)
    (room : windowEnd request < 2 ^ 63) :
    ∃ frames after, (handleRequest rel request).run eng = .ok frames after ∧
        Verdict rel request eng frames after := by
  have candidate : ∀ row, row ∈ unsettled eng.db rel request ↔
      UnderWay eng.db rel row ∧ row.appSeq.toNat ≤ windowEnd request :=
    fun row => mem_unsettled_iff_underWay numbered room
  have verdict : ∀ row, UnderWay eng.db rel row → row.appSeq.toNat ≤ windowEnd request →
      (covers request row = false ↔ Lacking request row.appSeq) :=
    fun row underWay inside =>
      covers_eq_false_iff (numbered.underWay underWay).1 inside
  refine ⟨_, _, run_handleRequest active, ?_, ?_, ?_, rfl, ?_, ?_⟩
  · intro row underWay shown
    rw [message_acknowledged_of_stored underWay.stored, if_pos
      ((mem_coveredIds_iff_shown numbered room underWay.stored).mpr ⟨underWay, shown⟩)]
  · intro row stored spared
    rw [message_acknowledged_of_stored stored, if_neg fun chosen =>
      spared ((mem_coveredIds_iff_shown numbered room stored).mp chosen)]
  · intro msgId absent
    rw [message_acknowledged, absent]
    rfl
  · intro frame
    refine mem_retransmits.trans ⟨?_, ?_⟩
    · rintro ⟨row, listed, lacking, alive, cached, sameId, sameSeq⟩
      obtain ⟨underWay, inside⟩ := (candidate row).mp listed
      exact ⟨row, underWay, inside, (verdict row underWay inside).mp lacking,
        alive, Db.storedCiphertext_eq_some.mp cached, sameId, sameSeq⟩
    · rintro ⟨row, overdue⟩
      exact ⟨row, (candidate row).mpr ⟨overdue.underWay, overdue.inside⟩,
        (verdict row overdue.underWay overdue.inside).mpr overdue.lacking,
        overdue.alive, Db.storedCiphertext_eq_some.mpr overdue.cached,
        overdue.sameId, overdue.sameSeq⟩
  · have ascending := @pairwise_retransmits rel request eng fun first second one two same => by
        obtain ⟨first', -⟩ := (candidate first).mp one
        obtain ⟨second', -⟩ := (candidate second).mp two
        exact unique first first'.stored second second'.stored first'.own
          first'.out second'.own second'.out same
    refine ascending.imp_of_mem fun {first second} one two less => ?_
    have plain : ∀ frame ∈ retransmits rel request eng,
        signed frame.appSeq = frame.appSeq.toNat := by
      intro frame sent
      obtain ⟨row, listed, -, -, -, -, sameSeq⟩ := mem_retransmits.mp sent
      obtain ⟨underWay, -⟩ := (candidate row).mp listed
      rw [sameSeq]
      exact signed_of_lt (numbered.underWay underWay).2
    rw [plain first one, plain second two] at less
    exact UInt64.lt_iff_toNat_lt.mpr (Int.ofNat_lt.mp less)

/-- The end of the window does not overflow, and every row under way at or
below the horizon is acknowledged: exactly if the window ends below the signed
numbers, or below the unsigned ones with no such row. -/
theorem acks_below_horizon_iff (active : sessionState eng.db rel ≠ .broken)
    (numbered : Numbered eng.db rel) :
    (windowEnd request < 2 ^ 64 ∧ ∃ frames after,
      (handleRequest rel request).run eng = .ok frames after ∧ ∀ row, UnderWay eng.db rel row →
          row.appSeq.toNat ≤ request.maxContiguousSeq.toNat →
          after.db.message row.msgId = some { row with state := .acknowledged }) ↔
    windowEnd request < 2 ^ 63 ∨ windowEnd request < 2 ^ 64 ∧ ∀ row, UnderWay eng.db rel row →
        request.maxContiguousSeq.toNat < row.appSeq.toNat := by
  have ran := @run_handleRequest rel request eng active
  constructor
  · rintro ⟨room, frames, after, ran', settled⟩
    cases ran.symm.trans ran'
    rcases Nat.lt_or_ge (windowEnd request) (2 ^ 63) with low | high
    · exact .inl low
    · refine .inr ⟨room, fun row underWay => Nat.not_le.mp fun below => ?_⟩
      have acked := settled row underWay below
      have none : unsettled eng.db rel request = [] := unsettled_eq_nil
        (fun row underWay => (numbered.underWay underWay).2) high room
      have kept := @message_acknowledged_of_stored eng.db row [] underWay.stored
      rw [none] at acked
      have same : row = { row with state := .acknowledged } :=
        Option.some.inj (kept.symm.trans acked)
      have state : row.state = .acknowledged := congrArg MessageRow.state same
      rcases underWay.undecided with queued | transmitted
      · cases queued.symm.trans state
      · cases transmitted.symm.trans state
  · rintro (low | ⟨room, above⟩)
    · refine ⟨by omega, _, _, ran, fun row underWay below => ?_⟩
      rw [message_acknowledged_of_stored underWay.stored, if_pos]
      refine (mem_coveredIds_iff_shown numbered low underWay.stored).mpr ⟨underWay, ?_, ?_⟩
      · exact below.trans (Nat.le_add_right _ _)
      · exact fun lacking => absurd lacking.1 (Nat.not_lt.mpr below)
    · refine ⟨room, _, _, ran, fun row underWay below => ?_⟩
      exact absurd below (Nat.not_le.mpr (above row underWay))

/-! Two rows under way, and requests with horizons of two sizes. -/

def underWayRow (seq : UInt64) : MessageRow := NewMessage.row {
  msgId := .replicate 16 seq.toUInt8
  relId := "bob"
  direction := .out
  appSeq := seq
  sentAt := 0
  receivedAt := none
  envType := EnvelopeType.profileReq.code
  refId := none
  payload := []
  state := .transmitted
  expiresAt := none } 0

def waiting : Engine := Engine.new { Db.empty with
  messages := ⟨[underWayRow 1, underWayRow 2], by decide +kernel⟩
  ciphertexts := ⟨[⟨.replicate 16 2, "bob", [9], 0⟩], List.nodup_singleton _⟩ } 0

def requestAt (horizon : UInt64) : ResyncReq where
  maxContiguousSeq := horizon
  receivedSeqBitmap := []
  caps := 0
  historyHash := .replicate 32 0

theorem numbered_waiting : Numbered waiting.db "bob" := by
  have rows : ∀ row ∈ waiting.db.messages.rows,
      1 ≤ row.appSeq.toNat ∧ row.appSeq.toNat < 2 ^ 63 := by decide +kernel
  exact fun row stored _ _ => rows row stored

theorem underWay_waiting : UnderWay waiting.db "bob" (underWayRow 1) :=
  ⟨List.mem_cons_self, rfl, rfl, .inr rfl⟩

/-- The first row is below the horizon; the second is lacking, and its frame
comes back. -/
theorem verdict_on_waiting : ∃ after, (handleRequest "bob" (requestAt 1)).run waiting =
        .ok [⟨.replicate 16 2, 2, [9]⟩] after ∧
      Verdict "bob" (requestAt 1) waiting [⟨.replicate 16 2, 2, [9]⟩] after := by
  have distinct : ∀ first ∈ waiting.db.messages.rows,
      ∀ second ∈ waiting.db.messages.rows, first.appSeq = second.appSeq →
        first = second := by decide +kernel
  obtain ⟨frames, after, ran, verdict⟩ := @handleRequest_exact "bob"
    (requestAt 1) waiting (by decide) numbered_waiting
    (fun first one second two _ _ _ _ => distinct first one second two)
    (by decide)
  obtain ⟨same, -⟩ := EStateM.Result.ok.inj (ran.symm.trans
    (@run_handleRequest "bob" (requestAt 1) waiting (by decide)))
  have returned : retransmits "bob" (requestAt 1) waiting =
      [⟨.replicate 16 2, 2, [9]⟩] := by decide +kernel
  rw [same.trans returned] at ran verdict
  exact ⟨after, ran, verdict⟩

theorem small_horizon_acks : windowEnd (requestAt 1) < 2 ^ 64 ∧ ∃ frames after,
      (handleRequest "bob" (requestAt 1)).run waiting = .ok frames after ∧
        ∀ row, UnderWay waiting.db "bob" row →
          row.appSeq.toNat ≤ (requestAt 1).maxContiguousSeq.toNat →
          after.db.message row.msgId = some { row with state := .acknowledged } :=
  (acks_below_horizon_iff (by decide) numbered_waiting).mpr (.inl (by decide))

/-- A request that decodes, with its horizon at the end of the signed numbers,
leaves the row as it is. -/
theorem signed_horizon_acks_nothing :
    let request := requestAt 9223372036854775807
    ResyncReq.decodePayload (request.encodePayload.toOption.getD []) = .ok request ∧
      UnderWay waiting.db "bob" (underWayRow 1) ∧
      (underWayRow 1).appSeq ≤ request.maxContiguousSeq ∧
      (handleRequest "bob" request).run waiting = .ok [] waiting := by
  refine ⟨by decide +kernel, underWay_waiting, by decide +kernel, ?_⟩
  rw [run_handleRequest (by decide), unsettled_eq_nil
    (fun row underWay => (numbered_waiting.underWay underWay).2)
    (by decide +kernel) (by decide +kernel), coveredIds, List.filter_nil, List.map_nil, acknowledged_nil]
  rfl

end SChatCore.Repair
