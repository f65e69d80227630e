import SChatCore.Engine.Ingress
import SChatCore.Pair.Acks
import SChatCore.Repair.Verdict

namespace SChatCore.Pair

open Data Data.Action Wire Store Engine Repair

/-! A round of repair without loss: one side tells what it has, the other
answers, and the envelope of every frame of the answer arrives. -/

inductive Delivered (sys : Platform) (rel : RelId) :
    List Retransmit → Engine → Engine → Prop
  | done (eng : Engine) : Delivered sys rel [] eng eng
  | wait {frames : List Retransmit} {before after : Engine} (clock : Nat)
      (later : before.clock ≤ clock)
      (others : Delivered sys rel frames { before with clock } after) :
      Delivered sys rel frames before after
  | arrive {frame : Retransmit} {rest : List Retransmit} {env : Envelope}
      {outcome : IngestOutcome} {before middle after : Engine}
      (sameId : env.msgId = frame.msgId) (sameSeq : env.appSeq = frame.appSeq)
      (timely : env.sentAt.toNat ≤ before.clock + maxFutureSkewSecs)
      (ingested : (ingestEnvelope sys rel env).run before = .ok outcome middle)
      (noted : middle.db.hasInboundSeq rel env.appSeq = true)
      (others : Delivered sys rel rest middle after) :
      Delivered sys rel (frame :: rest) before after

theorem hasInboundSeq_ingest (ingested : (ingestEnvelope sys rel env).run before =
      .ok outcome after)
    (noted : after.db.hasInboundSeq rel env.appSeq = true) (seq : UInt64) :
    after.db.hasInboundSeq rel seq = true ↔
      seq = env.appSeq ∨ before.db.hasInboundSeq rel seq = true := by
  rcases ingestEnvelope_cases ingested with ⟨-, rfl⟩ | ⟨gap, messages, -, rfl⟩
  · constructor
    · exact .inr
    · rintro (rfl | old)
      · exact noted
      · exact old
  · refine (Db.hasInboundSeq_noteInboundSeq before.db rel rel env.appSeq seq).trans ?_
    rw [and_iff_right rfl]

theorem Delivered.noted (delivered : Delivered sys rel frames before after) (seq : UInt64) :
    after.db.hasInboundSeq rel seq = true ↔ (∃ frame ∈ frames, frame.appSeq = seq) ∨
        before.db.hasInboundSeq rel seq = true := by
  induction delivered with
  | done eng =>
    constructor
    · exact .inr
    · rintro (⟨frame, never, -⟩ | old)
      · cases never
      · exact old
  | wait clock later others ih => exact ih
  | arrive sameId sameSeq timely ingested noted others ih =>
    rw [ih, hasInboundSeq_ingest ingested noted, sameSeq, List.exists_mem_cons_iff]
    rw [or_left_comm, eq_comm, or_assoc]

theorem Delivered.sessionState (delivered : Delivered sys rel frames before after) :
    Engine.sessionState after.db rel = Engine.sessionState before.db rel := by
  induction delivered with
  | done eng => rfl
  | wait clock later others ih => exact ih
  | arrive sameId sameSeq timely ingested noted others ih =>
    rw [ih]
    rcases ingestEnvelope_cases ingested with ⟨-, rfl⟩ | ⟨gap, messages, -, rfl⟩
    · rfl
    · rfl

/-- Numbers that stay positive in the signed columns, the window above them
included. -/
def InRange (seq : UInt64) : Prop := 1 ≤ seq.toNat ∧ seq.toNat < 2 ^ 63 - bitmapBits

theorem InRange.plain (range : InRange seq) : 0 < seq.toNat ∧ seq.toNat < 2 ^ 63 :=
  ⟨range.1, range.2.trans_le (Nat.sub_le _ _)⟩

structure Repairable (sender : Engine) (rel : RelId) (request : ResyncReq)
    (row : MessageRow) : Prop where
  stored : row ∈ sender.db.messages
  own : row.relId = rel
  out : row.direction = .out
  undecided : row.state = .queued ∨ row.state = .transmitted
  alive : row.expired sender.clock = false
  cached : (sender.db.storedCiphertext rel row.msgId).isSome = true
  inside : row.appSeq.toNat ≤ request.maxContiguousSeq.toNat + bitmapBits

theorem mem_unsettled_of_window {request : ResyncReq} (stored : row ∈ db.messages)
    (own : row.relId = rel) (out : row.direction = .out)
    (undecided : row.state = .queued ∨ row.state = .transmitted)
    (low : request.maxContiguousSeq.toNat < 2 ^ 63 - bitmapBits)
    (inside : row.appSeq.toNat ≤ request.maxContiguousSeq.toNat + bitmapBits) :
    row ∈ unsettled db rel request := by
  have room : windowEnd request < 2 ^ 63 := by
    unfold windowEnd
    omega
  exact (mem_unsettled_iff (by omega) room).mpr ⟨⟨stored, own, out, undecided⟩, inside⟩

section

variable {sys : Platform} {inId outId : RelId} {receiver sender : Engine}

theorem noted_or_sent (heard : ∀ seq, receiver.db.hasInboundSeq inId seq = true → InRange seq)
    (repairable : Repairable sender outId (requestOf sys receiver.db inId) row) :
    receiver.db.hasInboundSeq inId row.appSeq = true ∨
      ∃ frame ∈ retransmits outId (requestOf sys receiver.db inId) sender,
        frame.appSeq = row.appSeq := by
  cases covered : covers (requestOf sys receiver.db inId) row with
  | true =>
    refine .inl (noted_of_told ?_ (covers_eq_true_iff.mp covered))
    exact fun zero => absurd (heard 0 zero).1 (by decide)
  | false =>
    obtain ⟨bytes, cached⟩ := Option.isSome_iff_exists.mp repairable.cached
    have low := maxContiguousSeq_lt (by decide) (fun seq noted => (heard seq noted).plain)
      fun seq noted => (heard seq noted).2
    refine .inr ⟨⟨row.msgId, row.appSeq, bytes⟩, ?_, rfl⟩
    exact mem_retransmits.mpr ⟨row, mem_unsettled_of_window
      repairable.stored repairable.own repairable.out repairable.undecided low
      repairable.inside, covered, repairable.alive, cached, rfl, rfl⟩

theorem row_of_sent {request : ResyncReq} (mem : frame ∈ retransmits outId request sender) :
    ∃ row ∈ sender.db.messages, row.relId = outId ∧ row.direction = .out ∧
      row.appSeq = frame.appSeq := by
  obtain ⟨row, candidate, -, -, -, -, sameSeq⟩ := mem_retransmits.mp mem
  obtain ⟨stored, own, out, -⟩ := mem_unsettled.mp candidate
  exact ⟨row, stored, own, out, sameSeq.symm⟩

theorem covers_of_noted {repaired : Engine}
    (grew : ∀ seq, receiver.db.hasInboundSeq inId seq = true →
      repaired.db.hasInboundSeq inId seq = true)
    (heard : ∀ seq, repaired.db.hasInboundSeq inId seq = true → InRange seq)
    (few : (repaired.db.inboundSeqsOf inId).length ≤ viewScanLimit)
    (noted : repaired.db.hasInboundSeq inId row.appSeq = true)
    (inside : row.appSeq.toNat ≤ (requestOf sys receiver.db
      inId).maxContiguousSeq.toNat + bitmapBits) :
    row.appSeq.toNat ≤ (requestOf sys repaired.db inId).maxContiguousSeq.toNat + bitmapBits ∧
      covers (requestOf sys repaired.db inId) row = true := by
  obtain ⟨horizon, exact⟩ := exactView_of_few (fun seq noted => (heard seq noted).plain) few
  have before := viewed_receiveView fun seq noted =>
    (heard seq (grew seq noted)).plain
  have up : (requestOf sys receiver.db inId).maxContiguousSeq ≤
      (requestOf sys repaired.db inId).maxContiguousSeq := by
    refine horizon.2 _ fun seq low high => grew seq ?_
    exact mem_inboundSeqsOf.mp (List.mem_of_mem_take (before.covered seq
      (one_le_iff.mp low) (UInt64.le_iff_toNat_le.mp high)))
  rw [UInt64.le_iff_toNat_le] at up
  have window : row.appSeq.toNat ≤ (requestOf sys repaired.db
      inId).maxContiguousSeq.toNat + bitmapBits :=
    inside.trans (Nat.add_le_add_right up _)
  refine ⟨window, covers_eq_true_iff.mpr ((exact row.appSeq ?_).mpr (.inr ⟨noted, window⟩))⟩
  exact one_le_iff.mpr (heard _ noted).1

/-- A row acknowledged in one round stays so in the next, and a row covered in
the next is acknowledged there. -/
theorem message_acknowledged_twice (stored : row ∈ db.messages)
    (covered : row.msgId ∉ first → row.msgId ∈ second) :
    (acknowledged second (acknowledged first db)).message row.msgId =
      some { row with state := .acknowledged } := by
  have chosen : (first ++ second).contains row.msgId = true := by
    rw [List.contains_iff_mem, List.mem_append]
    by_cases early : row.msgId ∈ first
    · exact .inl early
    · exact .inr (covered early)
  rw [acknowledged_append, message_acknowledged]
  show (db.messages.lookup row.msgId).map _ = _
  rw [Table.lookup_key stored, Option.map_some, if_pos chosen]

theorem mem_acknowledged (stored : row ∈ db.messages) (other : row.msgId ∉ ids) :
    row ∈ (acknowledged ids db).messages := by
  refine List.mem_map.mpr ⟨row, stored, ?_⟩
  rw [if_neg (by rwa [List.contains_iff_mem])]

/-- One round repairs the window, and the next one acknowledges it. -/
theorem round_repairs_window (activeIn : sessionState receiver.db inId ≠ .broken)
    (activeOut : sessionState sender.db outId ≠ .broken)
    (sent : ∀ row ∈ sender.db.messages, row.relId = outId →
      row.direction = .out → InRange row.appSeq)
    (heard : ∀ seq, receiver.db.hasInboundSeq inId seq = true → InRange seq) :
    ∃ request frames answered, (buildRequest sys inId).run receiver = .ok request receiver ∧
      (handleRequest outId request).run sender = .ok frames answered ∧
      ∀ arrivals repaired, (∀ frame, frame ∈ arrivals ↔ frame ∈ frames) →
        Delivered sys inId arrivals receiver repaired →
        (∀ row, Repairable sender outId request row →
          repaired.db.hasInboundSeq inId row.appSeq = true) ∧
        ((repaired.db.inboundSeqsOf inId).length ≤ viewScanLimit → ∀ clock, ∃ again others settled,
            (buildRequest sys inId).run repaired = .ok again repaired ∧
            (handleRequest outId again).run { answered with clock } = .ok others settled ∧
            ∀ row, Repairable sender outId request row → settled.db.message row.msgId =
                some { row with state := .acknowledged }) := by
  refine ⟨_, _, _, run_buildRequest activeIn, run_handleRequest activeOut,
    fun arrivals repaired same delivered => ?_⟩
  have grew : ∀ seq, receiver.db.hasInboundSeq inId seq = true →
      repaired.db.hasInboundSeq inId seq = true :=
    fun seq noted => (delivered.noted seq).mpr (.inr noted)
  have repairs : ∀ row, Repairable sender outId (requestOf sys receiver.db inId) row →
        repaired.db.hasInboundSeq inId row.appSeq = true := by
    intro row repairable
    rcases noted_or_sent heard repairable with noted | ⟨frame, mem, seq⟩
    · exact grew _ noted
    · exact (delivered.noted _).mpr (.inl ⟨frame, (same frame).mpr mem, seq⟩)
  have still : ∀ seq, repaired.db.hasInboundSeq inId seq = true →
      InRange seq := by
    intro seq noted
    rcases (delivered.noted seq).mp noted with ⟨frame, mem, rfl⟩ | old
    · obtain ⟨row, stored, own, out, seq⟩ := row_of_sent ((same frame).mp mem)
      exact seq ▸ sent row stored own out
    · exact heard seq old
  refine ⟨repairs, fun few clock => ⟨_, _, _, run_buildRequest ?_,
    run_handleRequest ?_, fun row repairable => ?_⟩⟩
  · rw [delivered.sessionState]
    exact activeIn
  · exact activeOut
  · obtain ⟨window, covered⟩ := covers_of_noted grew still few
      (repairs row repairable) repairable.inside
    refine message_acknowledged_twice repairable.stored fun later => ?_
    refine mem_coveredIds (mem_unsettled_of_window
      (mem_acknowledged repairable.stored later) repairable.own repairable.out
      repairable.undecided ?_ window) covered
    exact maxContiguousSeq_lt (by decide) (fun seq noted =>
      (still seq noted).plain) fun seq noted => (still seq noted).2

end

def overdue : Envelope where
  msgId := .replicate 16 0
  appSeq := 1
  sentAt := 0
  refId := none
  payload := .profileReq

def caughtUp : Engine := final ((ingestEnvelope loop.sysB "alice" overdue).run spoken.b)

def resent : List Retransmit :=
  retransmits "bob" (requestOf loop.sysB spoken.b.db "alice") spoken.a

theorem delivered_resent : Delivered loop.sysB "alice" resent spoken.b caughtUp := by
  have carried : resent.map (fun frame => (frame.msgId, frame.appSeq)) =
      [(overdue.msgId, overdue.appSeq)] := by decide +kernel
  obtain ⟨frame, only, same⟩ := List.map_eq_singleton_iff.mp carried
  obtain ⟨sameId, sameSeq⟩ := Prod.mk.inj same
  have fresh : spoken.b.db.message overdue.msgId = none := by decide +kernel
  obtain ⟨gap, after, stored⟩ := @run_ingestEnvelope loop.sysB "alice" overdue
    spoken.b _ (Nat.zero_le _) fresh rfl
  have reached : caughtUp = after := congrArg final stored
  rw [only]
  exact .arrive sameId.symm sameSeq.symm (Nat.zero_le _) (reached ▸ stored)
    (by decide +kernel) (.done _)

theorem lost_request_repaired : ∃ request frames answered again others settled,
    (buildRequest loop.sysB "alice").run spoken.b = .ok request spoken.b ∧
    (handleRequest "bob" request).run spoken.a = .ok frames answered ∧
    Delivered loop.sysB "alice" frames spoken.b caughtUp ∧
    caughtUp.db.hasInboundSeq "alice" 1 = true ∧
    (buildRequest loop.sysB "alice").run caughtUp = .ok again caughtUp ∧
    (handleRequest "bob" again).run answered = .ok others settled ∧
    (settled.db.message (.replicate 16 0)).map MessageRow.state = some .acknowledged := by
  have activeIn : sessionState spoken.b.db "alice" ≠ .broken := by decide +kernel
  have activeOut : sessionState spoken.a.db "bob" ≠ .broken := by decide +kernel
  have range : ∀ row ∈ spoken.a.db.messages.rows, 1 ≤ row.appSeq.toNat ∧
      row.appSeq.toNat < 2 ^ 63 - bitmapBits := by decide +kernel
  have found : ((spoken.a.db.message (.replicate 16 0)).map fun row =>
      (row.relId, row.direction, row.state, row.expired spoken.a.clock,
        (spoken.a.db.storedCiphertext "bob" row.msgId).isSome, row.appSeq)) =
      some ("bob", .out, .transmitted, false, true, 1) := by decide +kernel
  obtain ⟨row, looked, same⟩ := Option.map_eq_some_iff.mp found
  obtain ⟨stored, id⟩ := Table.lookup_eq_some.mp looked
  simp only [Prod.mk.injEq] at same
  obtain ⟨request, frames, answered, asked, replied, repair⟩ :=
    @round_repairs_window loop.sysB "alice" "bob" spoken.b spoken.a
      activeIn activeOut (fun row stored _ _ => range row stored)
      fun seq never => absurd never Bool.false_ne_true
  obtain ⟨rfl, -⟩ := EStateM.Result.ok.inj ((run_buildRequest activeIn).symm.trans asked)
  obtain ⟨rfl, -⟩ := EStateM.Result.ok.inj ((run_handleRequest activeOut).symm.trans replied)
  have repairable : Repairable spoken.a "bob" (requestOf loop.sysB spoken.b.db "alice") row :=
    ⟨stored, same.1, same.2.1, .inr same.2.2.1, same.2.2.2.1, same.2.2.2.2.1, by
      rw [same.2.2.2.2.2]
      exact Nat.succ_le_of_lt (Nat.lt_add_left _ (by decide))⟩
  obtain ⟨noted, settles⟩ := repair resent caughtUp (fun _ => Iff.rfl) delivered_resent
  obtain ⟨again, others, settled, asks, replies, acks⟩ := settles (by decide +kernel) answered.clock
  refine ⟨_, _, answered, again, others, settled, asked, replied,
    delivered_resent, ?_, asks, replies, ?_⟩
  · rw [← same.2.2.2.2.2]
    exact noted row repairable
  · rw [← id, acks row repairable]
    rfl

end SChatCore.Pair
