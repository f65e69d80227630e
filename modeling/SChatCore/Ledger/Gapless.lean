import SChatCore.Ledger.Once
import SChatCore.Repair.Exact

namespace SChatCore.Ledger

open Data Data.Action Wire Store Engine Repair

/-! Whether an allocated number always ends up on an envelope. -/

theorem largestSigned_spec (found : Db.largestSigned seqs = some largest) :
    largest ∈ seqs ∧ ∀ seq ∈ seqs, signed seq ≤ signed largest := by
  induction seqs generalizing largest with
  | nil => cases found
  | cons seq rest ih =>
    unfold Db.largestSigned at found
    split at found
    · rename_i none
      cases found
      refine ⟨List.mem_cons_self, fun other mem => ?_⟩
      cases rest with
      | nil =>
        cases List.mem_singleton.mp mem
        exact le_rfl
      | cons head tail =>
        unfold Db.largestSigned at none
        split at none
        · cases none
        · split at none <;> cases none
    · rename_i other below
      obtain ⟨mem, above⟩ := ih below
      split at found
      · rename_i less
        cases found
        refine ⟨List.mem_cons_of_mem _ mem, fun each among => ?_⟩
        rcases List.mem_cons.mp among with rfl | among
        · exact less
        · exact above each among
      · rename_i more
        cases found
        refine ⟨List.mem_cons_self, fun each among => ?_⟩
        rcases List.mem_cons.mp among with rfl | among
        · exact le_rfl
        · exact (above each among).trans (not_le.mp more).le

theorem largestSigned_eq_none (found : Db.largestSigned seqs = none) : seqs = [] := by
  cases seqs with
  | nil => rfl
  | cons seq rest =>
    unfold Db.largestSigned at found
    split at found
    · cases found
    · split at found <;> cases found

section

variable {db : Db}

def Filed (db : Db) (rel : RelId) (seq : UInt64) : Prop :=
  ∃ row ∈ db.messages, row.relId = rel ∧ row.direction = .out ∧ row.appSeq = seq

theorem filed_iff_message : Filed db rel seq ↔ ∃ msgId row, db.message msgId = some row ∧
      row.relId = rel ∧ row.direction = .out ∧ row.appSeq = seq := by
  constructor
  · rintro ⟨row, stored, own⟩
    exact ⟨row.msgId, row, Table.lookup_eq_some.mpr ⟨stored, rfl⟩, own⟩
  · rintro ⟨msgId, row, found, own⟩
    exact ⟨row, (Table.lookup_eq_some.mp found).1, own⟩

theorem mem_outSeqs : seq ∈ (db.messages.select fun row =>
        row.relId = rel && row.direction = .out).map MessageRow.appSeq ↔
      Filed db rel seq := by
  simp only [Filed, List.mem_map, Table.mem_select, Bool.and_eq_true, decide_eq_true_eq]
  constructor
  · rintro ⟨row, ⟨stored, own, out⟩, rfl⟩
    exact ⟨row, stored, own, out, rfl⟩
  · rintro ⟨row, stored, own, out, rfl⟩
    exact ⟨row, ⟨stored, own, out⟩, rfl⟩

theorem maxOutSeq_spec (found : db.maxOutSeq rel = some largest) : Filed db rel largest ∧
      ∀ seq, Filed db rel seq → signed seq ≤ signed largest := by
  obtain ⟨mem, above⟩ := largestSigned_spec found
  exact ⟨mem_outSeqs.mp mem, fun seq filed => above seq (mem_outSeqs.mpr filed)⟩

theorem maxOutSeq_eq_none (found : db.maxOutSeq rel = none) : ¬ Filed db rel seq := by
  intro filed
  have mem := mem_outSeqs.mpr filed
  rw [largestSigned_eq_none found] at mem
  cases mem

theorem maxOutSeq_congr (same : ∀ seq, Filed after rel seq ↔ Filed db rel seq) :
    after.maxOutSeq rel = db.maxOutSeq rel := by
  cases old : db.maxOutSeq rel with
  | none =>
    cases new : after.maxOutSeq rel with
    | none => rfl
    | some seq => exact absurd ((same seq).mp (maxOutSeq_spec new).1) (maxOutSeq_eq_none old)
  | some first =>
    cases new : after.maxOutSeq rel with
    | none => exact absurd ((same first).mpr (maxOutSeq_spec old).1) (maxOutSeq_eq_none new)
    | some second =>
      obtain ⟨here, above⟩ := maxOutSeq_spec old
      obtain ⟨there, higher⟩ := maxOutSeq_spec new
      rw [signed_injective (le_antisymm (above second ((same second).mp there))
        (higher first ((same first).mpr here)))]

theorem ledger_le_nextOutSeq (db : Db) (rel : RelId) :
    ((db.maxOutSeq rel).map (· + 1)).getD 1 ≤ (db.nextOutSeq rel).1 := by
  show _ ≤ ite _ _ _
  split
  · assumption
  · exact UInt64.le_refl _

theorem nextOutSeq_eq (ledger : ((db.maxOutSeq rel).map (· + 1)).getD 1 ≤ next)
    (floor : db.outSeqFloor rel = next) : (db.nextOutSeq rel).1 = next := by
  show ite _ _ _ = _
  rw [floor]
  split
  · rfl
  · contradiction

theorem nextOutSeq_nextOutSeq (db : Db) (rel : RelId) : ((db.nextOutSeq rel).2.nextOutSeq rel).1 =
      Db.saturatingSucc (db.nextOutSeq rel).1 := by
  refine nextOutSeq_eq ?_ ((outSeqFloor_nextOutSeq rel rel db).trans (if_pos rfl))
  exact UInt64.le_trans (ledger_le_nextOutSeq db rel) (le_saturatingSucc _)

theorem saturatingSucc_eq_iff : Db.saturatingSucc seq = seq ↔ seq.toNat = 2 ^ 64 - 1 := by
  have bound := seq.toNat_lt
  constructor
  · intro same
    by_contra room
    have next := @lt_saturatingSucc seq (by omega)
    rw [same] at next
    omega
  · intro full
    apply UInt64.toNat_inj.mp
    unfold Db.saturatingSucc
    rw [full]
    decide

end

section

variable {sys : Platform} {rel : RelId} {eng : Engine}
  {payload : Payload}

theorem run_sendEnvelope_of_refused (refused : ¬ Passes eng.db rel payload.envelopeType) :
    ∃ error, (sendEnvelope sys rel payload refId).run eng =
      .error error eng := by
  cases found : eng.db.relationship rel with
  | none =>
    refine ⟨.unknownRelationship, ?_⟩
    unfold sendEnvelope
    rw [EStateM.run_bind, run_loadRelationship, found]
  | some row =>
    cases gate : gateOutbound eng.db row payload.envelopeType with
    | ok _ => exact absurd ⟨row, found, gate⟩ refused
    | error error => exact ⟨error, run_sendEnvelope_of_gate found gate⟩

theorem run_sendEnvelope_of_unencodable (passes : Passes eng.db rel payload.envelopeType)
    (unfit : ¬ Envelope.Encodable sys.nfc payload refId) :
    ∃ error, (sendEnvelope sys rel payload refId).run eng = .error error { eng with
        db := (eng.db.nextOutSeq rel).2
        draws := eng.draws + 1 } := by
  obtain ⟨row, found, gate⟩ := passes
  have loaded : (loadRelationship rel).run eng = .ok row eng := by rw [run_loadRelationship, found]
  let env : Envelope := {
    msgId := sys.randomMsgId eng.draws
    appSeq := (eng.db.nextOutSeq rel).1
    sentAt := UInt64.ofNat eng.clock
    refId
    payload }
  cases encoded : env.encode sys.nfc with
  | ok plain => exact absurd ((Envelope.encodable_iff env).mpr ⟨plain, encoded⟩) unfit
  | error error =>
    have gated : (ofExcept id (gateOutbound eng.db row
        payload.envelopeType) : Action Unit).run eng = .ok () eng := by
      rw [gate]
      rfl
    have wrote : (wire (env.encode sys.nfc)).run { eng with
        db := (eng.db.nextOutSeq rel).2
        draws := eng.draws + 1 } = .error (.wire error) { eng with
          db := (eng.db.nextOutSeq rel).2
          draws := eng.draws + 1 } := by
      rw [encoded]
      rfl
    refine ⟨.wire error, ?_⟩
    unfold sendEnvelope
    rw [run_bind_ok loaded, bind_readDb, run_bind_ok gated, bind_now,
      run_bind_ok (run_updateDb eng _), run_bind_ok (run_randomMsgId sys
      _)]
    exact run_bind_error wrote

theorem sendEnvelope_error (healthy : Healthy sys eng 2 reserved)
    (ran : (sendEnvelope sys rel payload refId).run eng = .error error after) :
    after = eng ∨ Passes eng.db rel payload.envelopeType ∧
      ¬ Envelope.Encodable sys.nfc payload refId ∧
      after.db = (eng.db.nextOutSeq rel).2 := by
  by_cases passes : Passes eng.db rel payload.envelopeType
  · by_cases fits : Envelope.Encodable sys.nfc payload refId
    · obtain ⟨sent, next, went, -⟩ := @run_sendEnvelope _ _ _ _ _ 0 _ healthy ⟨passes, fits⟩
      rw [went] at ran
      cases ran
    · obtain ⟨_, failed⟩ := run_sendEnvelope_of_unencodable passes fits
      rw [failed] at ran
      cases ran
      exact .inr ⟨passes, fits, rfl⟩
  · obtain ⟨_, refused⟩ := @run_sendEnvelope_of_refused sys rel eng payload refId passes
    rw [refused] at ran
    cases ran
    exact .inl rfl

/-- A failed send keeps the next number, unless the gate let it through and the
envelope did not encode; the counter's last value is kept in any case. -/
theorem failed_keeps_number_iff (healthy : Healthy sys eng 2 reserved) :
    (∀ error after, (sendEnvelope sys rel payload refId).run eng = .error error after →
      (after.db.nextOutSeq rel).1 = (eng.db.nextOutSeq rel).1) ↔
    (Passes eng.db rel payload.envelopeType → Envelope.Encodable sys.nfc payload refId ∨
        (eng.db.nextOutSeq rel).1.toNat = 2 ^ 64 - 1) := by
  constructor
  · intro keeps passes
    by_cases fits : Envelope.Encodable sys.nfc payload refId
    · exact .inl fits
    · obtain ⟨error, ran⟩ := run_sendEnvelope_of_unencodable passes fits
      have same := keeps _ _ ran
      rw [nextOutSeq_nextOutSeq] at same
      exact .inr (saturatingSucc_eq_iff.mp same)
  · intro whole error after ran
    obtain rfl | ⟨passes, unfit, allocated⟩ := sendEnvelope_error healthy ran
    · rfl
    · rw [allocated, nextOutSeq_nextOutSeq]
      exact saturatingSucc_eq_iff.mpr ((whole passes).resolve_left unfit)

end

/-- One send, of a payload that encodes if the gate lets it through. -/
def Sending (sys : Platform) (before after : Engine) : Prop :=
  ∃ rel payload refId reserved, Healthy sys before 2 reserved ∧
    (Passes before.db rel payload.envelopeType → Envelope.Encodable sys.nfc payload refId) ∧
    after = final ((sendEnvelope sys rel payload refId).run before)

def Gapless (rel : RelId) (eng : Engine) : Prop :=
  ∀ seq, 1 ≤ seq → seq < (eng.db.nextOutSeq rel).1 → Filed eng.db rel seq

theorem filed_of_message (fresh : before.message msgId = none)
    (rest : ∀ other, other ≠ msgId → after.message other = before.message other)
    (filed : Filed before rel seq) : Filed after rel seq := by
  obtain ⟨other, row, found, own⟩ := filed_iff_message.mp filed
  have differs : other ≠ msgId := by
    rintro rfl
    cases fresh.symm.trans found
  exact filed_iff_message.mpr ⟨other, row, (rest other differs).trans found, own⟩

theorem Gapless.elsewhere (foreign : rel ≠ other)
    (floor : after.db.outSeqFloor rel = before.db.outSeqFloor rel)
    (fresh : before.db.message msgId = none)
    (found : after.db.message msgId = some row) (own : row.relId = other)
    (rest : ∀ id, id ≠ msgId → after.db.message id = before.db.message id)
    (gapless : Gapless rel before) : Gapless rel after := by
  have same : ∀ seq, Filed after.db rel seq ↔ Filed before.db rel seq := by
    refine fun seq => ⟨fun filed => ?_, filed_of_message fresh rest⟩
    obtain ⟨id, filedRow, looked, here⟩ := filed_iff_message.mp filed
    have differs : id ≠ msgId := by
      rintro rfl
      cases found.symm.trans looked
      exact foreign (here.1.symm.trans own)
    exact filed_iff_message.mpr ⟨id, filedRow, (rest id differs).symm.trans looked, here⟩
  have next : (after.db.nextOutSeq rel).1 = (before.db.nextOutSeq rel).1 := by
    show max _ _ = max _ _
    rw [maxOutSeq_congr same, floor]
  intro seq low below
  rw [next] at below
  exact (same seq).mpr (gapless seq low below)

theorem Gapless.here (floor : after.db.outSeqFloor rel =
      Db.saturatingSucc (before.db.nextOutSeq rel).1)
    (fresh : before.db.message msgId = none)
    (found : after.db.message msgId = some row) (own : row.relId = rel) (out : row.direction = .out)
    (number : row.appSeq = (before.db.nextOutSeq rel).1)
    (rest : ∀ id, id ≠ msgId → after.db.message id = before.db.message id)
    (gapless : Gapless rel before) : Gapless rel after := by
  have kept : ∀ seq, Filed before.db rel seq → Filed after.db rel seq :=
    fun seq => filed_of_message fresh rest
  have filed : Filed after.db rel (before.db.nextOutSeq rel).1 :=
    filed_iff_message.mpr ⟨msgId, row, found, own, out, number⟩
  have either : ∀ seq, Filed after.db rel seq →
      Filed before.db rel seq ∨ seq = (before.db.nextOutSeq rel).1 := by
    intro seq there
    obtain ⟨id, filedRow, looked, here⟩ := filed_iff_message.mp there
    by_cases same : id = msgId
    · subst same
      cases found.symm.trans looked
      exact .inr (here.2.2.symm.trans number)
    · exact .inl (filed_iff_message.mpr ⟨id, filedRow, (rest id same).symm.trans looked, here⟩)
  -- the largest number on file is the old one or the one just filed
  have ledger : ((after.db.maxOutSeq rel).map (· + 1)).getD 1 ≤
      Db.saturatingSucc (before.db.nextOutSeq rel).1 := by
    have step := ledger_le_nextOutSeq before.db rel
    have more := le_saturatingSucc (before.db.nextOutSeq rel).1
    cases new : after.db.maxOutSeq rel with
    | none => exact absurd filed (maxOutSeq_eq_none new)
    | some largest =>
      obtain ⟨there, above⟩ := maxOutSeq_spec new
      show largest + 1 ≤ _
      rcases either largest there with old | rfl
      · cases prior : before.db.maxOutSeq rel with
        | none => exact absurd old (maxOutSeq_eq_none prior)
        | some previous =>
          obtain ⟨stored, below⟩ := maxOutSeq_spec prior
          have same : largest = previous := signed_injective
            (le_antisymm (below largest old) (above previous (kept _ stored)))
          rw [prior] at step
          rw [same]
          exact UInt64.le_trans step more
      · rw [UInt64.le_iff_toNat_le, UInt64.toNat_add]
        by_cases room : (before.db.nextOutSeq rel).1.toNat < 2 ^ 64 - 1
        · rw [lt_saturatingSucc room]
          exact Nat.mod_le _ _
        · have bound := (before.db.nextOutSeq rel).1.toNat_lt
          have full : (before.db.nextOutSeq rel).1.toNat = 2 ^ 64 - 1 := by omega
          rw [full]
          exact Nat.zero_le _
  intro seq low below
  rw [nextOutSeq_eq ledger floor] at below
  by_cases same : seq = (before.db.nextOutSeq rel).1
  · exact same ▸ filed
  · refine kept seq (gapless seq low ?_)
    rw [UInt64.lt_iff_toNat_lt] at below ⊢
    have differs : seq.toNat ≠ (before.db.nextOutSeq rel).1.toNat :=
      fun equal => same (UInt64.toNat_inj.mp equal)
    by_cases room : (before.db.nextOutSeq rel).1.toNat < 2 ^ 64 - 1
    · rw [lt_saturatingSucc room] at below
      omega
    · have bound := seq.toNat_lt
      omega

theorem Sending.gapless (step : Sending sys before after) (gapless : Gapless rel before) :
    Gapless rel after := by
  obtain ⟨other, payload, refId, reserved, healthy, whole, rfl⟩ := step
  cases ran : (sendEnvelope sys other payload refId).run before with
  | error error after =>
    obtain rfl | ⟨passes, unfit, -⟩ := sendEnvelope_error healthy ran
    · exact gapless
    · exact absurd (whole passes) unfit
  | ok sent after =>
    obtain ⟨-, floor, fresh, ⟨row, found, own, out, number⟩, rest⟩ := filed_sendEnvelope ran
    have moved := (floor rel).trans (outSeqFloor_nextOutSeq other rel before.db)
    by_cases here : rel = other
    · subst here
      exact gapless.here (moved.trans (if_pos rfl)) fresh found own out number
        fun other differs => (rest other differs).1
    · exact gapless.elsewhere here (moved.trans (if_neg here)) fresh found own
        fun other differs => (rest other differs).1

/-- A failed send keeps the next number exactly if the gate refused it, the
envelope encodes or the counter is at its end; and as long as what passes the
gate encodes, no number is without its row. -/
theorem numbers_without_holes_iff (sys : Platform) (rel : RelId) :
    (∀ eng payload refId reserved, Healthy sys eng 2 reserved →
      ((∀ error after, (sendEnvelope sys rel payload refId).run eng = .error error after →
        (after.db.nextOutSeq rel).1 = (eng.db.nextOutSeq rel).1) ↔
      (Passes eng.db rel payload.envelopeType → Envelope.Encodable sys.nfc payload refId ∨
          (eng.db.nextOutSeq rel).1.toNat = 2 ^ 64 - 1))) ∧
    ∀ start later, Gapless rel start → Relation.ReflTransGen (Sending sys) start later →
      Gapless rel later := by
  constructor
  · intro eng payload refId reserved healthy
    exact failed_keeps_number_iff healthy
  · intro start later gapless run
    induction run with
    | refl => exact gapless
    | tail _ step ih => exact step.gapless ih

/-! A request that goes out, and an attachment of no known class. -/

theorem healthy_acquainted : Healthy .loopback acquainted 2 (List.Vector.replicate 16 255) :=
  healthy_loopback rfl rfl (by decide) (by decide)

theorem gapless_acquainted : Gapless "alice" acquainted := by
  intro seq low below
  have first : (acquainted.db.nextOutSeq "alice").1 = 1 := by decide
  rw [first] at below
  exact absurd (UInt64.lt_of_lt_of_le below low) (UInt64.lt_irrefl seq)

theorem numbers_after_request : (∀ error after,
      (sendEnvelope .loopback "alice" .profileReq none).run acquainted = .error error after →
      (after.db.nextOutSeq "alice").1 = (acquainted.db.nextOutSeq "alice").1) ∧
    Gapless "alice" (final ((sendEnvelope .loopback "alice" .profileReq none).run acquainted)) := by
  obtain ⟨keeps, runs⟩ := numbers_without_holes_iff .loopback "alice"
  have fits : Envelope.Encodable Platform.loopback.nfc .profileReq none := ⟨[], rfl, by decide⟩
  refine ⟨(keeps _ _ _ _ healthy_acquainted).mpr fun _ => .inl fits, ?_⟩
  exact runs acquainted _ gapless_acquainted (.single
    ⟨"alice", .profileReq, none, _, healthy_acquainted, fun _ => fits, rfl⟩)

/-- Class 9 is neither image nor video. -/
def unknownClass : Payload := .attachHead {
  head := {
    mediaClass := 9
    mimeHint := ""
    origExt := ""
    uncompressedN := 1
    chunkCount := 0
    chunkBucket := 0
    contentSha256 := List.Vector.replicate 32 0
    caption := ""
    flags := 0 }
  inline := some [0] }

theorem number_lost_to_unknown_class :
    Healthy .loopback acquainted 2 (List.Vector.replicate 16 255) ∧
    ∃ error after, (sendEnvelope .loopback "alice" unknownClass none).run acquainted =
        .error error after ∧
      (acquainted.db.nextOutSeq "alice").1 = 1 ∧
      (after.db.nextOutSeq "alice").1 = 2 ∧
      ¬ Filed after.db "alice" 1 := by
  have unfit : ¬ Envelope.Encodable Platform.loopback.nfc unknownClass none := by
    rintro ⟨bytes, encoded, -⟩
    cases encoded
  have passes : Passes acquainted.db "alice" unknownClass.envelopeType :=
    ⟨_, relationship_paired _, rfl⟩
  obtain ⟨error, ran⟩ := @run_sendEnvelope_of_unencodable .loopback "alice"
    acquainted unknownClass none passes unfit
  refine ⟨healthy_acquainted, error, _, ran, by decide, by decide, ?_⟩
  rintro ⟨row, stored, -⟩
  exact Table.not_mem_empty row stored

end SChatCore.Ledger
