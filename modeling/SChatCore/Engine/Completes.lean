import SChatCore.Engine.Replies

namespace SChatCore.Engine

open Data Data.Action Wire Store Policy

/-! Which inbound envelopes come through. -/

variable {sys : Platform} {rel : RelId} {eng : Engine}

def Due (eng : Engine) (rel : RelId) (gap : Bool) : Prop :=
  gap = true ∧ eng.db.resyncReqAt rel + resyncReqMinSecs ≤ eng.clock

theorem closeGap_succeeds_iff {gap : Bool} (healthy : Healthy sys eng 2 reserved) :
    (∃ events next, (closeGap sys rel gap).run eng = .ok events next) ↔
      (Due eng rel gap → Passes eng.db rel .resyncReq) := by
  unfold closeGap maybeRequestResync
  constructor
  · rintro ⟨events, next, ran⟩ due
    rw [if_pos due.1, bind_now, bind_readDb, if_neg (not_lt.mpr due.2), bind_writeDb] at ran
    obtain ⟨_, _, asked, -⟩ := run_bind_eq_ok ran
    exact (passes_of_rows rfl).mp (passes_of_requestResync asked).1
  · intro answerable
    split
    · rename_i opened
      rw [bind_now, bind_readDb]
      split
      · exact ⟨_, _, rfl⟩
      · rename_i late
        obtain ⟨next, ran, -⟩ := @run_requestResync sys rel { eng with
          db := eng.db.setResyncReqAt rel eng.clock } 0 reserved
          (healthy.congr rfl rfl rfl rfl)
          ((passes_of_rows rfl).mp (answerable ⟨opened, not_lt.mp late⟩))
        refine ⟨[.gapDetected rel], next, ?_⟩
        rw [bind_writeDb, run_bind_ok ran]
        rfl
    · exact ⟨_, _, rfl⟩

theorem repairs_of_calm (calm : Calm rel before after) :
    (Due after rel gap → Passes after.db rel .resyncReq) ↔
      (Due before rel gap → Passes before.db rel .resyncReq) := by
  unfold Due Db.resyncReqAt
  rw [calm.clock, calm.asked, calm.passes]

/-- What the handler finds, our own frames and the envelope's row apart. -/
def readied (rel : RelId) (role : Role) (env : Envelope) (eng : Engine) :
    Engine :=
  primed rel role (heard rel env eng)

/-- Nothing after the gates fails: not the burst, not the answer of the
handler, not the request for the gap. -/
structure Completes (sys : Platform) (rel : RelId) (role : Role)
    (env : Envelope) (eng : Engine) : Prop where
  bursts : Activates sys eng rel
  answers : isCut rel env eng.clock eng.db = false →
    let found := readied rel role env eng
    Allowed sys rel (noted rel found.db env.payload) (reply sys rel env found)
  repairs : env.payload ≠ .contactClose → Due eng rel (admission rel env eng).gap →
      Passes eng.db rel .resyncReq

/-- Two ids for every frame of the answer, one for each that may be queued
again, and those of the burst and the request. -/
def demand (sys : Platform) (rel : RelId) (role : Role) (env : Envelope) (eng : Engine) : Nat :=
  2 * ((reply sys rel env (readied rel role env eng)).getD []).length +
    eng.db.messages.rows.length + 13

theorem calm_readied (role : Role) (env : Envelope) : Calm rel eng (readied rel role env eng) := by
  unfold readied primed
  split
  · rename_i due
    rw [begun, if_pos due]
    unfold afterOffer
    split
    · exact ⟨rfl, rfl, Iff.rfl⟩
    · split
      · exact ⟨rfl, rfl, Iff.rfl⟩
      · exact ⟨rfl, rfl, passes_savePolicy _ fun _ => rfl⟩
  · exact ⟨rfl, rfl, Iff.rfl⟩

theorem reply_of_unsent (same : SameUnsent before after) :
    reply sys rel env after = reply sys rel env before := by
  have plain : ∀ eng, reply sys rel env eng = reply sys rel env (unsent eng) := by
    intro eng
    unfold reply
    cases env.payload with
    | stickerCtrl ctrl =>
      cases ctrl with
      | wantPack packId packPk =>
        have serves : ∀ day, ((unsent eng).db.notePackServe rel day).1 =
            (eng.db.notePackServe rel day).1 := by
          intro day
          simp only [Db.notePackServe, unsent]
          cases eng.db.stickerServes.insert { relId := rel, day, count := 1 } <;> rfl
        simp only [ctrlReply, packReply, serves]
        rfl
      | _ => rfl
    | _ => rfl
  rw [plain, same, ← plain]

theorem allowed_of_unsent (same : SameUnsent before after) :
    Allowed sys rel (noted rel after.db env.payload) (reply sys rel env after) ↔
      Allowed sys rel (noted rel before.db env.payload) (reply sys rel env before) := by
  rw [reply_of_unsent same]
  have plain : ∀ eng : Engine, Allowed sys rel (noted rel eng.db env.payload)
          (reply sys rel env before) ↔
        Allowed sys rel (noted rel (unsent eng).db env.payload) (reply sys rel env before) := by
    intro eng
    unfold noted
    cases env.payload <;> exact Iff.rfl
  rw [plain after, same, ← plain]

theorem Healthy.insert (healthy : Healthy sys eng (count + 1) reserved)
    (inserted : eng.db.messages.insert row = some messages) (own : row.msgId = reserved) :
    Healthy sys { eng with db := { eng.db with messages } } count
      (sys.randomMsgId (eng.draws + count)) := by
  have file : ∀ index, eng.draws ≤ index → index < eng.draws + (count + 1) →
      Table.lookup messages (sys.randomMsgId index) = none := by
    intro index lower upper
    obtain ⟨unreserved, unknown, -, -⟩ := healthy.unused index lower upper
    refine (Table.lookup_insert inserted _).trans ((if_neg ?_).trans unknown)
    exact fun same => unreserved (same.symm.trans own)
  refine ⟨healthy.encrypts, healthy.cached, file _ (by omega) (by omega),
    (healthy.mono (Nat.le_succ count)).distinct, ?_⟩
  intro index lower upper
  have below : index < eng.draws + count := upper
  obtain ⟨-, -, entry, ciphertext⟩ := healthy.unused index lower (by omega)
  exact ⟨healthy.distinct index _ lower below (by omega),
    file index lower (by omega), entry, ciphertext⟩

theorem Accepts.files (accepts : Accepts sys eng rel plain env row)
    (activated : (activate sys rel row.role).run (heard rel env eng) =
      .ok () woken) (healthy : Healthy sys woken (count + 1) env.msgId) :
    ∃ filed reserved, (ledgerInbound sys rel env
        (admission rel env eng).sentAt).run woken = .ok () filed ∧
      SameUnsent woken filed ∧ Adds 1 woken filed ∧
      Healthy sys filed count reserved := by
  obtain ⟨current, known⟩ := (poised_of_activate activated).known accepts.found
  obtain ⟨filed, ledgered⟩ := accepts.ledgers activated healthy.spare
  refine ⟨filed, ?_⟩
  obtain ⟨-, rfl⟩ | ⟨-, -, messages, inserted, rfl⟩ :=
    ledgerInbound_eq_ok accepts.decoded known ledgered
  · exact ⟨_, ledgered, rfl, Nat.le_add_right _ _, healthy.mono (Nat.le_succ _)⟩
  · have rows := congrArg List.length (Table.insert_eq_some.mp inserted).2
    rw [List.length_append] at rows
    exact ⟨_, ledgered, rfl, rows.le, healthy.insert inserted rfl⟩

theorem run_process_of_closes (closes : env.payload = .contactClose)
    (ledgered : (ledgerInbound sys rel env admitted.sentAt).run eng = .ok () filed) :
    ∃ after, (process sys rel env admitted).run eng = .ok [.contactClosed rel] after := by
  have type : env.envelopeType = .contactClose := congrArg Payload.envelopeType closes
  unfold process dispatch onContactClose burnRelationship
  rw [run_bind_ok ledgered, closes, type]
  simp only [if_true, bind_assoc, bind_readDb]
  split <;> exact ⟨_, rfl⟩

theorem process_succeeds_iff {admitted : Admitted} (stays : env.payload ≠ .contactClose)
    (ledgered : (ledgerInbound sys rel env admitted.sentAt).run eng = .ok () filed)
    (answers : Answers sys rel db extra replies (dispatch sys rel env) filed)
    (healthy : Healthy sys filed (2 + (2 * (replies.getD []).length + extra)) reserved) :
    (∃ events after, (process sys rel env admitted).run eng = .ok events after) ↔
      Allowed sys rel db replies ∧
        (Due filed rel admitted.gap → Passes filed.db rel .resyncReq) := by
  have other : env.envelopeType ≠ .contactClose := by
    intro type
    cases payload : env.payload <;> simp_all [Envelope.envelopeType, Payload.envelopeType]
  unfold process
  rw [run_bind_ok ledgered]
  obtain ⟨allowed, events, next, ran, calm, stays⟩ | ⟨refused, error, next, failed⟩ :=
    answers 2 reserved healthy
  · rw [run_bind_ok ran, if_neg other, ← repairs_of_calm calm,
      ← closeGap_succeeds_iff stays, and_iff_right allowed]
    constructor
    · rintro ⟨_, after, ran⟩
      obtain ⟨repair, _, closed, -⟩ := run_bind_eq_ok ran
      exact ⟨repair, _, closed⟩
    · rintro ⟨repair, after, closed⟩
      exact ⟨_, after, run_bind_ok closed⟩
  · rw [run_bind_error failed]
    refine iff_of_false ?_ fun both => refused both.1
    rintro ⟨_, _, never⟩
    cases never

/-- Behind the burst, with the envelope not cut: the row is filed, the handler
answers, and a gap is asked for unless the contact is closed. -/
theorem uncut_succeeds_iff (accepts : Accepts sys eng rel plain env row)
    (activated : (activate sys rel row.role).run (heard rel env eng) = .ok () woken)
    (same : SameUnsent (readied rel row.role env eng) woken) (adds : Adds 3 eng woken)
    (healthy : Healthy sys woken (demand sys rel row.role env eng - 7 + 1) env.msgId) :
    (∃ events after, (process sys rel env (admission rel env eng)).run woken = .ok events after) ↔
      Allowed sys rel (noted rel (readied rel row.role env eng).db env.payload)
        (reply sys rel env (readied rel row.role env eng)) ∧
      (env.payload ≠ .contactClose → Due eng rel (admission rel env eng).gap →
        Passes eng.db rel .resyncReq) := by
  obtain ⟨filed, reserved, ledgered, sameFiled, addsFiled, stays⟩ :=
    accepts.files activated healthy
  have whole : SameUnsent (readied rel row.role env eng) filed := sameFiled.trans same
  by_cases closes : env.payload = .contactClose
  · obtain ⟨after, ran⟩ := run_process_of_closes closes ledgered
    refine iff_of_true ⟨_, after, ran⟩ ⟨?_, fun unclosed => absurd closes unclosed⟩
    unfold reply
    rw [closes]
    exact .nil
  · obtain ⟨current, known⟩ := ((poised_of_activate activated).ledger accepts.decoded
      accepts.found ledgered).known accepts.found
    have answers := answers_dispatch accepts.decoded known stays.cached closes
    have calm := trans_of (Calm rel) (calm_readied row.role env) (.of_unsent whole)
    rw [process_succeeds_iff closes ledgered answers (stays.mono ?_), allowed_of_unsent whole,
      repairs_of_calm calm, forall_prop_of_true closes]
    rw [reply_of_unsent whole]
    unfold Adds at adds addsFiled
    unfold demand
    omega

theorem completes_iff (accepts : Accepts sys eng rel plain env row)
    (healthy : Healthy sys eng (demand sys rel row.role env eng) env.msgId) :
    (∃ events after, (handlePlaintext sys rel plain).run eng =
        .ok events after) ↔ Completes sys rel row.role env eng := by
  rw [run_handlePlaintext accepts]
  by_cases bursts : Activates sys eng rel
  · obtain ⟨woken, activated, same, adds, stays⟩ := @run_activate sys rel
      (heard rel env eng) (demand sys rel row.role env eng - 6)
      env.msgId row accepts.found (healthy.congr rfl rfl rfl rfl)
      (activates_heard.mpr bursts)
    have poised := poised_of_activate activated
    have calm := trans_of (Calm rel) (calm_readied row.role env) (.of_unsent same)
    rw [run_receive activated, poised.isCut]
    cases cut : isCut rel env eng.clock eng.db with
    | true =>
      have unclosed : env.payload ≠ .contactClose := fun closes =>
        absurd ((isCut_of_closes closes).symm.trans cut) nofun
      rw [if_pos rfl, closeGap_succeeds_iff (stays.mono (by
        unfold demand; omega)), repairs_of_calm calm]
      exact ⟨fun repairs => ⟨bursts, fun uncut => absurd (cut.symm.trans uncut)
        nofun, fun _ => repairs⟩, fun completes => completes.repairs unclosed⟩
    | false =>
      rw [if_neg Bool.false_ne_true, uncut_succeeds_iff accepts activated same adds
        (stays.mono (by unfold demand; omega))]
      exact ⟨fun ⟨answers, repairs⟩ => ⟨bursts, fun _ => answers, repairs⟩,
        fun completes => ⟨completes.answers cut, completes.repairs⟩⟩
  · refine iff_of_false ?_ fun completes => bursts completes.bursts
    rintro ⟨events, after, ran⟩
    obtain ⟨_, woken, activated, -⟩ := run_bind_eq_ok ran
    exact bursts (activates_heard.mp (activates_of_run accepts.found activated))

end SChatCore.Engine
