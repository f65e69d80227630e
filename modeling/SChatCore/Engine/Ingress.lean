import SChatCore.Engine.Inbound

namespace SChatCore.Engine

open Data Data.Action Wire Store

/-! The ingress of the sync layer: skew, dedupe and gap, then the row. What the
envelope means is left to the caller. -/

inductive IngestOutcome
  | stored (opensGap : Bool)
  | duplicate
  deriving DecidableEq

def ingestEnvelope (sys : Platform) (rel : RelId) (env : Envelope) :
    Action IngestOutcome := do
  let now ← now
  let sentAt ← Action.ofExcept .sync (clampSentAt env.sentAt.toNat now)
  let before ← readDb
  if (before.message env.msgId).isSome then return .duplicate
  else do
    writeDb (Db.noteInboundSeq rel env.appSeq)
    let payload ← Action.ofExcept (fun error => .sync (.wire error)) (env.payload.encode sys.nfc)
    let db ← readDb
    let next ← Action.ofExcept (fun error => .sync (.store error))
      (db.insertMessage now (inboundMessage rel env sentAt now payload
        (some (now + messageTtlSecs))))
    writeDb fun _ => next
    return .stored (opensGap before rel env.appSeq)

theorem ingestEnvelope_cases (ran : (ingestEnvelope sys rel env).run eng = .ok outcome after) :
    outcome = .duplicate ∧ after = eng ∨ ∃ gap messages, outcome = .stored gap ∧ after = { eng with
        db := { eng.db.noteInboundSeq rel env.appSeq with messages } } := by
  unfold ingestEnvelope at ran
  rw [bind_now] at ran
  obtain ⟨sentAt, middle, clamped, ran⟩ := run_bind_eq_ok ran
  obtain ⟨-, rfl⟩ := run_ofExcept_eq_ok clamped
  rw [bind_readDb] at ran
  split at ran
  · cases ran
    exact .inl ⟨rfl, rfl⟩
  · rw [bind_writeDb] at ran
    obtain ⟨payload, noted, encoded, ran⟩ := run_bind_eq_ok ran
    obtain ⟨-, rfl⟩ := run_ofExcept_eq_ok encoded
    rw [bind_readDb] at ran
    obtain ⟨next, ready, stored, ran⟩ := run_bind_eq_ok ran
    obtain ⟨inserted, rfl⟩ := run_ofExcept_eq_ok stored
    obtain ⟨messages, -, rfl⟩ := Db.insertMessage_eq_ok.mp inserted
    cases ran
    exact .inr ⟨_, messages, rfl, rfl⟩

theorem run_ingestEnvelope {sys : Platform} {rel : RelId}
    {env : Envelope} {eng : Engine} {payload : Bytes}
    (timely : env.sentAt.toNat ≤ eng.clock + maxFutureSkewSecs)
    (fresh : eng.db.message env.msgId = none) (encoded : env.payload.encode sys.nfc = .ok payload) :
    ∃ gap after, (ingestEnvelope sys rel env).run eng = .ok (.stored gap) after := by
  have clamped : clampSentAt env.sentAt.toNat eng.clock = .ok (min env.sentAt.toNat eng.clock) := by
    rw [clampSentAt, if_neg (not_lt.mpr timely)]
  obtain ⟨next, inserted⟩ := @Db.insertMessage_of_fresh eng.clock
    (inboundMessage rel env (min env.sentAt.toNat eng.clock) eng.clock
      payload (some (eng.clock + messageTtlSecs)))
    (eng.db.noteInboundSeq rel env.appSeq) fresh
  refine ⟨opensGap eng.db rel env.appSeq, { eng with db := next }, ?_⟩
  have absent : ¬ (eng.db.message env.msgId).isSome = true := by
    rw [fresh]
    exact Bool.false_ne_true
  unfold ingestEnvelope
  rw [bind_now, clamped, run_bind_ok (run_ofExcept_ok _ _ eng), bind_readDb,
    if_neg absent, bind_writeDb, encoded, run_bind_ok (run_ofExcept_ok _ _ _),
    bind_readDb, inserted, run_bind_ok (run_ofExcept_ok _ _ _)]
  rfl

end SChatCore.Engine
