import SChatCore.Engine.Completes
import SChatCore.Ledger.Replay

namespace SChatCore.Ledger

open Data Data.Action Wire Store Engine

/-! What an inbound envelope that ends in an error leaves behind. -/

theorem noted_of_failed (accepts : Accepts sys eng rel plain env row)
    (failed : (handlePlaintext sys rel plain).run eng = .error error after) :
    after.db.hasInboundSeq rel env.appSeq = true := by
  have noted := noted_of_accepts accepts fun closes filed dispatches => by
    obtain ⟨row, woken, accepts, activated, uncut, ledgered⟩ := dispatches
    obtain ⟨_, ran⟩ := run_process_of_closes closes ledgered
    rw [run_handlePlaintext accepts, run_receive activated, uncut,
      if_neg Bool.false_ne_true, ran] at failed
    cases failed
  rw [failed] at noted
  exact noted

theorem reported_of_ok (accepts : Accepts sys eng rel plain env row) (text : env.payload = .msg msg)
    (uncut : isCut rel env eng.clock eng.db = false)
    (ran : (handlePlaintext sys rel plain).run eng =
      .ok events after) : .message rel env.msgId ∈ events := by
  rw [run_handlePlaintext accepts] at ran
  obtain ⟨_, woken, activated, -⟩ := run_bind_eq_ok ran
  rw [run_receive activated, (poised_of_activate activated).isCut, uncut,
    if_neg Bool.false_ne_true] at ran
  obtain ⟨_, filed, -, processed⟩ := run_bind_eq_ok ran
  obtain ⟨handled, next, dispatched, closing⟩ := run_bind_eq_ok processed
  have reports : handled = [.message rel env.msgId] := by
    unfold dispatch onMsg at dispatched
    rw [text] at dispatched
    obtain ⟨_, _, -, returned⟩ := run_bind_eq_ok dispatched
    cases returned
    rfl
  split at closing
  · cases closing
    simp [reports]
  · obtain ⟨repair, _, -, returned⟩ := run_bind_eq_ok closing
    cases returned
    simp [reports]

/-- While the libraries do their part, an error leaves the ledger and the noted
numbers as they were exactly if whatever the gates accept comes through, which
is decided before the call. A text that is not cut is reported exactly then. -/
theorem failed_inbound_atomic_iff (sys : Platform) (rel : RelId) (eng : Engine) (plain : Bytes)
    (healthy : ∀ env row, Accepts sys eng rel plain env row →
      Healthy sys eng (demand sys rel row.role env eng) env.msgId) :
    ((∀ error after, (handlePlaintext sys rel plain).run eng = .error error after →
        after.db.messages = eng.db.messages ∧ after.db.inboundSeqs = eng.db.inboundSeqs) ↔
      ∀ env row, Accepts sys eng rel plain env row → Completes sys rel row.role env eng) ∧
    ∀ env row msg, Accepts sys eng rel plain env row → env.payload = .msg msg →
      isCut rel env eng.clock eng.db = false →
      ((∃ events after, (handlePlaintext sys rel plain).run eng =
            .ok events after ∧ .message rel env.msgId ∈ events) ↔
        Completes sys rel row.role env eng) := by
  have through : ∀ env row, Accepts sys eng rel plain env row →
      ((∃ events after, (handlePlaintext sys rel plain).run eng =
          .ok events after) ↔ Completes sys rel row.role env eng) :=
    fun env row accepts => completes_iff accepts (healthy env row accepts)
  refine ⟨⟨fun atomic env row accepts => ?_, fun completes error after failed =>
    ?_⟩, fun env row msg accepts text uncut => ?_⟩
  · rw [← through env row accepts]
    cases ran : (handlePlaintext sys rel plain).run eng with
    | ok events after => exact ⟨events, after, rfl⟩
    | error error after =>
      have noted := noted_of_failed accepts ran
      have fresh := accepts.admits.newSeq
      unfold Db.hasInboundSeq at noted fresh
      rw [(atomic error after ran).2, fresh] at noted
      cases noted
  · by_cases accepted : ∃ env row, Accepts sys eng rel plain env row
    · obtain ⟨env, row, accepts⟩ := accepted
      obtain ⟨_, _, ran⟩ := (through env row accepts).mpr (completes env row accepts)
      cases failed.symm.trans ran
    · obtain ran | ⟨_, ran⟩ := run_handlePlaintext_of_not fun env row accepts =>
        accepted ⟨env, row, accepts⟩
      · cases failed.symm.trans ran
      · cases failed.symm.trans ran
        exact ⟨rfl, rfl⟩
  · rw [← through env row accepts]
    constructor
    · rintro ⟨events, after, ran, -⟩
      exact ⟨events, after, ran⟩
    · rintro ⟨events, after, ran⟩
      exact ⟨events, after, ran, reported_of_ok accepts text uncut ran⟩

/-! A text with a token for an item we lack, from a peer that never said it
takes stickers. -/

def remark (body : String) : Envelope where
  msgId := List.Vector.replicate 16 7
  appSeq := 1
  sentAt := 0
  refId := none
  payload := .msg { body }

def remarkBytes (body : String) : Bytes := ((remark body).encode id).toOption.getD []

/-- A frame from the future changes nothing, and a plain text is reported. -/
theorem early_knock_and_plain_text : (∀ error after, (handlePlaintext .loopback "alice"
        (knockBytes 1 301)).run acquainted = .error error after →
      after.db.messages = acquainted.db.messages ∧
        after.db.inboundSeqs = acquainted.db.inboundSeqs) ∧
    ∃ events after, (handlePlaintext .loopback "alice"
        (remarkBytes "hi")).run acquainted = .ok events after ∧
      .message "alice" (remark "hi").msgId ∈ events := by
  constructor
  · have refused : ∀ env row, ¬ Accepts .loopback acquainted "alice"
        (knockBytes 1 301) env row := by
      intro env row accepts
      have read : Envelope.decode id (knockBytes 1 301) = .ok (knock 1 301) := rfl
      cases read.symm.trans accepts.decoded
      exact absurd accepts.admits.timely (by decide +kernel)
    exact (failed_inbound_atomic_iff .loopback "alice" acquainted
      (knockBytes 1 301) fun env row accepts =>
        absurd accepts (refused env row)).1.mpr
      fun env row accepts => absurd accepts (refused env row)
  · have accepts : Accepts .loopback acquainted "alice" (remarkBytes "hi") (remark "hi")
        (newRelationship "alice" .inviter .active "" [] false 0) := by
      refine ⟨rfl, relationship_paired _, ⟨?_, ?_, ?_, ?_, ?_⟩⟩
      all_goals decide +kernel
    have silent : Engine.reply .loopback "alice" (remark "hi")
        (readied "alice" .inviter (remark "hi") acquainted) = some [] := by
      decide +kernel
    refine ((failed_inbound_atomic_iff .loopback "alice" acquainted
      (remarkBytes "hi") fun env row other => ?_).2 _ _ _ accepts rfl
      (by decide +kernel)).mpr ⟨?_, fun _ => ?_, fun _ due => ?_⟩
    · cases accepts.decoded.symm.trans other.decoded
      cases accepts.found.symm.trans other.found
      have few : demand .loopback "alice" .inviter (remark "hi") acquainted =
        13 := by rw [demand, silent]; rfl
      exact few ▸ healthy_loopback rfl rfl (by decide +kernel) (by decide +kernel)
    · intro row found accepter
      cases accepts.found.symm.trans found
      cases accepter
    · exact ⟨[], silent, nofun⟩
    · exact absurd due.1 (by decide +kernel)

/-- The text is on file and its number taken, but nothing reports it. -/
theorem unknown_token_not_reported :
    let ran := (handlePlaintext .loopback "alice"
      (remarkBytes ":e:0011223344556677:")).run acquainted
    ran = .error (.capGated .stickerCtrl) (final ran) ∧
      ((final ran).db.message (remark "").msgId).isSome = true ∧
      (final ran).db.hasInboundSeq "alice" 1 = true ∧
      acquainted.db.message (remark "").msgId = none ∧
      acquainted.db.hasInboundSeq "alice" 1 = false := by
  refine ⟨eq_error_of_failure ?_, ?_, ?_, ?_, ?_⟩
  all_goals decide +kernel

end SChatCore.Ledger
