import SChatCore.Engine.Attaching
import SChatCore.Engine.Growth
import SChatCore.Engine.Resync

namespace SChatCore.Engine

open Data Data.Action Wire Store Policy

/-! What an envelope makes us send, read off the engine its handler starts
from. A broken session and a chunk other than the one on file apart, the
handler fails exactly if our own gate or codec refuses one of these. -/

section

variable {rel : RelId}

theorem passes_of_rows {t : EnvelopeType} (same : after.relationships = before.relationships) :
    Passes after rel t ↔ Passes before rel t := by
  have plain : ∀ db : Db, Passes db rel t ↔
      Passes { Db.empty with relationships := db.relationships } rel t :=
    fun _ => Iff.rfl
  rw [plain, same]
  exact (plain before).symm

theorem passes_updateRelationship {t : EnvelopeType} {assign : RelationshipRow → RelationshipRow}
    {keepsKey : ∀ row, (assign row).relId = row.relId}
    (same : ∀ row, ((assign row).sessionState, (assign row).role,
        (assign row).state, (assign row).closeState,
        allows (assign row).peerCaps t, policyDenies (ofRow (assign row)) t) =
      (row.sessionState, row.role, row.state, row.closeState,
        allows row.peerCaps t, policyDenies (ofRow row) t)) :
    Passes (db.updateRelationship rel assign keepsKey) rel t ↔
      Passes db rel t := by
  rw [passes_iff, passes_iff, Db.relationship_updateRelationship, if_pos rfl]
  cases db.relationship rel with
  | none => simp
  | some row =>
    have columns := same row
    simp only [Prod.mk.injEq] at columns
    simp [columns]

/-- What the request for a gap depends on is as it was. -/
structure Calm (rel : RelId) (before after : Engine) : Prop where
  clock : after.clock = before.clock
  asked : after.db.settings.resyncReqAt = before.db.settings.resyncReqAt
  passes : Passes after.db rel .resyncReq ↔ Passes before.db rel .resyncReq

instance : IsPreorder Engine (Calm rel) where
  refl _ := ⟨rfl, rfl, Iff.rfl⟩
  trans _ _ _ left right := ⟨right.clock.trans left.clock,
    right.asked.trans left.asked, right.passes.trans left.passes⟩

theorem Calm.of_unsent (same : SameUnsent before after) : Calm rel before after where
  clock := (congrArg Engine.clock same :)
  asked := (congrArg (fun eng => eng.db.settings.resyncReqAt) same :)
  passes := passes_of_rows (relationships_of_unsent same)

/-- A step that uses up `cost` of the ids ahead. -/
structure Spends (sys : Platform) (rel : RelId) (cost : Nat)
    (before after : Engine) : Prop extends Calm rel before after where
  healthy : ∀ count reserved, Healthy sys before (count + cost) reserved →
    Healthy sys after count reserved

end

section

variable {sys : Platform} {rel : RelId} {before after eng : Engine}

theorem Spends.refl (eng : Engine) : Spends sys rel 0 eng eng :=
  { refl_of (Calm rel) eng with healthy := fun _ _ => id }

theorem Spends.trans (left : Spends sys rel first before middle)
    (right : Spends sys rel second middle after) :
    Spends sys rel (second + first) before after :=
  { trans_of (Calm rel) left.toCalm right.toCalm with
    healthy := fun count reserved healthy => right.healthy count reserved
      (left.healthy _ _ (by rwa [Nat.add_assoc])) }

theorem Calm.spends (calm : Calm rel before after) (draws : after.draws = before.draws)
    (messages : ∀ msgId, before.db.message msgId = none → after.db.message msgId = none)
    (outbox : after.db.outbox = before.db.outbox)
    (ciphertexts : ∀ msgId row, after.db.ciphertexts.lookup msgId = some row →
      before.db.ciphertexts.lookup msgId = some row) :
    Spends sys rel 0 before after := by
  refine ⟨calm, fun count reserved healthy => ⟨healthy.encrypts,
    fun msgId row found => healthy.cached msgId row (ciphertexts _ _ found),
    messages _ healthy.spare, draws ▸ healthy.distinct,
    fun index lower upper => ?_⟩⟩
  rw [draws] at lower upper
  obtain ⟨unreserved, message, entry, ciphertext⟩ := healthy.unused index lower upper
  refine ⟨unreserved, messages _ message, outbox ▸ entry, ?_⟩
  cases found : after.db.ciphertexts.lookup (sys.randomMsgId index) with
  | none => rfl
  | some row => cases (ciphertexts _ _ found).symm.trans ciphertext

/-- Nothing that a send reads or writes differs. -/
theorem Spends.of_same (calm : Calm rel before after) (draws : after.draws = before.draws)
    (messages : after.db.messages = before.db.messages)
    (outbox : after.db.outbox = before.db.outbox)
    (ciphertexts : after.db.ciphertexts = before.db.ciphertexts) :
    Spends sys rel 0 before after :=
  ⟨calm, fun _ _ healthy => healthy.congr draws messages outbox ciphertexts⟩

theorem Spends.aside (same : after.db.withoutStickers = before.db.withoutStickers)
    (clock : after.clock = before.clock) (draws : after.draws = before.draws) :
    Spends sys rel 0 before after :=
  .of_same ⟨clock, (congrArg (fun db : Db => db.settings.resyncReqAt) same :),
      passes_of_rows (congrArg Db.relationships same :)⟩ draws
    (congrArg Db.messages same :) (congrArg Db.outbox same :)
    (congrArg Db.ciphertexts same :)

theorem spends_updateMessages {assign : MessageRow → MessageRow} (chosen : MessageRow → Bool)
    (keepsKey : ∀ row, (assign row).msgId = row.msgId) (eng : Engine) :
    Spends sys rel 0 eng { eng with db := { eng.db with
      messages := eng.db.messages.update chosen assign keepsKey } } := by
  refine Calm.spends ⟨rfl, rfl, Iff.rfl⟩ rfl (fun msgId fresh => ?_) rfl fun _ _ => id
  show Table.lookup (eng.db.messages.update chosen assign keepsKey) _ = none
  rw [Table.lookup_update, show eng.db.messages.lookup msgId = none from fresh]
  rfl

end

/-- `none` is a handler that fails by itself. -/
def Allowed (sys : Platform) (rel : RelId) (db : Db) (reply : Option (List Payload)) : Prop :=
  ∃ payloads, reply = some payloads ∧ ∀ payload ∈ payloads, Sendable sys db rel payload none

/-- The action comes through exactly if the reply may go out. Each of its
frames costs two ids, whatever else the action does `extra`. -/
def Answers (sys : Platform) (rel : RelId) (db : Db) (extra : Nat)
    (reply : Option (List Payload)) (action : Action α) (eng : Engine) :
    Prop :=
  ∀ count reserved, Healthy sys eng (count + (2 * (reply.getD []).length + extra)) reserved →
    Allowed sys rel db reply ∧ (∃ value next, action.run eng = .ok value next ∧ Calm rel eng next ∧
          Healthy sys next count reserved) ∨
      ¬ Allowed sys rel db reply ∧ ∃ error next, action.run eng = .error error next

variable {sys : Platform} {rel : RelId} {db : Db} {extra : Nat}
  {eng : Engine} {payload : Payload}

theorem Allowed.nil : Allowed sys rel db (some []) := ⟨[], rfl, nofun⟩

theorem not_allowed_none : ¬ Allowed sys rel db none := by
  rintro ⟨_, returned, -⟩
  cases returned

theorem allowed_cons : Allowed sys rel db (some (payload :: payloads)) ↔
      Sendable sys db rel payload none ∧ Allowed sys rel db (some payloads) := by
  simp [Allowed]

theorem answers_pure (value : α) : Answers sys rel db extra (some []) (pure value) eng :=
  fun _ _ healthy => .inl ⟨.nil, value, eng, rfl, refl_of _ _, healthy.mono (Nat.le_add_right _ _)⟩

theorem answers_of_error {action : Action α} (failed : action.run eng = .error error next) :
    Answers sys rel db extra none action eng :=
  fun _ _ _ => .inr ⟨not_allowed_none, error, next, failed⟩

theorem Answers.extend {action : Action α} (order : fewer ≤ extra)
    (answers : Answers sys rel db fewer reply action eng) :
    Answers sys rel db extra reply action eng :=
  fun count reserved healthy => answers count reserved (healthy.mono (by omega))

theorem Answers.of_run {action other : Action α} (same : action.run eng = other.run middle)
    (spends : Spends sys rel spent eng middle)
    (answers : Answers sys rel db extra reply other middle) :
    Answers sys rel db (extra + spent) reply action eng := by
  intro count reserved healthy
  rw [same]
  refine (answers count reserved (spends.healthy _ _ ?_)).imp_left ?_
  · rwa [Nat.add_assoc, Nat.add_assoc]
  · rintro ⟨allowed, value, last, ran, calm, stays⟩
    exact ⟨allowed, value, last, ran, trans_of (Calm rel) spends.toCalm calm, stays⟩

theorem answers_step {action : Action α} {next : α → Action β}
    (ran : action.run eng = .ok value middle) (spends : Spends sys rel 0 eng middle)
    (rest : Answers sys rel db extra reply (next value) middle) :
    Answers sys rel db extra reply (action >>= next) eng :=
  rest.of_run (run_bind_ok ran) spends

theorem answers_skip {action : Action α} {next : α → Action β}
    (ran : action.run eng = .ok value eng)
    (rest : Answers sys rel db extra reply (next value) eng) :
    Answers sys rel db extra reply (action >>= next) eng :=
  answers_step ran (.refl eng) rest

theorem answers_policy {next : Db → PolicyState → Action α}
    (loaded : loadPolicy eng.db rel = .ok state)
    (rest : Answers sys rel db extra reply (next eng.db state) eng) :
    Answers sys rel db extra reply
      (readDb >>= fun db => store (loadPolicy db rel) >>= next db) eng := by
  refine answers_skip rfl ?_
  rw [loaded]
  exact answers_skip rfl rest

theorem answers_ok {action : Action α} (ran : action.run eng = .ok value next)
    (spends : Spends sys rel 0 eng next) :
    Answers sys rel db extra (some []) action eng :=
  fun count reserved healthy => .inl ⟨.nil, value, next, ran, spends.toCalm,
    spends.healthy count reserved (healthy.mono (Nat.le_add_right _ _))⟩

theorem Answers.returns {action : Action α} {value : α → β}
    (answers : Answers sys rel db extra reply action eng) :
    Answers sys rel db extra reply (action >>= fun result => pure (value result)) eng := by
  intro count reserved healthy
  refine (answers count reserved healthy).imp ?_ ?_
  · rintro ⟨allowed, result, next, ran, rest⟩
    exact ⟨allowed, value result, next, run_bind_ok ran, rest⟩
  · rintro ⟨refused, error, next, failed⟩
    exact ⟨refused, error, next, run_bind_error failed⟩

theorem answers_send {next : Sent → Action α} (passes : Passes eng.db rel payload.envelopeType ↔
      Passes db rel payload.envelopeType)
    (rest : ∀ sent after, SameUnsent eng after →
      Answers sys rel db extra (some payloads) (next sent) after) :
    Answers sys rel db extra (some (payload :: payloads))
      (sendEnvelope sys rel payload none >>= next) eng := by
  intro count reserved healthy
  rw [allowed_cons]
  have gate : Sendable sys eng.db rel payload none ↔
      Sendable sys db rel payload none := and_congr_left fun _ => passes
  by_cases sendable : Sendable sys db rel payload none
  · obtain ⟨sent, after, ran, same, stays⟩ := @run_sendEnvelope payload sys
      eng rel none (count + (2 * payloads.length + extra)) reserved
      (healthy.mono (by simp only [Option.getD_some, List.length_cons]; omega))
      (gate.mpr sendable)
    rw [run_bind_ok ran]
    refine (rest sent after same count reserved stays).imp ?_ ?_
    · rintro ⟨allowed, value, last, ran, calm, stays⟩
      exact ⟨⟨sendable, allowed⟩, value, last, ran,
        trans_of (Calm rel) (.of_unsent same) calm, stays⟩
    · exact And.imp_left fun refused allowed => refused allowed.2
  · refine .inr ⟨fun allowed => sendable allowed.1, ?_⟩
    cases ran : (sendEnvelope sys rel payload none).run eng with
    | ok sent after => exact absurd (gate.mp (sendable_of_run ran)) sendable
    | error error after => exact ⟨error, after, run_bind_error ran⟩

theorem answers_single {value : Sent → α} (passes : Passes eng.db rel payload.envelopeType ↔
      Passes db rel payload.envelopeType) :
    Answers sys rel db extra (some [payload])
      (sendEnvelope sys rel payload none >>= fun sent => pure (value sent))
      eng :=
  answers_send passes fun _ _ _ => answers_pure _

theorem answers_sendAll (payloads : List Payload) (rows : eng.db.relationships = db.relationships) :
    Answers sys rel db extra (some payloads) (sendAll sys rel payloads)
      eng := by
  induction payloads generalizing eng with
  | nil => exact answers_pure _
  | cons payload rest ih =>
    show Answers _ _ _ _ _ ((sendEnvelope sys rel payload none >>=
      fun _ => pure ()) >>= fun _ => sendAll sys rel rest) eng
    rw [bind_assoc]
    exact answers_send (passes_of_rows rows) fun _ after same =>
      ih ((relationships_of_unsent same).trans rows)

end SChatCore.Engine
