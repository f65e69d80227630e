import SChatCore.Engine.Burst
import SChatCore.Engine.Inbound
import SChatCore.Wire.Reencode

namespace SChatCore.Engine

open Data Data.Action Wire Store Policy

/-! The stages of an inbound envelope, each with the condition it passes
under. -/

structure Admits (eng : Engine) (rel : RelId) (env : Envelope) :
    Prop where
  allowed : allows (eng.db.peerCaps rel) env.envelopeType = true
  unclosed : (eng.db.closeState rel).isSome = true → env.envelopeType = .resyncReq
  timely : env.sentAt.toNat ≤ eng.clock + maxFutureSkewSecs
  newId : eng.db.message env.msgId = none
  newSeq : eng.db.hasInboundSeq rel env.appSeq = false

def heard (rel : RelId) (env : Envelope) (eng : Engine) : Engine :=
  { eng with db := eng.db.noteInboundSeq rel env.appSeq }

def admission (rel : RelId) (env : Envelope) (eng : Engine) : Admitted where
  sentAt := min env.sentAt.toNat eng.clock
  gap := opensGap eng.db rel env.appSeq

variable {sys : Platform} {rel : RelId} {env : Envelope}

theorem noteImpliedCap_of_allows {t : EnvelopeType} (allowed : allows (db.peerCaps rel) t = true) :
    noteImpliedCap rel t db = db := by
  unfold noteImpliedCap
  unfold allows at allowed
  split
  · rfl
  · rename_i bit required
    rw [required] at allowed
    rw [if_neg]
    simpa [Caps.has] using allowed

theorem run_passGates (admits : Admits eng rel env) : (passGates rel env).run eng =
      .ok (some (admission rel env eng)) (heard rel env eng) := by
  have clamped : clampSentAt env.sentAt.toNat eng.clock = .ok (min env.sentAt.toNat eng.clock) := by
    rw [clampSentAt, if_neg (not_lt.mpr admits.timely)]
  have unclosed : ¬ ((eng.db.closeState rel).isSome = true ∧ env.envelopeType ≠ .resyncReq) :=
    fun both => both.2 (admits.unclosed both.1)
  have fresh : ¬ ((eng.db.message env.msgId).isSome = true ∨
      eng.db.hasInboundSeq rel env.appSeq = true) := by
    simp [admits.newId, admits.newSeq]
  unfold passGates
  simp only [EStateM.run_bind, run_readDb]
  rw [if_neg (not_not.mpr admits.allowed)]
  simp only [EStateM.run_bind, run_writeDb, run_readDb, noteImpliedCap_of_allows admits.allowed]
  rw [if_neg unclosed]
  simp only [EStateM.run_bind, run_now, clamped, run_ofExcept_ok]
  rw [if_neg fresh]
  rfl

theorem run_passGates_of_not (refused : ¬ Admits eng rel env) :
    (passGates rel env).run eng = .ok none eng ∨
      ∃ error, (passGates rel env).run eng = .error error eng := by
  unfold passGates
  simp only [EStateM.run_bind, run_readDb]
  by_cases allowed : allows (eng.db.peerCaps rel) env.envelopeType = true
  · rw [if_neg (not_not.mpr allowed)]
    simp only [EStateM.run_bind, run_writeDb, run_readDb, noteImpliedCap_of_allows allowed]
    split
    · exact .inl rfl
    · rename_i unclosed
      simp only [EStateM.run_bind, run_now]
      cases clamped : clampSentAt env.sentAt.toNat eng.clock with
      | error error => exact .inr ⟨_, rfl⟩
      | ok sentAt =>
        simp only [run_ofExcept_ok]
        split
        · exact .inl rfl
        · rename_i fresh
          refine absurd ⟨allowed, ?_, ?_, ?_, ?_⟩ refused
          · intro closing
            by_contra other
            exact unclosed ⟨closing, other⟩
          · unfold clampSentAt at clamped
            split at clamped
            · cases clamped
            · omega
          · simpa using fun some => fresh (.inl some)
          · simpa using fun some => fresh (.inr some)
  · rw [if_pos allowed]
    exact .inl rfl

def Activates (sys : Platform) (eng : Engine) (rel : RelId) :
    Prop :=
  ∀ row, eng.db.relationship rel = some row → row.role = .accepter →
    eng.db.activationSent rel = false → BurstReady sys eng rel

/-- The burst is marked sent before its first frame. -/
def begun (rel : RelId) (role : Role) (eng : Engine) : Engine :=
  if role = .accepter ∧ ¬ eng.db.activationSent rel then
    { eng with db := eng.db.setActivationSent rel }
  else eng

/-- The engine as the burst leaves it, its own frames apart. -/
def primed (rel : RelId) (role : Role) (eng : Engine) : Engine :=
  if role = .accepter ∧ ¬ eng.db.activationSent rel then
    afterOffer rel (begun rel role eng)
  else eng

theorem begun_eq (rel : RelId) (role : Role) (eng : Engine) : ∃ settings, begun rel role eng =
      { eng with db := { eng.db with settings } } := by
  unfold begun
  split
  · exact ⟨_, rfl⟩
  · exact ⟨eng.db.settings, rfl⟩

theorem run_activate_eq (role : Role) : (activate sys rel role).run eng =
      if role = .accepter ∧ ¬ eng.db.activationSent rel then
        (onRelationshipActive sys rel).run (begun rel role eng)
      else .ok () eng := by
  unfold activate begun
  simp only [EStateM.run_bind, run_readDb]
  split
  · simp only [EStateM.run_bind, run_writeDb]
  · rfl

theorem outbound_activate (role : Role) : Outbound rel (begun rel role eng)
      (final ((activate sys rel role).run eng)) := by
  rw [run_activate_eq]
  split
  · exact outbound_onRelationshipActive sys _
  · rename_i idle
    rw [begun, if_neg idle]
    exact .refl rel eng

theorem BurstReady.congr (ready : BurstReady sys before rel)
    (rows : after.db.relationships = before.db.relationships)
    (ours : after.db.ourProfile = before.db.ourProfile)
    (clock : after.clock = before.clock) : BurstReady sys after rel := by
  obtain ⟨request, profile, offer⟩ := ready
  have plain : ∀ eng : Engine, (Passes eng.db rel .resyncReq ∧ OfferReady sys eng rel) ↔
      (Passes { Db.empty with relationships := eng.db.relationships } rel .resyncReq ∧
        OfferReady sys (Engine.new { Db.empty with relationships := eng.db.relationships }
          eng.clock) rel) := fun _ => Iff.rfl
  obtain ⟨request', offer'⟩ : Passes after.db rel .resyncReq ∧
      OfferReady sys after rel := by
    rw [plain, rows, clock]
    exact (plain before).mp ⟨request, offer⟩
  refine ⟨request', ?_, offer'⟩
  rw [ProfileReady, ours]
  exact profile.imp id (Sendable.of_relationships rows)

theorem run_activate {count : Nat} {reserved : MsgId} {row : RelationshipRow}
    (found : eng.db.relationship rel = some row) (healthy : Healthy sys eng (count + 6) reserved)
    (activates : Activates sys eng rel) :
    ∃ woken, (activate sys rel row.role).run eng = .ok () woken ∧
      SameUnsent (primed rel row.role eng) woken ∧ Adds 3 eng woken ∧
      Healthy sys woken count reserved := by
  rw [run_activate_eq, primed]
  split
  · rename_i due
    have ready := activates row found due.1 (by simpa using due.2)
    rw [begun, if_pos due]
    exact run_onRelationshipActive (healthy.congr rfl rfl rfl rfl) (ready.congr rfl rfl rfl)
  · exact ⟨eng, rfl, rfl, Nat.le_add_right _ _, healthy.mono (by omega)⟩

theorem activates_of_run {woken : Engine} {row : RelationshipRow}
    (found : eng.db.relationship rel = some row)
    (ran : (activate sys rel row.role).run eng = .ok () woken) :
    Activates sys eng rel := by
  intro other found' accepter unsent
  cases found.symm.trans found'
  have due : row.role = .accepter ∧ ¬ eng.db.activationSent rel = true :=
    ⟨accepter, by simp [unsent]⟩
  rw [run_activate_eq, if_pos due, begun, if_pos due] at ran
  exact (burstReady_of_run ran).congr rfl rfl rfl

theorem activates_heard : Activates sys (heard rel env eng) rel ↔
      Activates sys eng rel :=
  ⟨fun activates row found accepter unsent =>
    (activates row found accepter unsent).congr rfl rfl rfl,
  fun activates row found accepter unsent =>
    (activates row found accepter unsent).congr rfl rfl rfl⟩

def inboundRow (nfc : String → String) (rel : RelId) (env : Envelope)
    (sentAt now : Nat) (row : RelationshipRow) : MessageRow :=
  (inboundMessage rel env sentAt now ((env.payload.encode nfc).toOption.getD [])
    ((ofRow row).expiryAt now)).row now

theorem run_ledgerInbound {row : RelationshipRow} {plain : Bytes}
    {sentAt : Nat} (decoded : Envelope.decode sys.nfc plain = .ok env)
    (found : eng.db.relationship rel = some row) (stored : isEphemeral env.envelopeType = false)
    (fresh : eng.db.message env.msgId = none) :
    ∃ messages, eng.db.messages.insert (inboundRow sys.nfc rel env sentAt
        eng.clock row) = some messages ∧
      (ledgerInbound sys rel env sentAt).run eng =
        .ok () { eng with db := { eng.db with messages } } := by
  obtain ⟨bytes, encoded⟩ := Envelope.payload_reencodes decoded
  have expiry : messageExpiry eng.db rel eng.clock = .ok ((ofRow row).expiryAt eng.clock) := by
    simp [messageExpiry, loadPolicy, found]
  obtain ⟨messages, wrote, -⟩ := Table.insert_of_fresh
    (inboundRow sys.nfc rel env sentAt eng.clock row) fresh
  refine ⟨messages, wrote, ?_⟩
  have inserted : eng.db.insertMessage eng.clock (inboundMessage rel env
      sentAt eng.clock bytes ((ofRow row).expiryAt eng.clock)) = .ok { eng.db with messages } := by
    refine Db.insertMessage_eq_ok.mpr ⟨messages, ?_, rfl⟩
    rw [← wrote, inboundRow, encoded]
    rfl
  unfold ledgerInbound
  rw [if_neg (by simp [stored])]
  simp only [EStateM.run_bind, run_readDb, run_now, expiry, store, wire,
    encoded, run_ofExcept_ok, run_tryDb, inserted]

theorem run_ledgerInbound_of_ephemeral (ephemeral : isEphemeral env.envelopeType = true) :
    (ledgerInbound sys rel env sentAt).run eng = .ok () eng := by
  unfold ledgerInbound
  rw [if_pos ephemeral]
  rfl

structure Accepts (sys : Platform) (eng : Engine) (rel : RelId)
    (plain : Bytes) (env : Envelope) (row : RelationshipRow) : Prop where
  decoded : Envelope.decode sys.nfc plain = .ok env
  found : eng.db.relationship rel = some row
  admits : Admits eng rel env

theorem run_handlePlaintext (accepts : Accepts sys eng rel plain env row) :
    (handlePlaintext sys rel plain).run eng =
      (receive sys rel env row.role (admission rel env eng)).run (heard rel env eng) := by
  unfold handlePlaintext
  simp only [EStateM.run_bind, wire, accepts.decoded, run_ofExcept_ok,
    run_loadRelationship, accepts.found, run_passGates accepts.admits]

theorem run_handlePlaintext_of_not (refused : ∀ env row, ¬ Accepts sys eng rel plain env row) :
    (handlePlaintext sys rel plain).run eng = .ok [] eng ∨
      ∃ error, (handlePlaintext sys rel plain).run eng =
        .error error eng := by
  unfold handlePlaintext
  cases decoded : Envelope.decode sys.nfc plain with
  | error error => exact .inr ⟨_, rfl⟩
  | ok env =>
    simp only [EStateM.run_bind, wire, run_ofExcept_ok, run_loadRelationship]
    cases found : eng.db.relationship rel with
    | none => exact .inr ⟨_, rfl⟩
    | some row =>
      simp only
      obtain ran | ⟨error, ran⟩ := run_passGates_of_not fun admits =>
        refused env row ⟨decoded, found, admits⟩
      · rw [ran]
        exact .inl rfl
      · rw [ran]
        exact .inr ⟨_, rfl⟩

theorem final_handlePlaintext_of_not (refused : ∀ env row, ¬ Accepts sys eng rel plain env row) :
    final ((handlePlaintext sys rel plain).run eng) = eng := by
  obtain ran | ⟨error, ran⟩ := run_handlePlaintext_of_not refused
  · rw [ran]
    rfl
  · rw [ran]
    rfl

theorem run_receive (activated : (activate sys rel role).run eng = .ok () woken) :
    (receive sys rel env role admitted).run eng = if isCut rel env woken.clock woken.db then
        (closeGap sys rel admitted.gap).run woken
      else (process sys rel env admitted).run woken := by
  unfold receive
  rw [run_bind_ok activated]
  simp only [EStateM.run_bind, run_readDb, run_now]
  split <;> rfl

/-- The envelope comes as far as its handler, which starts from `filed`. -/
def Dispatches (sys : Platform) (rel : RelId) (eng : Engine)
    (plain : Bytes) (env : Envelope) (filed : Engine) : Prop :=
  ∃ row woken, Accepts sys eng rel plain env row ∧
    (activate sys rel row.role).run (heard rel env eng) = .ok () woken ∧
    isCut rel env woken.clock woken.db = false ∧
    (ledgerInbound sys rel env (admission rel env eng).sentAt).run woken = .ok () filed

theorem dispatches_of_inviter (accepts : Accepts sys eng rel plain env row)
    (inviter : row.role = .inviter) (stored : isEphemeral env.envelopeType = false)
    (uncut : isCut rel env eng.clock eng.db = false) :
    ∃ filed, Dispatches sys rel eng plain env filed ∧
      filed.clock = eng.clock ∧ filed.db.chunks = eng.db.chunks ∧
      ∀ row ∈ filed.db.messages, row ∈ eng.db.messages ∨ row.envType = env.envelopeType.code := by
  have idle : (activate sys rel row.role).run (heard rel env eng) = .ok () (heard rel env eng) := by
    rw [run_activate_eq, inviter]
    rfl
  obtain ⟨messages, wrote, ledgered⟩ := @run_ledgerInbound sys rel env
    (heard rel env eng) row plain (admission rel env eng).sentAt
    accepts.decoded accepts.found stored accepts.admits.newId
  refine ⟨_, ⟨row, _, accepts, idle, uncut, ledgered⟩, rfl, rfl, fun filed mem => ?_⟩
  exact ((Table.mem_insert wrote).mp mem).imp_right (congrArg MessageRow.envType)

theorem run_handlePlaintext_of_dispatches (dispatches : Dispatches sys rel eng plain env filed) :
    (handlePlaintext sys rel plain).run eng = (do
        let events ← dispatch sys rel env
        if env.envelopeType = .contactClose then return events
        else do
          let repair ← closeGap sys rel (admission rel env eng).gap
          return events ++ repair : Action (List EngineEvent)).run filed := by
  obtain ⟨row, woken, accepts, activated, uncut, ledgered⟩ := dispatches
  rw [run_handlePlaintext accepts, run_receive activated, uncut, if_neg Bool.false_ne_true]
  unfold process
  rw [run_bind_ok ledgered]

/-- The stages before the handler, and the one after it, stay within the
relation. -/
structure Staged (sys : Platform) (rel : RelId)
    (related : Engine → Engine → Prop) : Prop where
  wakes : ∀ role, Keeps related (activate sys rel role)
  closes : ∀ gap, Keeps related (closeGap sys rel gap)
  files : ∀ env sentAt eng, isCut rel env eng.clock eng.db = false → related eng
      (final ((ledgerInbound sys rel env sentAt).run eng))

variable {related : Engine → Engine → Prop} [IsPreorder Engine related]

theorem tail_of_dispatches (closes : ∀ gap, Keeps related (closeGap sys rel gap))
    (dispatches : Dispatches sys rel eng plain env filed) :
    related (final ((dispatch sys rel env).run filed))
      (final ((handlePlaintext sys rel plain).run eng)) := by
  rw [run_handlePlaintext_of_dispatches dispatches]
  refine tail_bind fun events => ?_
  split
  · exact keeps_pure _
  · exact keeps_returns (closes _)

theorem staged_of_outbound (outbound : ∀ before after, Outbound rel before after →
      related before after)
    (marks : ∀ (eng : Engine) settings, related eng { eng with db := { eng.db with settings } })
    (files : ∀ (eng : Engine) row messages, row.relId = rel →
      eng.db.messages.insert row = some messages →
        related eng { eng with db := { eng.db with messages } }) :
    Staged sys rel related where
  wakes role eng := by
    obtain ⟨settings, began⟩ := begun_eq rel role eng
    refine trans_of related ?_ (outbound _ _ (outbound_activate role))
    rw [began]
    exact marks eng settings
  closes := keeps_closeGap sys ((outbound_maybeRequestResync sys).mono outbound)
  files _ _ eng _ := keeps_ledgerInbound sys
    (fun eng _ _ _ messages => files eng _ messages rfl) eng

theorem Staged.dispatches (staged : Staged sys rel related)
    (dispatches : Dispatches sys rel eng plain env filed) :
    related (heard rel env eng) filed := by
  obtain ⟨row, woken, -, activated, uncut, ledgered⟩ := dispatches
  have wakes := staged.wakes row.role (heard rel env eng)
  have files := staged.files env (admission rel env eng).sentAt woken uncut
  rw [activated] at wakes
  rw [ledgered] at files
  exact trans_of related wakes files

theorem Staged.undispatched (staged : Staged sys rel related)
    (accepts : Accepts sys eng rel plain env row)
    (undispatched : ∀ filed, ¬ Dispatches sys rel eng plain env filed) :
    related (heard rel env eng) (final ((handlePlaintext sys rel plain).run eng)) := by
  have wakes := staged.wakes row.role (heard rel env eng)
  rw [run_handlePlaintext accepts]
  cases activated : (activate sys rel row.role).run (heard rel env eng) with
  | error error woken =>
    unfold receive
    rw [run_bind_error activated]
    rwa [activated] at wakes
  | ok _ woken =>
    rw [activated] at wakes
    refine trans_of related wakes ?_
    rw [run_receive activated]
    cases uncut : isCut rel env woken.clock woken.db with
    | true => exact staged.closes _ woken
    | false =>
      have files := staged.files env (admission rel env eng).sentAt woken uncut
      rw [if_neg Bool.false_ne_true]
      unfold process
      cases ledgered : (ledgerInbound sys rel env (admission rel env eng).sentAt).run woken with
      | error error filed =>
        rw [run_bind_error ledgered]
        rwa [ledgered] at files
      | ok _ filed =>
        exact absurd ⟨row, woken, accepts, activated, uncut, ledgered⟩ (undispatched filed)

theorem Staged.tail (staged : Staged sys rel related)
    (dispatches : Dispatches sys rel eng plain env filed) :
    related (final ((dispatch sys rel env).run filed))
      (final ((handlePlaintext sys rel plain).run eng)) :=
  tail_of_dispatches staged.closes dispatches

end SChatCore.Engine
