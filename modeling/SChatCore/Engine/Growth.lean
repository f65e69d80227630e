import SChatCore.Engine.Stages

namespace SChatCore.Engine

open Data Data.Action Wire Store Policy

/-! A send that went through adds a row of its own and touches no other. -/

/-- Rows on file stay with their queue entry and ciphertext; new rows are
control frames of `rel` on their way out. -/
structure Grows (rel : RelId) (before after : Engine) : Prop where
  rate : after.rate = before.rate
  session : sessionState after.db rel = sessionState before.db rel
  kept : ∀ msgId row, before.db.message msgId = some row → after.db.message msgId = some row ∧
      after.db.outbox.lookup msgId = before.db.outbox.lookup msgId ∧
      after.db.ciphertexts.lookup msgId = before.db.ciphertexts.lookup msgId
  added : ∀ msgId row, after.db.message msgId = some row →
    before.db.message msgId = none → row.relId = rel ∧ row.direction = .out ∧
        row.envType ≠ EnvelopeType.attachHead.code ∧
        ∀ entry, after.db.outbox.lookup msgId = some entry → entry.relId = rel

namespace Grows

theorem of_same (rate : after.rate = before.rate)
    (session : sessionState after.db rel = sessionState before.db rel)
    (messages : after.db.messages = before.db.messages)
    (outbox : after.db.outbox = before.db.outbox)
    (ciphertexts : after.db.ciphertexts = before.db.ciphertexts) :
    Grows rel before after where
  rate := rate
  session := session
  kept msgId row found := by
    rw [outbox, ciphertexts]
    refine ⟨?_, rfl, rfl⟩
    rw [Db.message, messages]
    exact found
  added msgId row found fresh := by
    rw [Db.message, messages] at found
    cases fresh.symm.trans found

instance : IsPreorder Engine (Grows rel) where
  refl _ := of_same rfl rfl rfl rfl rfl
  trans _ _ _ left right := by
    refine ⟨right.rate.trans left.rate, right.session.trans left.session, ?_, ?_⟩
    · intro msgId row found
      obtain ⟨message, entry, ciphertext⟩ := left.kept msgId row found
      obtain ⟨message', entry', ciphertext'⟩ := right.kept msgId row message
      exact ⟨message', entry'.trans entry, ciphertext'.trans ciphertext⟩
    · rename_i before middle after
      intro msgId row found fresh
      cases between : middle.db.message msgId with
      | none => exact right.added msgId row found between
      | some old =>
        obtain ⟨message, entry, -⟩ := right.kept msgId old between
        cases message.symm.trans found
        rw [entry]
        exact left.added msgId _ between fresh

end Grows

/-- A send that went through: its number is taken and its row on file, and no
other row or queue entry has changed. -/
structure Filed (rel : RelId) (eng next : Engine) (sent : Sent) :
    Prop where
  number : sent.appSeq = (eng.db.nextOutSeq rel).1
  floor : ∀ other, next.db.outSeqFloor other = (eng.db.nextOutSeq rel).2.outSeqFloor other
  fresh : eng.db.message sent.msgId = none
  own : ∃ row, next.db.message sent.msgId = some row ∧ row.relId = rel ∧
    row.direction = .out ∧ row.appSeq = (eng.db.nextOutSeq rel).1
  rest : ∀ other, other ≠ sent.msgId →
    next.db.message other = eng.db.message other ∧
      next.db.outbox.lookup other = eng.db.outbox.lookup other

theorem filed_sendEnvelope {payload : Payload} (ran : (sendEnvelope sys rel payload refId).run eng =
      .ok sent next) : Filed rel eng next sent := by
  obtain ⟨_, _, _, _, _, rfl, rfl, -, -, files, queues⟩ := sendEnvelope_eq_ok ran
  obtain ⟨row, looked, relation, direction, number, -⟩ := files.own
  exact ⟨rfl, fun _ => rfl, files.fresh, ⟨row, looked, relation, direction,
    number⟩, fun other differs => ⟨files.rest differs, queues.rest _ differs⟩⟩

theorem code_ne_attachHead : ∀ {t : EnvelopeType}, t ≠ .attachHead →
    t.code ≠ EnvelopeType.attachHead.code := by
  intro t other
  cases t <;> first | decide | exact absurd rfl other

theorem grows_sendEnvelope {payload : Payload} (refId : Option MsgId)
    (control : payload.envelopeType ≠ .attachHead) :
    Settles (Grows rel) (sendEnvelope sys rel payload refId) := by
  intro eng sent next ran
  obtain ⟨_, _, _, _, _, rfl, rfl, -, ⟨_, _, -, -, -, caches⟩, files, queues⟩ :=
    sendEnvelope_eq_ok ran
  refine ⟨rfl, rfl, fun other row found => ?_, fun other row found unknown => ?_⟩
  · have differs : other ≠ sys.randomMsgId eng.draws := by
      rintro rfl
      cases files.fresh.symm.trans found
    exact ⟨(files.rest differs).trans found, queues.rest _ differs, caches.rest _ differs⟩
  · by_cases same : other = sys.randomMsgId eng.draws
    · subst same
      obtain ⟨filed, looked, relation, direction, -, type⟩ := files.own
      cases looked.symm.trans found
      refine ⟨relation, direction, ?_, queues.own⟩
      rw [type]
      exact code_ne_attachHead control
    · cases unknown.symm.trans ((files.rest same).symm.trans found)

/-! A burst that went through, by what its sends and its marks do. -/

section

variable [IsPreorder Engine related]
  (sends : ∀ payload, payload.envelopeType ≠ .attachHead →
    Settles related (sendEnvelope sys rel payload none))

include sends

theorem settles_requestResync : Settles related (requestResync sys rel) := by
  refine settles_bind (fun eng request built build => ?_) fun request => ?_
  · obtain ⟨-, rfl⟩ := run_buildRequest_eq_ok build
    exact refl_of related built
  · exact settles_bind (sends _ (by simp [Payload.envelopeType])) fun _ =>
      (keeps_pure _).settles

theorem settles_sendProfile : Settles related (sendProfile sys rel) := by
  refine settles_bind keeps_readDb.settles fun db => ?_
  split
  · exact (keeps_pure _).settles
  · exact settles_bind (sends _ (by simp [Payload.envelopeType])) fun _ =>
      (keeps_pure _).settles

theorem settles_offerSync (saves : ∀ state eng,
      related eng { eng with db := savePolicy rel state eng.db }) :
    Settles related (offerSync sys rel) := by
  refine settles_bind keeps_readDb.settles fun db => ?_
  refine settles_bind (keeps_store _).settles fun state => ?_
  refine settles_bind keeps_now.settles fun now => ?_
  intro eng value next ran
  obtain ⟨sent, middle, tried, afterTry⟩ := run_bind_eq_ok ran
  rw [run_attempt] at tried
  split at tried
  · rename_i result after send
    cases tried
    cases afterTry
    have offered := sends _ (by simp [Payload.envelopeType]) _ _ _ send
    exact trans_of related offered (saves (buildSync state now).1 middle)
  · rename_i error after send
    cases tried
    cases error with
    | capGated t =>
      cases afterTry
      obtain ⟨row, found, refused⟩ := gate_of_capGated send
      have unchanged := @run_sendEnvelope_of_gate sys rel eng row
        (.chatPolicy (buildSync state now).2) none _ found refused
      cases unchanged.symm.trans send
      exact refl_of related eng
    | _ => cases afterTry

theorem settles_activate (saves : ∀ state eng,
      related eng { eng with db := savePolicy rel state eng.db })
    (marks : ∀ eng : Engine, related eng { eng with db := eng.db.setActivationSent rel })
    (role : Role) : Settles related (activate sys rel role) := by
  refine settles_bind keeps_readDb.settles fun db => ?_
  split
  · refine settles_bind (keeps_writeDb marks).settles fun _ => ?_
    exact settles_bind (settles_requestResync sends) fun _ =>
      settles_bind (settles_sendProfile sends) fun _ =>
        settles_offerSync sends saves
  · exact (keeps_pure _).settles

end

theorem grows_activate (role : Role) : Settles (Grows rel) (activate sys rel role) :=
  settles_activate (fun _ control => grows_sendEnvelope none control) (fun _ _ => .of_same rfl
      (sessionState_updateRelationship _ fun _ => rfl) rfl rfl rfl)
    (fun _ => .of_same rfl rfl rfl rfl rfl) role

theorem ledgerInbound_eq_ok (decoded : Envelope.decode sys.nfc plain = .ok env)
    (found : eng.db.relationship rel = some row)
    (ran : (ledgerInbound sys rel env sentAt).run eng = .ok () ready) :
    isEphemeral env.envelopeType = true ∧ ready = eng ∨ isEphemeral env.envelopeType = false ∧
        eng.db.message env.msgId = none ∧
        ∃ messages, eng.db.messages.insert (inboundRow sys.nfc rel env
            sentAt eng.clock row) = some messages ∧
          ready = { eng with db := { eng.db with messages } } := by
  cases ephemeral : isEphemeral env.envelopeType with
  | true =>
    rw [run_ledgerInbound_of_ephemeral ephemeral] at ran
    cases ran
    exact .inl ⟨rfl, rfl⟩
  | false =>
    refine .inr ⟨rfl, ?_⟩
    cases taken : eng.db.message env.msgId with
    | none =>
      obtain ⟨messages, inserted, ran'⟩ :=
        @run_ledgerInbound sys rel env eng row plain sentAt decoded found ephemeral taken
      cases ran'.symm.trans ran
      exact ⟨rfl, messages, inserted, rfl⟩
    | some other =>
      unfold ledgerInbound at ran
      rw [if_neg (by simp [ephemeral])] at ran
      obtain ⟨db, _, reading, afterRead⟩ := run_bind_eq_ok ran
      cases reading
      obtain ⟨now, _, timing, afterNow⟩ := run_bind_eq_ok afterRead
      cases timing
      obtain ⟨expiry, _, expiring, afterExpiry⟩ := run_bind_eq_ok afterNow
      obtain ⟨-, rfl⟩ := run_ofExcept_eq_ok expiring
      obtain ⟨payload, _, encoding, inserting⟩ := run_bind_eq_ok afterExpiry
      obtain ⟨-, rfl⟩ := run_ofExcept_eq_ok encoding
      rw [run_tryDb] at inserting
      split at inserting
      · rename_i inserted
        obtain ⟨messages, wrote, -⟩ := Db.insertMessage_eq_ok.mp inserted
        have fresh := (Table.insert_eq_some.mp wrote).1
        cases taken.symm.trans fresh
      · cases inserting

/-- From the engine before the frame to the one the dispatcher sees: what is
on file is as it was, and the rows that are new are the envelope's own and
those of the burst. -/
structure Poised (sys : Platform) (rel : RelId) (env : Envelope)
    (eng ready : Engine) : Prop where
  clock : ready.clock = eng.clock
  rate : ready.rate = eng.rate
  session : sessionState ready.db rel = sessionState eng.db rel
  isolated : Isolated rel eng.db ready.db
  attachments : ready.db.attachments = eng.db.attachments
  chunks : ready.db.chunks = eng.db.chunks
  tombstones : ready.db.tombstones = eng.db.tombstones
  standing : (ready.db.relationship rel).map standing = (eng.db.relationship rel).map standing
  kept : ∀ msgId row, eng.db.message msgId = some row → ready.db.message msgId = some row ∧
      ready.db.outbox.lookup msgId = eng.db.outbox.lookup msgId ∧
      ready.db.ciphertexts.lookup msgId = eng.db.ciphertexts.lookup msgId
  added : ∀ msgId row, ready.db.message msgId = some row →
    eng.db.message msgId = none → row.relId = rel ∧
      (row.direction = .in_ ∧ row.envType = env.envelopeType.code ∨
        row.direction = .out ∧ row.envType ≠ EnvelopeType.attachHead.code ∧
          ∀ entry, ready.db.outbox.lookup msgId = some entry → entry.relId = rel)

theorem Poised.known (poised : Poised sys rel env eng ready)
    (found : eng.db.relationship rel = some row) :
    ∃ current, ready.db.relationship rel = some current := by
  have same := poised.standing
  rw [found] at same
  obtain ⟨current, known, -⟩ := Option.map_eq_some_iff.mp same
  exact ⟨current, known⟩

theorem Poised.historyCut (poised : Poised sys rel env eng ready) :
    ready.db.historyCut rel = eng.db.historyCut rel := by
  have same := congrArg (Option.map fun pair : RelationshipRow × PolicyState =>
    pair.1.historyCutSeq) poised.standing
  rw [Option.map_map, Option.map_map] at same
  exact congrArg (Option.getD · 0) same

theorem Poised.isCut (poised : Poised sys rel env eng ready) : isCut rel env ready.clock ready.db =
      isCut rel env eng.clock eng.db := by
  unfold Engine.isCut Db.isTombstoned
  rw [poised.clock, poised.tombstones, poised.historyCut]

theorem poised_of_activate (activated : (activate sys rel role).run
      (heard rel env eng) = .ok () woken) :
    Poised sys rel env eng woken := by
  have grows := grows_activate role _ _ _ activated
  have step := @outbound_activate sys rel (heard rel env eng) role
  obtain ⟨settings, began⟩ := begun_eq rel role (heard rel env eng)
  rw [activated, began] at step
  have noted : Isolated rel eng.db (heard rel env eng).db := .noteInboundSeq env.appSeq
  have marked : Isolated rel (heard rel env eng).db { (heard rel env eng).db with settings } :=
    { Isolated.refl rel (heard rel env eng).db with }
  refine {
    clock := step.clock
    rate := grows.rate
    session := grows.session
    isolated := noted.trans (marked.trans step.isolated)
    attachments := (congrArg Db.attachments step.backdrop :)
    chunks := (congrArg Db.chunks step.backdrop :)
    tombstones := step.tombstones
    standing := step.standing
    kept := grows.kept
    added := fun msgId row found fresh => ?_ }
  obtain ⟨own, out, type, entries⟩ := grows.added msgId row found fresh
  exact ⟨own, .inr ⟨out, type, entries⟩⟩

theorem Accepts.ledgers (accepts : Accepts sys eng rel plain env row)
    (activated : (activate sys rel row.role).run (heard rel env eng) =
      .ok () woken) (spare : woken.db.message env.msgId = none) :
    ∃ filed, (ledgerInbound sys rel env
      (admission rel env eng).sentAt).run woken = .ok () filed := by
  obtain ⟨current, known⟩ := (poised_of_activate activated).known accepts.found
  cases ephemeral : isEphemeral env.envelopeType with
  | true => exact ⟨woken, run_ledgerInbound_of_ephemeral ephemeral⟩
  | false =>
    obtain ⟨messages, -, ran⟩ := @run_ledgerInbound sys rel env woken
      current plain (admission rel env eng).sentAt
      accepts.decoded known ephemeral spare
    exact ⟨_, ran⟩

theorem Poised.ledger (poised : Poised sys rel env eng woken)
    (decoded : Envelope.decode sys.nfc plain = .ok env) (found : eng.db.relationship rel = some row)
    (ran : (ledgerInbound sys rel env sentAt).run woken = .ok () ready) :
    Poised sys rel env eng ready := by
  obtain ⟨current, known⟩ := poised.known found
  obtain ⟨-, rfl⟩ | ⟨-, fresh, messages, inserted, rfl⟩ := ledgerInbound_eq_ok decoded known ran
  · exact poised
  have looked := Table.lookup_insert inserted
  refine { poised with
    isolated := poised.isolated.trans { Isolated.refl rel woken.db with
      messages := Table.SameBut.insert inserted rfl }
    kept := fun msgId row found => ?_
    added := fun msgId row found unknown => ?_ }
  · obtain ⟨message, entry, ciphertext⟩ := poised.kept msgId row found
    refine ⟨?_, entry, ciphertext⟩
    refine (looked msgId).trans ((if_neg ?_).trans message)
    rintro rfl
    cases fresh.symm.trans message
  · have inserted := (looked msgId).symm.trans found
    split at inserted
    · cases inserted
      exact ⟨rfl, .inl ⟨rfl, rfl⟩⟩
    · exact poised.added msgId row inserted unknown

theorem isCut_of_closes {now : Nat} (closes : env.payload = .contactClose) :
    isCut rel env now db = false := by
  have type : env.envelopeType = .contactClose := congrArg Payload.envelopeType closes
  rw [isCut, type]
  rfl

theorem dispatches_iff_activates (accepts : Accepts sys eng rel plain env row)
    (healthy : Healthy sys eng 6 env.msgId) (uncut : isCut rel env eng.clock eng.db = false) :
    (∃ filed, Dispatches sys rel eng plain env filed) ↔
      Activates sys eng rel := by
  constructor
  · rintro ⟨filed, other, woken, accepts, activated, -⟩
    exact activates_heard.mp (activates_of_run accepts.found activated)
  · intro activates
    obtain ⟨woken, activated, -, -, stays⟩ := @run_activate sys rel
      (heard rel env eng) 0 env.msgId row accepts.found
      (healthy.congr rfl rfl rfl rfl) (activates_heard.mpr activates)
    obtain ⟨filed, ledgered⟩ := accepts.ledgers activated stays.spare
    exact ⟨filed, row, woken, accepts, activated,
      (poised_of_activate activated).isCut.trans uncut, ledgered⟩

end SChatCore.Engine
