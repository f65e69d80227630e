import SChatCore.Engine.Healthy

namespace SChatCore.Engine

open Data Data.Action Wire Store Policy

/-! When the engine's own frames go out. -/

theorem Sendable.of_relationships {payload : Payload}
    (same : after.relationships = before.relationships)
    (sendable : Sendable sys before rel payload refId) :
    Sendable sys after rel payload refId := by
  have plain : ∀ db : Db, Sendable sys db rel payload refId ↔
      Sendable sys { Db.empty with relationships := db.relationships }
        rel payload refId := fun _ => Iff.rfl
  rw [plain, same]
  exact (plain before).mp sendable

theorem relationships_of_unsent (same : SameUnsent before after) :
    after.db.relationships = before.db.relationships :=
  congrArg (fun eng => eng.db.relationships) same

theorem Healthy.congr (healthy : Healthy sys before count reserved)
    (draws : after.draws = before.draws) (messages : after.db.messages = before.db.messages)
    (outbox : after.db.outbox = before.db.outbox)
    (ciphertexts : after.db.ciphertexts = before.db.ciphertexts) :
    Healthy sys after count reserved := by
  refine ⟨healthy.encrypts, ?_, ?_, ?_, ?_⟩
  · rw [ciphertexts]
    exact healthy.cached
  · rw [Db.message, messages]
    exact healthy.spare
  · rw [draws]
    exact healthy.distinct
  · intro index lower upper
    rw [draws] at lower upper
    rw [Db.message, messages, outbox, ciphertexts]
    exact healthy.unused index lower upper

theorem Healthy.mono (order : fewer ≤ count) (healthy : Healthy sys eng count reserved) :
    Healthy sys eng fewer reserved where
  encrypts := healthy.encrypts
  cached := healthy.cached
  spare := healthy.spare
  distinct first second lower between upper :=
    healthy.distinct first second lower between (by omega)
  unused index lower upper := healthy.unused index lower (by omega)

variable {sys : Platform} {rel : RelId}

theorem encodable_requestOf (db : Db) : Envelope.Encodable sys.nfc
    (.resyncReq (requestOf sys db rel)) none := by
  have short : (requestOf sys db rel).receivedSeqBitmap.length ≤
      maxBitmapBytes := Db.length_bitmap_receiveView db rel bitmapBits
  refine ⟨_, if_neg (not_lt.mpr short), ?_⟩
  simp only [RawEnvelope.refBytes, List.length_append, length_u64be, length_lp,
    length_u32be, List.Vector.toList_length, List.length_singleton]
  simp only [maxBitmapBytes] at short
  simp only [maxEnvelopeBytes]
  omega

theorem run_buildRequest (unbroken : sessionState eng.db rel ≠ .broken) :
    (buildRequest sys rel).run eng = .ok (requestOf sys eng.db rel) eng := by
  unfold buildRequest refuseIfBroken
  simp only [EStateM.run_bind, run_readDb]
  rw [if_neg unbroken]
  rfl

theorem run_requestResync {count : Nat} {reserved : MsgId}
    (healthy : Healthy sys eng (count + 2) reserved) (passes : Passes eng.db rel .resyncReq) :
    ∃ next, (requestResync sys rel).run eng = .ok () next ∧ SameUnsent eng next ∧ Adds 1 eng next ∧
      Healthy sys next count reserved := by
  obtain ⟨sent, next, ran, same, stays⟩ :=
    run_sendEnvelope healthy ⟨passes, encodable_requestOf eng.db⟩
  refine ⟨next, ?_, same, adds_of_send ran, stays⟩
  obtain ⟨row, found, gate⟩ := passes
  have unbroken : sessionState eng.db rel ≠ .broken := by
    intro broken
    have state : row.sessionState = .broken := by
      cases session : row.sessionState with
      | active => simp [sessionState, found, session] at broken
      | broken => rfl
    simp [gateOutbound, state] at gate
  unfold requestResync
  rw [run_bind_ok (run_buildRequest unbroken), run_bind_ok ran]
  rfl

theorem run_buildRequest_eq_ok (ran : (buildRequest sys rel).run eng = .ok request next) :
    request = requestOf sys eng.db rel ∧ next = eng := by
  obtain ⟨_, middle, checked, afterCheck⟩ := run_bind_eq_ok ran
  have unchanged : middle = eng := by
    unfold refuseIfBroken at checked
    simp only [EStateM.run_bind, run_readDb] at checked
    split at checked <;> cases checked
    rfl
  cases afterCheck
  subst unchanged
  exact ⟨rfl, rfl⟩

theorem passes_of_requestResync (ran : (requestResync sys rel).run eng = .ok () next) :
    Passes eng.db rel .resyncReq ∧ SameUnsent eng next := by
  obtain ⟨request, built, build, afterBuild⟩ := run_bind_eq_ok ran
  obtain ⟨rfl, rfl⟩ := run_buildRequest_eq_ok build
  obtain ⟨sent, last, send, returned⟩ := run_bind_eq_ok afterBuild
  cases returned
  exact ⟨(sendable_of_run send).1, settles_sendEnvelope _ _ _ _ _ send⟩

def ProfileReady (sys : Platform) (eng : Engine) (rel : RelId) :
    Prop :=
  eng.db.ourProfile.name.isEmpty = true ∨ Sendable sys eng.db rel (.profile eng.db.ourProfile) none

/-- The offer goes out, or the peer is known not to take it. -/
def OfferReady (sys : Platform) (eng : Engine) (rel : RelId) :
    Prop :=
  ∃ row, eng.db.relationship rel = some row ∧
    ((∃ t, gateOutbound eng.db row .chatPolicy = .error (.capGated t)) ∨ Sendable sys eng.db rel
        (.chatPolicy (buildSync (ofRow row) eng.clock).2) none)

structure BurstReady (sys : Platform) (eng : Engine) (rel : RelId) :
    Prop where
  request : Passes eng.db rel .resyncReq
  profile : ProfileReady sys eng rel
  offer : OfferReady sys eng rel

theorem run_sendProfile {count : Nat} {reserved : MsgId}
    (healthy : Healthy sys eng (count + 2) reserved) (ready : ProfileReady sys eng rel) :
    ∃ next, (sendProfile sys rel).run eng = .ok () next ∧ SameUnsent eng next ∧ Adds 1 eng next ∧
      Healthy sys next count reserved := by
  unfold sendProfile
  simp only [EStateM.run_bind, run_readDb]
  split
  · exact ⟨eng, rfl, rfl, Nat.le_add_right _ _, healthy.mono (by omega)⟩
  · rename_i named
    obtain ⟨sent, next, ran, same, stays⟩ := run_sendEnvelope healthy (ready.resolve_left named)
    exact ⟨next, run_bind_ok ran, same, adds_of_send ran, stays⟩

theorem profileReady_of_run (ran : (sendProfile sys rel).run eng = .ok () next) :
    ProfileReady sys eng rel ∧ SameUnsent eng next := by
  unfold sendProfile at ran
  simp only [EStateM.run_bind, run_readDb] at ran
  split at ran
  · rename_i unnamed
    cases ran
    exact ⟨.inl unnamed, rfl⟩
  · obtain ⟨sent, last, send, returned⟩ := run_bind_eq_ok ran
    cases returned
    exact ⟨.inr (sendable_of_run send), settles_sendEnvelope _ _ _ _ _ send⟩

theorem run_sendEnvelope_of_gate {row : RelationshipRow} {payload : Payload}
    {refId : Option MsgId} {error : EngineError} (found : eng.db.relationship rel = some row)
    (refused : gateOutbound eng.db row payload.envelopeType = .error error) :
    (sendEnvelope sys rel payload refId).run eng =
      .error error eng := by
  have loaded : (loadRelationship rel).run eng = .ok row eng := by rw [run_loadRelationship, found]
  unfold sendEnvelope
  rw [run_bind_ok loaded, bind_readDb, refused]
  rfl

/-- The burst dates the sync it offers. -/
def afterOffer (rel : RelId) (eng : Engine) : Engine :=
  match eng.db.relationship rel with
  | none => eng
  | some row =>
    match gateOutbound eng.db row .chatPolicy with
    | .error _ => eng
    | .ok () => { eng with
        db := savePolicy rel (buildSync (ofRow row) eng.clock).1 eng.db }

theorem offered_of_unsent (same : SameUnsent eng next) :
    SameUnsent (afterOffer rel eng) (afterOffer rel next) := by
  have plain : ∀ eng, unsent (afterOffer rel eng) = unsent (afterOffer rel (unsent eng)) := by
    intro eng
    unfold afterOffer
    show _ = unsent (match eng.db.relationship rel with
      | none => _
      | some row => match gateOutbound eng.db row .chatPolicy with
        | .error _ => _
        | .ok () => _)
    split
    · rfl
    · split <;> rfl
  exact (plain next).trans ((congrArg (unsent ∘ afterOffer rel) same).trans (plain eng).symm)

theorem run_offerSync (healthy : Healthy sys eng (count + 2) reserved)
    (ready : OfferReady sys eng rel) :
    ∃ next, (offerSync sys rel).run eng = .ok () next ∧
      SameUnsent (afterOffer rel eng) next ∧ Adds 1 eng next ∧
      Healthy sys next count reserved := by
  obtain ⟨row, found, verdict⟩ := ready
  have loaded : loadPolicy eng.db rel = .ok (ofRow row) := by simp [loadPolicy, found]
  unfold offerSync
  simp only [EStateM.run_bind, run_readDb, loaded, store, run_ofExcept_ok, run_now, run_attempt]
  obtain ⟨t, refused⟩ | sendable := verdict
  · have ran := @run_sendEnvelope_of_gate sys rel eng row
      (.chatPolicy (buildSync (ofRow row) eng.clock).2) none _ found refused
    rw [ran]
    refine ⟨eng, rfl, ?_, Nat.le_add_right _ _, healthy.mono (by omega)⟩
    simp only [afterOffer, found, refused]
    rfl
  · obtain ⟨sent, next, ran, same, stays⟩ := run_sendEnvelope healthy sendable
    obtain ⟨⟨other, found', gate⟩, -⟩ := sendable
    cases found.symm.trans found'
    have gate : gateOutbound eng.db row .chatPolicy = .ok () := gate
    rw [ran]
    refine ⟨_, rfl, ?_, (adds_of_send ran :), stays.congr rfl rfl rfl rfl⟩
    simp only [afterOffer, found, gate]
    exact (congrArg (fun other : Engine => { other with
      db := savePolicy rel (buildSync (ofRow row) eng.clock).1 other.db })
      same :)

theorem offerReady_of_run (ran : (offerSync sys rel).run eng = .ok () next) :
    OfferReady sys eng rel := by
  obtain ⟨db, _, reading, afterRead⟩ := run_bind_eq_ok ran
  cases reading
  obtain ⟨state, _, loading, afterLoad⟩ := run_bind_eq_ok afterRead
  obtain ⟨loaded, rfl⟩ := run_ofExcept_eq_ok loading
  obtain ⟨row, found, rfl⟩ := loadPolicy_eq_ok.mp loaded
  refine ⟨row, found, ?_⟩
  obtain ⟨now, _, clock, afterNow⟩ := run_bind_eq_ok afterLoad
  cases clock
  obtain ⟨result, middle, tried, afterTry⟩ := run_bind_eq_ok afterNow
  rw [run_attempt] at tried
  split at tried
  · rename_i sent after ran
    exact .inr (sendable_of_run ran)
  · rename_i error after ran
    cases tried
    cases error with
    | capGated t =>
      obtain ⟨row', found', refused⟩ := gate_of_capGated ran
      rw [found] at found'
      cases found'
      exact .inl ⟨t, refused⟩
    | _ => cases afterTry

/-- The burst reads only what a send leaves alone. -/
theorem profileReady_of_unsent (same : SameUnsent eng next) :
    ProfileReady sys next rel ↔ ProfileReady sys eng rel := by
  have ours : next.db.ourProfile = eng.db.ourProfile := congrArg (fun eng => eng.db.ourProfile) same
  have rows := relationships_of_unsent same
  unfold ProfileReady
  rw [ours]
  exact or_congr_right ⟨Sendable.of_relationships rows.symm, Sendable.of_relationships rows⟩

theorem offerReady_of_unsent (same : SameUnsent eng next) :
    OfferReady sys next rel ↔ OfferReady sys eng rel := by
  have clock : next.clock = eng.clock := congrArg (fun eng => eng.clock) same
  have rows := relationships_of_unsent same
  have plain : ∀ eng : Engine, OfferReady sys eng rel ↔ OfferReady sys (Engine.new
        { Db.empty with relationships := eng.db.relationships }
        eng.clock) rel := fun _ => Iff.rfl
  rw [plain, plain eng, rows, clock]

theorem run_onRelationshipActive (healthy : Healthy sys eng (count + 6) reserved)
    (ready : BurstReady sys eng rel) :
    ∃ next, (onRelationshipActive sys rel).run eng = .ok () next ∧
      SameUnsent (afterOffer rel eng) next ∧ Adds 3 eng next ∧
      Healthy sys next count reserved := by
  obtain ⟨asked, requested, sameAsked, addsAsked, healthyAsked⟩ :=
    @run_requestResync sys rel eng (count + 4) reserved healthy ready.request
  obtain ⟨told, shared, sameTold, addsTold, healthyTold⟩ :=
    @run_sendProfile sys rel asked (count + 2) reserved healthyAsked
      ((profileReady_of_unsent sameAsked).mpr ready.profile)
  have same : SameUnsent eng told := sameTold.trans sameAsked
  obtain ⟨next, ran, sameNext, addsNext, healthyNext⟩ := run_offerSync
    healthyTold ((offerReady_of_unsent same).mpr ready.offer)
  have adds : Adds 3 eng next := by
    unfold Adds at *
    omega
  refine ⟨next, ?_, sameNext.trans (offered_of_unsent same), adds, healthyNext⟩
  unfold onRelationshipActive
  rw [run_bind_ok requested, run_bind_ok shared, ran]

theorem burstReady_of_run (ran : (onRelationshipActive sys rel).run eng = .ok () next) :
    BurstReady sys eng rel := by
  obtain ⟨_, asked, requested, afterRequest⟩ := run_bind_eq_ok ran
  obtain ⟨request, sameAsked⟩ := passes_of_requestResync requested
  obtain ⟨_, told, shared, offered⟩ := run_bind_eq_ok afterRequest
  obtain ⟨profile, sameTold⟩ := profileReady_of_run shared
  exact ⟨request, (profileReady_of_unsent sameAsked).mp profile,
    (offerReady_of_unsent (sameTold.trans sameAsked)).mp (offerReady_of_run offered)⟩

end SChatCore.Engine
