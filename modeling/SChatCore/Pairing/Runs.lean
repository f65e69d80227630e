import SChatCore.Ledger.Retention
import SChatCore.Pairing.Ceremony

namespace SChatCore.Pairing

open Data Data.Action Wire Store Engine Transport

/-! What a ceremony does to the engine behind it: it draws from the generator,
files a relationship, shows the ratchet a frame. -/

structure Suits (sys : PairingPlatform)
    (related : Engine → Engine → Prop) : Prop where
  draw : Keeps related draw
  insert : ∀ row, Keeps related (Engine.insertRelationship row)
  call : ∀ rel frame, Keeps related (callRatchet (.decrypt rel frame))
  decrypt : ∀ rel frame eng, related eng
    (final ((decrypt sys.toPlatform rel frame eng.clock).run eng))

def Behind (related : Engine → Engine → Prop) (before after : Desk) : Prop :=
  related before.eng after.eng

instance (related : Engine → Engine → Prop) [IsPreorder Engine related] :
    IsPreorder Desk (Behind related) where
  refl desk := refl_of related desk.eng
  trans _ _ _ := trans_of related

section

variable {sys : PairingPlatform}

theorem behind_onEngine (ends : related desk.eng (final (action.run desk.eng))) :
    Behind related desk (final ((onEngine action).run desk)) := by
  rw [run_onEngine]
  cases ran : action.run desk.eng with
  | ok value eng =>
    rw [ran] at ends
    exact ends
  | error error eng =>
    rw [ran] at ends
    exact ends

variable [IsPreorder Engine related]

theorem keeps_viaEngine (keeps : Keeps related action) :
    Keeps (Behind related) (viaEngine action) :=
  keeps_bind (fun desk => behind_onEngine (keeps desk.eng)) fun _ =>
    keeps_ofExcept _ _

theorem keeps_aside {change : Desk → α × Desk} (same : ∀ desk, (change desk).2.eng = desk.eng) :
    Keeps (Behind related) (modifyGet change : Ceremony α) := by
  refine keeps_modifyGet fun desk => ?_
  unfold Behind
  rw [same]
  exact refl_of related desk.eng

theorem keeps_callTransport (call : TransportCall) : Keeps (Behind related) (callTransport call) :=
  keeps_aside fun _ => rfl

theorem keeps_drawIndex (suits : Suits sys related) : Keeps (Behind related) drawIndex :=
  keeps_viaEngine suits.draw

theorem keeps_hostServiceWithAuth (serviceId : String) (clientAuth : List String) :
    Keeps (Behind related) (hostServiceWithAuth sys serviceId clientAuth) := by
  refine keeps_bind (keeps_callTransport _) fun calls => ?_
  split
  · exact keeps_throw _
  · exact keeps_pure _

theorem keeps_installClientAuth (peerOnion privateB32 : String) :
    Keeps (Behind related) (installClientAuth sys peerOnion privateB32) :=
  keeps_bind (keeps_callTransport _) fun _ => keeps_ofExcept _ _

theorem keeps_removeService (serviceId : String) :
    Keeps (Behind related) (removeService serviceId) :=
  keeps_returns (keeps_callTransport _)

theorem keeps_clearPending : Keeps (Behind related) clearPending := by
  refine keeps_bind (keeps_map_get id) fun desk => ?_
  split
  · exact keeps_pure _
  · exact keeps_bind (keeps_removeService _) fun _ => keeps_aside fun _ => rfl

theorem keeps_sweepExpired : Keeps (Behind related) sweepExpired := by
  refine keeps_bind (keeps_map_get id) fun desk => ?_
  split
  · exact keeps_clearPending
  · exact keeps_pure _

theorem keeps_sign (suits : Suits sys related) (payload : PairingPayload) (privateKey : Bytes) :
    Keeps (Behind related) (sign sys payload privateKey) := by
  refine keeps_bind (keeps_drawIndex suits) fun index => ?_
  split
  · exact keeps_throw _
  · exact keeps_pure _

theorem keeps_signedPayload (suits : Suits sys related)
    (persona : Persona sys.identityKeyPair) (onion : String)
    (clientAuth : ClientAuthKeys) (nonce : Array32) (expiresAt : UInt64) :
    Keeps (Behind related) (signedPayload persona onion clientAuth nonce expiresAt) :=
  keeps_bind (keeps_ofExcept _ _) fun _ => keeps_bind (keeps_ofExcept _ _)
    fun _ => keeps_sign suits _ _

theorem keeps_storePersona (owner : String) (persona : Persona sys.identityKeyPair) :
    Keeps (Behind related) (storePersona owner persona) := by
  intro desk
  unfold storePersona
  rw [run_bind_ok (run_get desk)]
  split
  · exact refl_of (Behind related) desk
  · exact refl_of related desk.eng

theorem keeps_clock : Keeps (Behind related) clock := keeps_map_get _

theorem keeps_offer (suits : Suits sys related) : Keeps (Behind related) (offer sys) := by
  refine keeps_bind keeps_sweepExpired fun _ => ?_
  refine keeps_bind keeps_clearPending fun _ => ?_
  refine keeps_bind (keeps_bind (keeps_drawIndex suits) fun _ =>
    keeps_ofExcept _ _) fun persona => ?_
  refine keeps_bind (keeps_returns (keeps_drawIndex suits)) fun clientAuth => ?_
  refine keeps_bind (keeps_map _ (keeps_drawIndex suits)) fun nonce => ?_
  refine keeps_bind (keeps_hostServiceWithAuth _ _) fun onion => ?_
  refine keeps_bind keeps_clock fun now => ?_
  refine keeps_bind (keeps_signedPayload suits _ _ _ _ _) fun payload => ?_
  refine keeps_bind (keeps_storePersona _ _) fun _ => ?_
  exact keeps_returns (keeps_aside fun _ => rfl)

theorem keeps_insertRelationship (suits : Suits sys related)
    (row : RelationshipRow) (pairing : PairingRow) :
    Keeps (Behind related) (insertRelationship row pairing) :=
  keeps_bind (keeps_viaEngine (suits.insert row)) fun _ =>
    keeps_aside fun _ => rfl

theorem keeps_processBundle (rel : RelId) (payload : PairingPayload) :
    Keeps (Behind related) (processBundle sys rel payload) := by
  intro desk
  unfold processBundle
  rw [run_bind_ok (run_get desk)]
  split
  · exact refl_of (Behind related) desk
  · exact refl_of related desk.eng

theorem keeps_acceptInner (suits : Suits sys related)
    (payload : PairingPayload) (persona : Persona sys.identityKeyPair)
    (rel : RelId) (serviceId peerOnion : String) (clientAuth : ClientAuthKeys) (nonce : Array32) :
    Keeps (Behind related) (acceptInner payload persona rel serviceId
      peerOnion clientAuth nonce) := by
  refine keeps_bind (keeps_hostServiceWithAuth _ _) fun onion => ?_
  refine keeps_bind (keeps_installClientAuth _ _) fun _ => ?_
  refine keeps_bind (keeps_storePersona _ _) fun _ => ?_
  refine keeps_bind (keeps_ofExcept _ _) fun _ => ?_
  refine keeps_bind (keeps_processBundle _ _) fun _ => ?_
  refine keeps_bind keeps_clock fun now => ?_
  refine keeps_bind (keeps_signedPayload suits _ _ _ _ _) fun ours => ?_
  exact keeps_returns (keeps_insertRelationship suits _ _)

theorem keeps_accept (suits : Suits sys related) (qrBytes : Bytes) :
    Keeps (Behind related) (accept sys qrBytes) := by
  refine keeps_bind keeps_clock fun now => ?_
  refine keeps_bind (keeps_ofExcept _ _) fun payload => ?_
  refine keeps_bind (keeps_ofExcept _ _) fun _ => ?_
  refine keeps_bind (keeps_map_get id) fun desk => ?_
  split
  · exact keeps_throw _
  refine keeps_bind (keeps_bind (keeps_drawIndex suits) fun _ =>
    keeps_ofExcept _ _) fun persona => ?_
  refine keeps_bind (keeps_map_get id) fun desk => ?_
  split
  · exact keeps_throw _
  refine keeps_bind (keeps_returns (keeps_drawIndex suits)) fun clientAuth => ?_
  refine keeps_bind (keeps_map _ (keeps_drawIndex suits)) fun nonce => ?_
  refine keeps_bind (keeps_ofExcept _ _) fun host => ?_
  refine keeps_bind (keeps_attempt (keeps_acceptInner suits _ _ _ _ _ _ _)) fun outcome => ?_
  split
  · exact keeps_pure _
  · refine keeps_bind (keeps_removeService _) fun _ => ?_
    exact keeps_bind (keeps_aside fun _ => rfl) fun _ => keeps_throw _

theorem keeps_introThrottled (serviceId : String) :
    Keeps (Behind related) (introThrottled serviceId) := by
  intro desk
  unfold introThrottled
  rw [run_bind_ok (run_get desk)]
  simp only
  split
  · exact refl_of (Behind related) desk
  · exact refl_of related desk.eng

theorem keeps_screenIntro (pending : PendingRow) (intro : Option Bytes) (record : Bytes) :
    Keeps (Behind related) (screenIntro sys pending intro record) := by
  refine keeps_bind keeps_clock fun now => ?_
  split
  · exact keeps_pure _
  split
  · exact keeps_pure _
  split
  · exact keeps_pure _
  split
  · exact keeps_pure _
  split
  · exact keeps_pure _
  split
  · exact keeps_pure _
  refine keeps_bind (keeps_map_get id) fun desk => ?_
  refine keeps_bind (keeps_ofExcept _ _) fun ours => ?_
  split
  · exact keeps_pure _
  refine keeps_bind (keeps_introThrottled _) fun throttled => ?_
  split
  · exact keeps_pure _
  · simp only
    split
    · exact keeps_pure _
    · exact keeps_pure _

theorem keeps_movePersona (rel : RelId) : Keeps (Behind related) (movePersona rel) := by
  intro desk
  unfold movePersona
  rw [run_bind_ok (run_get desk)]
  simp only
  split
  · exact refl_of related desk.eng
  · exact refl_of related desk.eng

theorem keeps_decryptPreKeyMessage (suits : Suits sys related) (rel : RelId) (frame : Bytes) :
    Keeps (Behind related) (decryptPreKeyMessage sys rel frame) := by
  refine keeps_bind (keeps_viaEngine (suits.call rel frame)) fun _ => ?_
  intro desk
  rw [run_bind_ok (run_get desk)]
  split
  · exact refl_of (Behind related) desk
  · exact refl_of related desk.eng

theorem keeps_fileRequest (suits : Suits sys related)
    (pending : PendingRow) (intro : Intro) (plain : Bytes) :
    Keeps (Behind related) (fileRequest sys pending intro plain) := by
  refine keeps_bind (keeps_ofExcept _ _) fun host => ?_
  refine keeps_bind (keeps_ofExcept _ _) fun ourOffer => ?_
  refine keeps_bind keeps_clock fun now => ?_
  refine keeps_bind (keeps_insertRelationship suits _ _) fun _ => ?_
  refine keeps_bind (keeps_aside fun _ => rfl) fun _ => ?_
  exact keeps_returns (keeps_installClientAuth _ _)

theorem keeps_openIntro (suits : Suits sys related) (pending : PendingRow) (intro : Intro) :
    Keeps (Behind related) (openIntro sys pending intro) := by
  refine keeps_bind (keeps_movePersona _) fun _ => ?_
  refine keeps_bind (keeps_decryptPreKeyMessage suits _ _) fun opened => ?_
  split
  · exact keeps_returns (keeps_aside fun _ => rfl)
  · exact keeps_fileRequest suits _ _ _

theorem keeps_ingestIntro (suits : Suits sys related)
    (pending : PendingRow) (intro : Option Bytes) (record : Bytes) :
    Keeps (Behind related) (ingestIntro sys pending intro record) := by
  refine keeps_bind (keeps_screenIntro _ _ _) fun screened => ?_
  split
  · exact keeps_pure _
  · exact keeps_openIntro suits _ _

theorem keeps_ingestMessage (suits : Suits sys related) (serviceId : String) (record : Bytes) :
    Keeps (Behind related) (ingestMessage sys serviceId record) := by
  refine keeps_bind (keeps_map_get id) fun desk => ?_
  split
  · exact keeps_pure _
  split
  · exact keeps_pure _
  rename_i row _ _ frame _
  intro desk
  rw [run_bind_ok (run_clock desk)]
  refine related_bind (behind_onEngine (suits.decrypt row.relId frame desk.eng)) fun outcome => ?_
  split
  · exact keeps_pure _
  · exact keeps_pure _
  · exact keeps_pure _
  · exact keeps_pure _

theorem keeps_ingestFrame (suits : Suits sys related)
    (serviceId : String) (intro : Option Bytes) (record : Bytes) :
    Keeps (Behind related) (ingestFrame sys serviceId intro record) := by
  refine keeps_bind (keeps_map_get id) fun desk => ?_
  split
  · split
    · exact keeps_ingestIntro suits _ _ _
    · exact keeps_ingestMessage suits _ _
  · exact keeps_ingestMessage suits _ _

end

/-- Whatever a device is made to do. What the ratchet keeps in its stores is
its own business. -/
inductive Step (sys : PairingPlatform) : Desk → Desk → Prop
  | eng {desk : Desk} {eng : Engine}
      (operation : Ledger.Operation sys.toPlatform desk.eng eng) :
      Step sys desk { desk with eng }
  | ratchet (desk : Desk) (stores : Stores) :
      Step sys desk { desk with stores }
  | offer (desk : Desk) : Step sys desk (final ((offer sys).run desk))
  | sweep (desk : Desk) : Step sys desk (final (sweepExpired.run desk))
  | abort (desk : Desk) : Step sys desk (final (abortOffer.run desk))
  | accept (desk : Desk) (qrBytes : Bytes) :
      Step sys desk (final ((accept sys qrBytes).run desk))
  | ingest (desk : Desk) (serviceId : String) (intro : Option Bytes)
      (record : Bytes) : Step sys desk (final ((ingestFrame sys serviceId intro record).run desk))
  | drop (desk : Desk) (serviceId : String) (intro : Option Bytes)
      (record : Bytes) : Step sys desk (final ((ingestDrop sys serviceId intro record).run desk))

/-- Pairing apart, a step is one of the engine's, or a frame taken in and then
what it says. -/
theorem Step.cases [IsPreorder Engine related] (suits : Suits sys related)
    (step : Step sys before after) :
    ∃ middle, related before.eng middle ∧ (after.eng = middle ∨
      Ledger.Operation sys.toPlatform middle after.eng) := by
  cases step with
  | eng operation => exact ⟨_, refl_of related _, .inr operation⟩
  | ratchet => exact ⟨_, refl_of related _, .inl rfl⟩
  | offer => exact ⟨_, keeps_offer suits before, .inl rfl⟩
  | sweep => exact ⟨_, keeps_sweepExpired before, .inl rfl⟩
  | abort => exact ⟨_, keeps_clearPending before, .inl rfl⟩
  | accept qrBytes => exact ⟨_, keeps_accept suits qrBytes before, .inl rfl⟩
  | ingest serviceId intro record =>
    exact ⟨_, keeps_ingestFrame suits serviceId intro record before, .inl rfl⟩
  | drop serviceId intro record =>
    have ingests := keeps_ingestFrame suits serviceId intro record before
    unfold ingestDrop
    rw [EStateM.run_bind]
    cases ran : (ingestFrame sys serviceId intro record).run before with
    | error error desk =>
      rw [ran] at ingests
      exact ⟨_, ingests, .inl rfl⟩
    | ok outcome desk =>
      rw [ran] at ingests
      refine ⟨_, ingests, ?_⟩
      have handles : ∀ rel plain, (final ((do
          let _ ← viaEngine (handlePlaintext sys.toPlatform rel
            plain) : Ceremony Unit).run desk)).eng = final
          ((handlePlaintext sys.toPlatform rel plain).run desk.eng) := by
        intro rel plain
        unfold viaEngine
        rw [EStateM.run_bind, EStateM.run_bind, run_onEngine]
        cases (handlePlaintext sys.toPlatform rel plain).run desk.eng <;> rfl
      cases outcome with
      | requestReceived rel code plain | message rel plain =>
        refine .inr ?_
        simp only
        rw [handles]
        exact .inbound _ _ _
      | duplicate | sessionBroken | dropped => exact .inl rfl

end SChatCore.Pairing
