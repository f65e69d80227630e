import SChatCore.Ledger.Broken
import SChatCore.Pairing.Runs

namespace SChatCore.Pairing

open Data Data.Action Wire Store Engine Ledger

/-! A broken session stays broken until the contact is burned. -/

def Bars (rel : RelId) (before after : Engine) : Prop := Severed rel before → Severed rel after

instance (rel : RelId) : IsPreorder Engine (Bars rel) where
  refl _ := id
  trans _ _ _ left right := right ∘ left

theorem suits_bars (rel : RelId) : Suits sys (Bars rel) where
  draw _ severed := severed.of_same rfl rfl rfl
  insert row _ severed := severed_insertRelationship row severed
  call _ _ _ severed := severed.of_same rfl rfl rfl
  decrypt _ frame _ severed :=
    Evolves.severed (@evolves_decrypt _ (fun _ _ _ => True) _ _ frame) severed

theorem Step.severed (step : Step sys before after) (severed : Severed rel before.eng)
    (known : (after.eng.db.relationship rel).isSome = true) :
    Severed rel after.eng := by
  obtain ⟨middle, bars, same | operation⟩ := step.cases (suits_bars rel)
  · rw [same]
    exact bars severed
  · refine (operation.severed (bars severed)).resolve_left fun absent => ?_
    rw [absent] at known
    cases known

def Spares (sys : PairingPlatform) (rel : RelId) (before after : Desk) : Prop :=
  Step sys before after ∧ (after.eng.db.relationship rel).isSome = true

theorem severed_of_run (run : Relation.ReflTransGen (Spares sys rel) before after)
    (severed : Severed rel before.eng) : Severed rel after.eng := by
  induction run with
  | refl => exact severed
  | tail _ step ih => exact step.1.severed ih step.2

/-- From the break on, and for as long as the contact is not burned, nothing is
encrypted or decrypted for it and nothing of it waits to be delivered. -/
theorem broken_until_burned {start : Engine} {desk after : Desk}
    (known : (start.db.relationship rel).isSome = true)
    (broke : desk.eng = final ((markBroken rel).run start))
    (run : Relation.ReflTransGen (Spares sys rel) desk after) :
    (∀ msgId plain now, (encrypt sys.toPlatform rel msgId plain now).run after.eng =
        .error (.session (if plain.length > maxEnvelopeBytes then
          .tooLarge plain.length maxEnvelopeBytes
          else .broken "relationship is broken")) after.eng) ∧
      (∀ frame now, (decrypt sys.toPlatform rel frame now).run after.eng =
          .error (.session (.broken "relationship is broken")) after.eng) ∧
      (∀ row ∈ after.eng.db.messages, row.relId = rel → row.direction = .out →
        row.state ≠ .queued ∧ row.state ≠ .transmitted) ∧
      ∀ entry ∈ after.eng.db.outbox, entry.relId ≠ rel := by
  have severed : Severed rel after.eng := severed_of_run run (broke ▸ severed_markBroken known)
  refine ⟨?_, ?_, ?_, ?_⟩
  · intro msgId plain now
    exact run_encrypt_of_broken _ severed.broken msgId now
  · intro frame now
    exact run_decrypt_of_broken _ severed.broken frame now
  · intro row stored mine out
    have settled := severed.quiet.settled row.msgId (entryOf row)
      (congrArg (Option.map entryOf) (Table.lookup_key stored)) mine out
    exact ⟨fun queued => settled (.inl queued), fun sent => settled (.inr sent)⟩
  · intro entry stored mine
    refine severed.quiet.unqueued entry.msgId ?_
    exact mine ▸ congrArg (Option.map OutboxRow.relId) (Table.lookup_key stored)

/-- Offline, with a request in the queue. -/
def offline : Engine :=
  final ((sendProfileReq { Platform.loopback with sendRecord := fun _ => false }
    "alice").run (Engine.new (paired (newRelationship "alice" .inviter .active "" [] false 0)) 0))

def aliceRow : PairingRow where
  relId := "alice"
  serviceId := "service"
  onion := ""
  peerIdentityKey := []
  peerClientAuthPublic := ""
  ourClientAuthPrivate := ""
  ourNonce := List.Vector.replicate 32 0
  peerNonce := List.Vector.replicate 32 0

def cracked : Desk :=
  { Desk.new (final ((markBroken "alice").run offline)) with
    pairings := ⟨[aliceRow], List.nodup_singleton _⟩ }

/-- What was queued has failed, and a frame at the contact's own service is not
opened. -/
theorem cracked_stays_broken : (offline.db.outbox.lookup (.replicate 16 0)).isSome = true ∧
    (loadRelationshipByService cracked "service").isSome = true ∧
    let after := final ((ingestFrame .loopback "service" none guestRecord).run
      { cracked with eng := final (((Call.sweep).run Platform.loopback).run cracked.eng) })
    (decrypt Platform.loopback "alice" guestFrame 0).run after.eng =
        .error (.session (.broken "relationship is broken")) after.eng ∧
      ∀ entry ∈ after.eng.db.outbox, entry.relId ≠ "alice" := by
  have swept : Spares .loopback "alice" cracked { cracked with
      eng := final (((Call.sweep).run Platform.loopback).run cracked.eng) } :=
    ⟨.eng (.call _ .sweep), by decide +kernel⟩
  obtain ⟨-, unopened, -, unqueued⟩ := broken_until_burned
    (by decide +kernel) rfl ((Relation.ReflTransGen.single swept).tail
      ⟨.ingest _ "service" none guestRecord, by decide +kernel⟩)
  exact ⟨by decide +kernel, by decide +kernel, unopened guestFrame 0, unqueued⟩

/-- What is too large is refused as such before the session is looked at. -/
theorem oversized_is_not_answered_broken :
    ∃ plain, (encrypt Platform.loopback "alice" (.replicate 16 0) plain
      0).run cracked.eng = .error (.session (.tooLarge plain.length
        maxEnvelopeBytes)) cracked.eng := by
  have broken : sessionState cracked.eng.db "alice" = .broken := by decide +kernel
  refine ⟨List.replicate (maxEnvelopeBytes + 1) 0, ?_⟩
  rw [run_encrypt_of_broken _ broken, if_pos]
  rw [List.length_replicate]
  exact Nat.lt_succ_self _

end SChatCore.Pairing
