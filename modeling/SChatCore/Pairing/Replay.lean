import SChatCore.Ledger.Broken
import SChatCore.Ledger.Replay
import SChatCore.Pairing.Runs

namespace SChatCore.Pairing

open Data Data.Action Wire Store Engine Ledger

/-! A frame that the session has opened is a duplicate from then on. -/

/-- What was in the replay cache until the deadline still is. -/
def Recollects (sys : Platform) (rel : RelId) (frame : Bytes)
    (deadline : Nat) (before after : Engine) : Prop :=
  Remembers sys rel frame deadline before → Remembers sys rel frame deadline after

instance (sys : Platform) (rel : RelId) (frame : Bytes) (deadline : Nat) :
    IsPreorder Engine (Recollects sys rel frame deadline) where
  refl _ := id
  trans _ _ _ left right := right ∘ left

section

variable {sys : PairingPlatform} {rel : RelId} {frame : Bytes}

theorem suits_recollects : Suits sys (Recollects sys.toPlatform rel frame deadline) where
  draw _ remembers := remembers
  insert row _ remembers := remembers_insertRelationship row remembers
  call _ _ _ remembers := remembers
  decrypt _ frame _ remembers :=
    Follows.remembers (@Evolves.follows _ _ silence _ _
      (@evolves_decrypt _ (fun _ _ _ => True) _ _ frame)) remembers

theorem remembers_of_run (run : Relation.ReflTransGen (Step sys) before after)
    (remembers : Remembers sys.toPlatform rel frame deadline before.eng) :
    Remembers sys.toPlatform rel frame deadline after.eng := by
  induction run with
  | refl => exact remembers
  | tail _ step ih =>
    obtain ⟨middle, recollects, same | operation⟩ :=
      step.cases (@suits_recollects sys rel frame deadline)
    · rw [same]
      exact recollects ih
    · exact operation.remembers (recollects ih)

/-- Whatever a device does after the session opened a frame: within the horizon
the same bytes are answered as a duplicate, the engine left as it is, exactly
if the session is not broken by then. -/
theorem replay_is_duplicate {desk after : Desk} {opened : Engine} {plain : Bytes}
    (consumed : (decrypt sys.toPlatform rel frame desk.eng.clock).run desk.eng = .ok plain opened)
    (run : Relation.ReflTransGen (Step sys) { desk with eng := opened } after)
    (recent : after.eng.clock < desk.eng.clock + inboundFrameTtlSecs)
    (now : Nat) :
    (decrypt sys.toPlatform rel frame now).run after.eng = .error (.session .duplicate) after.eng ↔
      sessionState after.eng.db rel ≠ .broken := by
  constructor
  · intro answered broken
    rw [run_decrypt_of_broken _ broken] at answered
    cases answered
  · have remembers := remembers_of_run run (remembers_of_decrypt consumed)
    exact run_decrypt_of_known (remembers.known recent)

end

def acquainted : Desk :=
  Desk.new (Engine.new (paired (newRelationship "alice" .inviter .active "" [] false 0)) 0)

theorem duplicate_after_an_hour : ∃ plain opened,
    (decrypt Platform.loopback "alice" [tagSignal] 0).run acquainted.eng = .ok plain opened ∧
    (decrypt Platform.loopback "alice" [tagSignal] 3600).run
      { opened with clock := opened.clock + 3600 } = .error (.session .duplicate)
          { opened with clock := opened.clock + 3600 } := by
  obtain ⟨plain, consumed⟩ := @eq_ok_of_failure _ _ _
    ((decrypt Platform.loopback "alice" [tagSignal] 0).run acquainted.eng)
    (by decide +kernel)
  refine ⟨plain, _, consumed, ?_⟩
  exact @replay_is_duplicate .loopback "alice" [tagSignal] acquainted
    { acquainted with eng := { final ((decrypt Platform.loopback "alice"
      [tagSignal] 0).run acquainted.eng) with clock := (final ((decrypt
        Platform.loopback "alice" [tagSignal] 0).run
          acquainted.eng)).clock + 3600 } } _ plain consumed
    (.single (.eng (.call _ (.tick 3600)))) (by decide +kernel) 3600 |>.mpr
    (by decide +kernel)

/-- A ratchet that knows the intro for as long as it keeps its chain. -/
def forgetful : PairingPlatform := { PairingPlatform.loopback with
  messageDecrypt := fun calls _ frame =>
    if frame ≠ guestFrame then .ok frame.tail
    else if calls.length < 6 then .error .duplicatedMessage
    else .error (.fatal "no receiver chain") }

/-- The intro is not in the replay cache: sent again it reaches the ratchet,
and once its chain is gone it breaks the session. -/
theorem intro_replay_breaks_session :
    let ingested := (ingestFrame forgetful "service" (some guest.encode) guestRecord).run inviting
    let again := (decrypt forgetful.toPlatform guestRelId guestFrame 1).run
    received ingested = true ∧ parseRecord guestRecord = .ok guestFrame ∧
      failure (again (final ingested).eng) = some (.session .duplicate) ∧
      let later := (List.range 5).foldl (fun eng index =>
        final ((decrypt forgetful.toPlatform guestRelId
          [tagSignal, UInt8.ofNat index] 1).run eng)) (final ingested).eng
      failure (again later) = some (.session (.broken "no receiver chain")) ∧
        (final (again later)).ratchet = later.ratchet ++ [.decrypt guestRelId guestFrame] ∧
        sessionState (final (again later)).db guestRelId = .broken := by
  decide +kernel

end SChatCore.Pairing
