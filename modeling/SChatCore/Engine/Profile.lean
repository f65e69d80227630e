import SChatCore.Engine.Transmit
import SChatCore.Transport.Onion

namespace SChatCore.Engine

open Data.Action Wire Store

/-! Our own profile: what can be set, and what can be sent. -/

section

variable (sys : Platform)

def normalizeName (raw : String) : Option String :=
  let name := sys.nfc (String.ofList (Transport.trim raw.toList))
  if nameOk sys.nfc name then some name else none

def setOurProfile (name : String) (jpeg : Bytes) : Action Unit :=
  match normalizeName sys name with
  | none => throw (.editDenied "profile name fails nfc/length/control rules")
  | some normalized =>
    if jpeg.length > maxJpeg then
      throw (.editDenied "profile jpeg over 24 KiB")
    else
      writeDb fun db => { db with
        settings := { db.settings with
          profileName := some normalized
          profileAvatar := some jpeg } }

end

theorem encodePayload_isOk_iff {profile : Profile} :
    (∃ bytes, profile.encodePayload nfc = .ok bytes) ↔
      nameOk nfc profile.name = true ∧ profile.jpeg.length ≤ maxJpeg ∧
        jpegOk profile.jpeg = true := by
  unfold Profile.encodePayload Profile.checkName Profile.checkJpeg
  by_cases named : nameOk nfc profile.name = true
  · by_cases large : profile.jpeg.length > maxJpeg
    · simp [named, large, Nat.not_le.mpr large, bind, Except.bind, throw,
        throwThe, MonadExceptOf.throw]
    · by_cases magic : jpegOk profile.jpeg = true <;>
        simp [named, large, Nat.not_lt.mp large, magic, bind, Except.bind, pure, Except.pure]
  · simp [named, bind, Except.bind]

theorem run_setOurProfile (set : (setOurProfile sys name jpeg).run eng = .ok done next) :
    nameOk sys.nfc next.db.ourProfile.name = true ∧
      next.db.ourProfile.jpeg = jpeg ∧ jpeg.length ≤ maxJpeg := by
  unfold setOurProfile normalizeName at set
  split at set
  · cases set
  · rename_i normalized accepted
    split at set
    · cases set
    · rename_i bounded
      cases set
      simp only [Option.ite_none_right_eq_some, Option.some.injEq] at accepted
      exact ⟨accepted.2 ▸ accepted.1, rfl, Nat.not_lt.mp bounded⟩

/-- A profile that was set can be sent exactly if the picture is one: the
setter does not look at its first bytes, the encoder does. -/
theorem profile_sendable_iff {sys : Platform} {name : String} {jpeg : Bytes} {eng next : Engine}
    (set : (setOurProfile sys name jpeg).run eng = .ok () next) :
    (∃ bytes, next.db.ourProfile.encodePayload sys.nfc = .ok bytes) ↔ jpegOk jpeg = true := by
  obtain ⟨named, rfl, bounded⟩ := run_setOurProfile set
  rw [encodePayload_isOk_iff]
  exact ⟨fun sendable => sendable.2.2, fun magic => ⟨named, bounded, magic⟩⟩

theorem picture_sendable : ∃ next bytes, (setOurProfile .loopback " a " [0xff, 0xd8, 0]).run
        (.new .empty 0) = .ok () next ∧
      next.db.ourProfile.encodePayload id = .ok bytes := by
  obtain ⟨bytes, encoded⟩ := (@profile_sendable_iff .loopback " a "
    [0xff, 0xd8, 0] (.new .empty 0) _ rfl).mpr rfl
  exact ⟨_, bytes, rfl, encoded⟩

theorem encoded_of_sendProfile (ran : (sendProfile sys rel).run eng = .ok done last)
    (named : eng.db.ourProfile.name.isEmpty = false) :
    ∃ bytes, eng.db.ourProfile.encodePayload sys.nfc = .ok bytes := by
  obtain ⟨db, _, read, ran⟩ := run_bind_eq_ok ran
  cases read
  rw [named] at ran
  obtain ⟨sent, middle, send, -⟩ := run_bind_eq_ok ran
  obtain ⟨-, ⟨plain, _, encoded, -⟩, -, -⟩ := run_sendEnvelope_isOk_iff.mp ⟨sent, middle, send⟩
  obtain ⟨bytes, written, -⟩ := Envelope.encode_eq_ok.mp encoded
  exact ⟨bytes, written⟩

/-- Any three bytes pass for a picture, and the activation burst then stops at
the profile on every relationship. -/
theorem unmarked_picture_unsendable :
    ∃ next, (setOurProfile .loopback "a" [1, 2, 3]).run (.new .empty 0) = .ok () next ∧
      (∀ bytes, next.db.ourProfile.encodePayload id ≠ .ok bytes) ∧
      ∀ rel eng done last, eng.db.ourProfile = next.db.ourProfile →
        (sendProfile .loopback rel).run eng ≠ .ok done last := by
  have unsendable : ¬ ∃ bytes, (⟨"a", [1, 2, 3]⟩ : Profile).encodePayload id = .ok bytes := by
    rw [encodePayload_isOk_iff]
    decide
  refine ⟨_, rfl, not_exists.mp unsendable, ?_⟩
  intro rel eng done last same ran
  have sendable := encoded_of_sendProfile ran (by rw [same]; rfl)
  rw [same] at sendable
  exact unsendable sendable

end SChatCore.Engine
