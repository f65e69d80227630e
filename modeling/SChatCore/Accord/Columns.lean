import SChatCore.Accord.Wants
import SChatCore.Engine.Api
import SChatCore.Engine.Outbound
import SChatCore.Wire.RoundTrip

namespace SChatCore.Accord

open Data Wire Store Policy Engine

/-! An engine as a party: its policy columns and the policy letters in its
ledger. -/

def calm (state : PolicyState) : PolicyState := { state with lastSyncAt := 0 }

def columns (rel : RelId) (eng : Engine) : Option PolicyState :=
  (eng.db.relationship rel).map fun row => calm (ofRow row)

theorem columns_of_standing (same : (after.db.relationship rel).map standing =
      (before.db.relationship rel).map standing) :
    columns rel after = columns rel before := by
  have projected := congrArg (Option.map Prod.snd) same
  simp only [Option.map_map] at projected
  exact projected

def Fits (state : PolicyState) : Prop :=
  state.localWant &&& 0xff = state.localWant ∧ state.peerWant &&& 0xff = state.peerWant

theorem fits_ofRow (row : RelationshipRow) : Fits (ofRow row) :=
  ⟨byteMask_byteMask _, byteMask_byteMask _⟩

theorem columns_savePolicy {eng : Engine}
    (found : eng.db.relationship rel = some row) (fits : Fits next) :
    columns rel { eng with db := savePolicy rel next eng.db } = some (calm next) := by
  have stored := Db.relationship_updateRelationship rel rel (saved next) (fun _ => rfl) eng.db
  rw [if_pos rfl, found] at stored
  unfold columns
  rw [savePolicy, stored]
  simp [ofRow_saved row fits.1 fits.2]

/-- The engine once a change of the policy is stored and applied. -/
def enacted (rel : RelId) (next : PolicyState) (outcome : ApplyOutcome) (eng : Engine) : Engine :=
  { eng with
    db := clampAndErase rel outcome (savePolicy rel next eng.db) }

theorem columns_enacted {eng : Engine} (outcome : ApplyOutcome)
    (found : eng.db.relationship rel = some row) (fits : Fits next) :
    columns rel (enacted rel next outcome eng) = some (calm next) := by
  have kept : (enacted rel next outcome eng).db.relationships =
      (savePolicy rel next eng.db).relationships :=
    (congrArg Db.relationships (clampAndErase_rest rel outcome _) :)
  rw [← columns_savePolicy found fits]
  unfold columns Db.relationship
  rw [kept]

/-! What the machine makes fits, whatever the time of the last sync. -/

theorem capBit_fits (capId : UInt8) :
    ChatPolicy.capBit capId &&& 0xff = ChatPolicy.capBit capId := by
  unfold ChatPolicy.capBit
  split_ifs <;> rfl

theorem wants_fits (policy : ChatPolicy) : wants policy &&& 0xff = wants policy := by
  unfold wants
  cases policy.wantAttach <;> cases policy.wantEmoji <;>
    cases policy.wantPresence <;> cases policy.wantTyping <;>
    cases policy.wantReceipts <;> rfl

theorem fits_of_wantsOf (fits : Fits state) (same : wantsOf next = wantsOf state) : Fits next := by
  obtain ⟨localWant, peerWant⟩ := Prod.mk.inj same
  unfold Fits
  rw [localWant, peerWant]
  exact fits

theorem fits_hear (fits : Fits state) (letter : Letter) : Fits (hear state letter) := by
  have bent := wantsOf_hear state letter
  unfold bend wantsOf at bent
  split at bent
  · split at bent
    · obtain ⟨localWant, peerWant⟩ := Prod.mk.inj bent
      unfold Fits
      rw [localWant, peerWant]
      exact ⟨fits.1, Flags.within_or fits.2 (capBit_fits _)⟩
    · obtain ⟨localWant, peerWant⟩ := Prod.mk.inj bent
      unfold Fits
      rw [localWant, peerWant]
      exact ⟨Flags.within_andNot fits.1, Flags.within_andNot fits.2⟩
  · split at bent
    · obtain ⟨localWant, peerWant⟩ := Prod.mk.inj bent
      unfold Fits
      rw [localWant, peerWant]
      exact ⟨fits.1, wants_fits _⟩
    · exact fits_of_wantsOf fits bent

theorem fits_build {deed : Deed} {now : Nat} (fits : Fits state)
    (built : deed.build state proposeId now = some (next, policy, outcome)) :
    Fits next := by
  cases deed with
  | propose ttlSec screenshot attachDownload =>
    obtain ⟨-, rfl, -⟩ := propose_of_build built
    exact fits
  | accept =>
    obtain ⟨theirs, -, -, rfl, -⟩ := accept_of_build built
    exact fits
  | decline =>
    cases built
    exact fits
  | setCapability capId on =>
    obtain ⟨-, -, rfl, -⟩ := capSet_of_build built
    split
    · exact ⟨Flags.within_or fits.1 (capBit_fits capId), fits.2⟩
    · exact ⟨Flags.within_andNot fits.1, Flags.within_andNot fits.2⟩

theorem hear_calm (state : PolicyState) (letter : Letter) :
    hear (calm state) letter = calm (hear state letter) := by
  by_cases propose : letter.2.op = ChatPolicy.opRulePropose
  · rw [hear_propose propose, hear_propose propose]
    rfl
  by_cases accept : letter.2.op = ChatPolicy.opRuleAccept
  · by_cases awaits : Awaits state letter.2
    · obtain ⟨own, open_, outbound, same⟩ := awaits
      rw [hear_accept_of_awaits accept open_ outbound same]
      exact hear_accept_of_awaits accept open_ outbound same
    · rw [hear_accept_of_not accept awaits]
      exact hear_accept_of_not accept awaits
  by_cases capSet : letter.2.op = ChatPolicy.opCapSet
  · rw [hear_capSet capSet, hear_capSet capSet]
    unfold applyCapSet
    simp only
    split
    · rfl
    · split <;> rfl
  by_cases sync : letter.2.op = ChatPolicy.opSync
  · rw [hear_sync sync, hear_sync sync]
    unfold applySync
    have same : (calm state).peerWant = state.peerWant := rfl
    simp only [same]
    split <;> rfl
  · rw [hear_unknown propose accept capSet sync, hear_unknown propose accept capSet sync]

theorem build_calm (state : PolicyState) (deed : Deed) (proposeId : MsgId) (now : Nat) :
    deed.build (calm state) proposeId now = (deed.build state proposeId now).map fun built =>
        (calm built.1, built.2) := by
  cases deed with
  | propose ttlSec screenshot attachDownload =>
    simp only [Deed.build, buildPropose]
    split <;> rfl
  | accept =>
    simp only [Deed.build, buildAccept]
    have same : (calm state).pending = state.pending := rfl
    rw [same]
    cases state.pending with
    | none => rfl
    | some pending =>
      simp only
      split <;> rfl
  | decline => rfl
  | setCapability capId on =>
    simp only [Deed.build, buildCapSet]
    have same : (calm state).localWant = state.localWant := rfl
    rw [same]
    split
    · rfl
    · split
      · rfl
      · split <;> rfl

/-! What the machine can make of the default survives the columns. -/

inductive Reached : PolicyState → Prop
  | default : Reached .default
  | hear (letter : Letter) (reached : Reached state) :
      Reached (hear state letter)
  | build (deed : Deed) (now : Nat) (reached : Reached state)
      (built : deed.build state proposeId now = some (next, policy, outcome)) :
      Reached next
  | sync (now : Nat) (reached : Reached state) : Reached (buildSync state now).1

theorem Reached.fits (reached : Reached state) : Fits state := by
  induction reached with
  | default => exact ⟨rfl, rfl⟩
  | hear letter _ ih => exact fits_hear ih letter
  | build deed now _ built ih => exact fits_build ih built
  | sync now _ ih => exact ih

theorem policy_survives_storage {db : Db} (reached : Reached state)
    (found : db.relationship rel = some row) :
    loadPolicy (savePolicy rel state db) rel = .ok state := by
  have stored := Db.relationship_updateRelationship rel rel (saved state) (fun _ => rfl) db
  rw [if_pos rfl, found] at stored
  exact loadPolicy_eq_ok.mpr ⟨_, stored, ofRow_saved row reached.fits.1 reached.fits.2⟩

theorem proposal_survives_storage :
    let row := newRelationship "a" .inviter .active "" [] false 0
    ∃ state, Reached state ∧ state.pending.isSome = true ∧
      loadPolicy (savePolicy "a" state (paired row)) "a" = .ok state := by
  have reached := Reached.build (.propose 3600 false true) 0 .default
    (@rfl _ (Deed.build .default noProposeId 0 _))
  exact ⟨_, reached, rfl, policy_survives_storage reached (relationship_paired _)⟩

end SChatCore.Accord
