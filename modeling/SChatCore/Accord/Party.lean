import SChatCore.Engine.Inbound

namespace SChatCore.Accord

open Wire Policy Engine
open ChatPolicy (capBit opCapSet opRuleAccept opRulePropose opSync)

/-! One party of a chat as far as its policy goes: the policy columns, the
peer's policy letters it has not read, and what it does and says. -/

/-- A policy envelope: its id and its payload. -/
abbrev Letter := MsgId × ChatPolicy

abbrev Rules := UInt32 × Bool × Bool

def rulesOf (state : PolicyState) : Rules := (state.ttlSec, state.screenshot, state.attachDownload)

def proposed (pending : PendingProposal) : Rules :=
  (pending.ttlSec, pending.screenshot, pending.attachDownload)

def contents (policy : ChatPolicy) : Rules :=
  (policy.ttlSec, policy.screenshot, policy.attachDownload)

inductive Deed
  | propose (ttlSec : UInt32) (screenshot attachDownload : Bool)
  | accept
  | decline
  | setCapability (capId : UInt8) (on : Bool)
  deriving DecidableEq

/-- The machine's half of a call: the new columns, the letter that goes out
and the effects on the rows on file. -/
def Deed.build (state : PolicyState) (proposeId : MsgId) (now : Nat) :
    Deed → Option (PolicyState × Option ChatPolicy × ApplyOutcome)
  | .propose ttlSec screenshot attachDownload =>
    (buildPropose state ttlSec screenshot attachDownload proposeId).map
      fun (next, policy) => (next, some policy, {})
  | .accept =>
    (buildAccept state now).map fun (next, policy, outcome) => (next, some policy, outcome)
  | .decline => some ({ state with pending := none }, none, {})
  | .setCapability capId on =>
    (buildCapSet state capId on).map fun (next, policy, outcome) => (next, some policy, outcome)

section

variable {now : Nat}

theorem propose_of_build (built : (Deed.propose ttlSec screenshot attachDownload).build state
      proposeId now = some (next, policy, outcome)) :
    isAllowedTtl ttlSec = true ∧ next = { state with pending := some {
        ttlSec, screenshot, attachDownload, inbound := false, proposeId } } ∧
      policy = some { payload opRulePropose next 0 false proposeId with
        ttlSec, screenshot, attachDownload } := by
  simp only [Deed.build, buildPropose] at built
  split at built
  · cases built
  · rename_i allowed
    cases built
    exact ⟨not_not.mp allowed, rfl, rfl⟩

theorem accept_of_build (built : Deed.accept.build state proposeId now =
      some (next, policy, outcome)) :
    ∃ theirs, state.pending = some theirs ∧ theirs.inbound = true ∧
      next = (applyRules state theirs.ttlSec theirs.screenshot
        theirs.attachDownload now).1 ∧
      policy = some { payload opRuleAccept next 0 false theirs.proposeId with
        ttlSec := theirs.ttlSec
        screenshot := theirs.screenshot
        attachDownload := theirs.attachDownload } := by
  simp only [Deed.build, buildAccept] at built
  split at built
  · cases built
  · rename_i theirs held
    split at built
    · cases built
    · rename_i inbound
      cases built
      exact ⟨theirs, held, not_not.mp inbound, rfl, rfl⟩

theorem capSet_of_build (built : (Deed.setCapability capId on).build state proposeId now =
      some (next, policy, outcome)) :
    capBit capId ≠ 0 ∧ on ≠ decide (state.localWant &&& capBit capId ≠ 0) ∧
      next = (if on then
          { state with localWant := state.localWant ||| capBit capId }
        else { state with
          localWant := state.localWant &&& ~~~capBit capId
          peerWant := state.peerWant &&& ~~~capBit capId }) ∧
      policy = some (payload opCapSet next capId on noProposeId) := by
  simp only [Deed.build, buildCapSet] at built
  split at built
  · cases built
  · rename_i known
    split at built
    · cases built
    · rename_i moved
      cases built
      exact ⟨known, moved, rfl, rfl⟩

end

/-- The columns after a letter. The clock only matters for the effects. -/
def hear (state : PolicyState) (letter : Letter) : PolicyState :=
  ((policyStep state letter.2 letter.1 0).map Prod.fst).getD state

def syncOf (state : PolicyState) : ChatPolicy := payload opSync state 0 false noProposeId

structure Party where
  state : PolicyState
  mail : List Letter

def Party.sent (peer : Party) (letters : List Letter) : Party :=
  { peer with mail := peer.mail ++ letters }

/-- `proposeId` is the id drawn for a proposal. -/
inductive Act
  | call (deed : Deed) (proposeId : MsgId)
  | read
  | offer

/-- What a party does, and the letters it sends. -/
inductive Moves : Party → Act → Party → List Letter → Prop
  | call {party : Party} {deed : Deed} {proposeId : MsgId} {now : Nat}
      {next : PolicyState} {policy : Option ChatPolicy}
      {outcome : ApplyOutcome} (msgId : MsgId)
      (built : deed.build party.state proposeId now = some (next, policy, outcome)) :
      Moves party (.call deed proposeId) { party with state := next }
        (policy.toList.map fun policy => (msgId, policy))
  | idle {party : Party} (deed : Deed) (proposeId : MsgId) :
      Moves party (.call deed proposeId) party []
  | read {state : PolicyState} (letter : Letter) (rest : List Letter) :
      Moves ⟨state, letter :: rest⟩ .read ⟨hear state letter, rest⟩ []
  /-- A sync may be answered. -/
  | reply {state : PolicyState} {letter : Letter} (rest : List Letter)
      (msgId : MsgId) (sync : letter.2.op = opSync) :
      Moves ⟨state, letter :: rest⟩ .read ⟨hear state letter, rest⟩
        [(msgId, syncOf (hear state letter))]
  | offer (party : Party) (msgId : MsgId) :
      Moves party .offer party [(msgId, syncOf party.state)]
  /-- The peer is not known to speak policy. -/
  | withhold (party : Party) : Moves party .offer party []

theorem policyStep_clock (state : PolicyState) (policy : ChatPolicy) (msgId : MsgId) (now : Nat) :
    (policyStep state policy msgId now).map Prod.fst =
      (policyStep state policy msgId 0).map Prod.fst := by
  unfold policyStep
  split
  · rfl
  split
  · unfold applyAccept
    cases state.pending with
    | none => rfl
    | some pending =>
      simp only
      split <;> rfl
  split
  · rfl
  split <;> rfl

theorem hear_propose (op : letter.2.op = opRulePropose) :
    hear state letter = applyPropose state letter.2 letter.1 := by
  simp only [hear, policyStep, op, if_true, Option.map_some, Option.getD_some]

theorem hear_accept (op : letter.2.op = opRuleAccept) : hear state letter =
      ((applyAccept state letter.2 0).map Prod.fst).getD state := by
  unfold hear policyStep
  rw [if_neg (by rw [op]; decide), if_pos op, Option.map_map]
  rfl

theorem hear_capSet (op : letter.2.op = opCapSet) : hear state letter =
      (applyCapSet state letter.2.capId letter.2.capOn).1 := by
  unfold hear policyStep
  rw [if_neg (by rw [op]; decide), if_neg (by rw [op]; decide), if_pos op]
  rfl

theorem hear_sync (op : letter.2.op = opSync) :
    hear state letter = (applySync state letter.2).1 := by
  unfold hear policyStep
  rw [if_neg (by rw [op]; decide), if_neg (by rw [op]; decide),
    if_neg (by rw [op]; decide), if_pos op]
  rfl

theorem hear_unknown (propose : letter.2.op ≠ opRulePropose) (accept : letter.2.op ≠ opRuleAccept)
    (capSet : letter.2.op ≠ opCapSet)
    (sync : letter.2.op ≠ opSync) : hear state letter = state := by
  unfold hear policyStep
  rw [if_neg propose, if_neg accept, if_neg capSet, if_neg sync]
  rfl

def Awaits (state : PolicyState) (policy : ChatPolicy) : Prop :=
  ∃ own, state.pending = some own ∧ own.inbound = false ∧ own.proposeId = policy.proposeId

theorem hear_accept_of_awaits (op : letter.2.op = opRuleAccept)
    (pending : state.pending = some own) (outbound : own.inbound = false)
    (same : own.proposeId = letter.2.proposeId) :
    hear state letter = { state with
      ttlSec := own.ttlSec
      screenshot := own.screenshot
      attachDownload := own.attachDownload
      pending := none } := by
  rw [hear_accept op]
  unfold applyAccept
  rw [pending]
  simp only [outbound, same, ne_eq, not_true, or_false, Bool.false_eq_true, if_false]
  rfl

theorem hear_accept_of_not (op : letter.2.op = opRuleAccept)
    (stale : ¬ Awaits state letter.2) : hear state letter = state := by
  rw [hear_accept op]
  unfold applyAccept
  cases pending : state.pending with
  | none => rfl
  | some own =>
    simp only
    rw [if_pos]
    · rfl
    · by_contra fits
      rw [not_or, Bool.not_eq_true, not_not] at fits
      exact stale ⟨own, pending, fits⟩

theorem hear_capability (propose : letter.2.op ≠ opRulePropose)
    (accept : letter.2.op ≠ opRuleAccept) :
    rulesOf (hear state letter) = rulesOf state ∧ (hear state letter).pending = state.pending := by
  by_cases capSet : letter.2.op = opCapSet
  · rw [hear_capSet capSet]
    unfold applyCapSet
    simp only
    split
    · exact ⟨rfl, rfl⟩
    · split <;> exact ⟨rfl, rfl⟩
  by_cases sync : letter.2.op = opSync
  · rw [hear_sync sync]
    unfold applySync
    simp only
    split <;> exact ⟨rfl, rfl⟩
  · rw [hear_unknown propose accept capSet sync]
    exact ⟨rfl, rfl⟩

end SChatCore.Accord
