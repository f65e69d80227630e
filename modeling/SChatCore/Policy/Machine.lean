import SChatCore.Wire.Policy

namespace SChatCore.Policy

open Wire
open ChatPolicy (capBit flagWantAttach flagWantEmoji flagWantPresence
  flagWantReceipts flagWantTyping opCapSet opSync)

/-! Per-chat rules and capability wants. Rules change by proposal and
acceptance; a want is on only when both sides have it. -/

def wantAll : UInt32 :=
  flagWantAttach ||| flagWantEmoji ||| flagWantPresence ||| flagWantTyping ||| flagWantReceipts

def syncReplyMinSec : Nat := 30

structure PendingProposal where
  ttlSec : UInt32
  screenshot : Bool
  attachDownload : Bool
  inbound : Bool
  proposeId : MsgId
  deriving DecidableEq

structure PolicyState where
  ttlSec : UInt32
  screenshot : Bool
  attachDownload : Bool
  localWant : UInt32
  peerWant : UInt32
  pending : Option PendingProposal
  lastSyncAt : Nat
  deriving DecidableEq

namespace PolicyState

def default : PolicyState where
  ttlSec := ttl24h
  screenshot := true
  attachDownload := true
  localWant := wantAll
  peerWant := wantAll
  pending := none
  lastSyncAt := 0

def enforced (state : PolicyState) (bit : UInt32) : Bool :=
  state.localWant &&& state.peerWant &&& bit ≠ 0

def attachments (state : PolicyState) : Bool := state.enforced flagWantAttach

def emoji (state : PolicyState) : Bool := state.enforced flagWantEmoji

def presence (state : PolicyState) : Bool := state.enforced flagWantPresence

def typing (state : PolicyState) : Bool := state.enforced flagWantTyping

def receipts (state : PolicyState) : Bool := state.enforced flagWantReceipts

def expiryAt (state : PolicyState) (floor : Nat) : Option Nat :=
  if state.ttlSec = ttlNever then none else some (floor + state.ttlSec.toNat)

end PolicyState

structure ApplyOutcome where
  changed : Bool := false
  clampExpiryTo : Option Nat := none
  eraseAttachments : Bool := false
  deriving DecidableEq

def wants (policy : ChatPolicy) : UInt32 :=
  (if policy.wantAttach then flagWantAttach else 0) |||
    (if policy.wantEmoji then flagWantEmoji else 0) |||
    (if policy.wantPresence then flagWantPresence else 0) |||
    (if policy.wantTyping then flagWantTyping else 0) |||
    (if policy.wantReceipts then flagWantReceipts else 0)

def noProposeId : MsgId := List.Vector.replicate 16 0

def payload (op : UInt8) (state : PolicyState) (capId : UInt8) (capOn : Bool)
    (proposeId : MsgId) : ChatPolicy where
  op := op
  ttlSec := state.ttlSec
  screenshot := state.screenshot
  attachDownload := state.attachDownload
  wantAttach := state.localWant &&& flagWantAttach ≠ 0
  wantEmoji := state.localWant &&& flagWantEmoji ≠ 0
  wantPresence := state.localWant &&& flagWantPresence ≠ 0
  wantTyping := state.localWant &&& flagWantTyping ≠ 0
  wantReceipts := state.localWant &&& flagWantReceipts ≠ 0
  capId := capId
  capOn := capOn
  proposeId := proposeId

/-- Agreed rules take effect; a shorter TTL clamps the messages on file. -/
def applyRules (state : PolicyState) (ttlSec : UInt32)
    (screenshot attachDownload : Bool) (now : Nat) :
    PolicyState × ApplyOutcome :=
  ({ state with ttlSec, screenshot, attachDownload, pending := none },
    { changed := true
      clampExpiryTo :=
        if ttlSec ≠ ttlNever ∧ (state.ttlSec = ttlNever ∨ ttlSec < state.ttlSec) then
          some (now + ttlSec.toNat)
        else none })

/-- A zeroed proposal id falls back to the envelope's. -/
def applyPropose (state : PolicyState) (parsed : ChatPolicy) (msgId : MsgId) :
    PolicyState :=
  { state with
    pending := some {
      ttlSec := parsed.ttlSec
      screenshot := parsed.screenshot
      attachDownload := parsed.attachDownload
      inbound := true
      proposeId := if parsed.proposeId = noProposeId then msgId
        else parsed.proposeId } }

/-- Only our own unanswered proposal can be accepted, under its id. -/
def applyAccept (state : PolicyState) (parsed : ChatPolicy) (now : Nat) :
    Option (PolicyState × ApplyOutcome) :=
  match state.pending with
  | none => none
  | some pending =>
    if pending.inbound ∨ pending.proposeId ≠ parsed.proposeId then none
    else some (applyRules state pending.ttlSec pending.screenshot pending.attachDownload now)

/-- Disabling clears both sides' bits, enabling sets the peer's. -/
def applyCapSet (state : PolicyState) (capId : UInt8) (on : Bool) : PolicyState × ApplyOutcome :=
  let bit := capBit capId
  if bit = 0 then (state, {})
  else
    let next :=
      if on then { state with peerWant := state.peerWant ||| bit }
      else { state with
        localWant := state.localWant &&& ~~~bit
        peerWant := state.peerWant &&& ~~~bit }
    (next, {
      changed := state.enforced bit ≠ next.enforced bit || !on
      eraseAttachments := !on && bit = flagWantAttach && state.enforced bit })

def applySync (state : PolicyState) (parsed : ChatPolicy) : PolicyState × ApplyOutcome :=
  let peer := wants parsed
  if peer = state.peerWant then (state, {})
  else
    let next := { state with peerWant := peer }
    (next, {
      changed := true
      eraseAttachments := state.attachments && !next.attachments })

def buildPropose (state : PolicyState) (ttlSec : UInt32)
    (screenshot attachDownload : Bool) (proposeId : MsgId) :
    Option (PolicyState × ChatPolicy) :=
  if ¬ isAllowedTtl ttlSec then none
  else
    let next := { state with
      pending := some {
        ttlSec, screenshot, attachDownload, inbound := false, proposeId } }
    some (next, { payload ChatPolicy.opRulePropose next 0 false proposeId with
      ttlSec, screenshot, attachDownload })

def buildAccept (state : PolicyState) (now : Nat) :
    Option (PolicyState × ChatPolicy × ApplyOutcome) :=
  match state.pending with
  | none => none
  | some pending =>
    if ¬ pending.inbound then none
    else
      let (next, outcome) := applyRules state pending.ttlSec
        pending.screenshot pending.attachDownload now
      some (next, { payload ChatPolicy.opRuleAccept next 0 false pending.proposeId with
          ttlSec := pending.ttlSec
          screenshot := pending.screenshot
          attachDownload := pending.attachDownload },
        outcome)

def buildCapSet (state : PolicyState) (capId : UInt8) (on : Bool) :
    Option (PolicyState × ChatPolicy × ApplyOutcome) :=
  let bit := capBit capId
  if bit = 0 then none
  else if on = decide (state.localWant &&& bit ≠ 0) then none
  else
    let next :=
      if on then { state with localWant := state.localWant ||| bit }
      else { state with
        localWant := state.localWant &&& ~~~bit
        peerWant := state.peerWant &&& ~~~bit }
    some (next, payload opCapSet next capId on noProposeId, {
      changed := state.enforced bit ≠ next.enforced bit || !on
      eraseAttachments := !on && bit = flagWantAttach && state.enforced bit })

def buildSync (state : PolicyState) (now : Nat) : PolicyState × ChatPolicy :=
  let next := { state with lastSyncAt := now }
  (next, payload opSync next 0 false noProposeId)

end SChatCore.Policy
