import SChatCore.Engine.Attach
import SChatCore.Engine.Stickers

namespace SChatCore.Engine

open Data Data.Action Wire Store Policy

/-! Decisions over ledger rows. -/

def editWindowSec : Nat := 3600

def editMaxEdits : Nat := 30

def isHistoryType : EnvelopeType → Bool
  | .msg | .edit | .attachHead | .attachChunk | .sticker => true
  | _ => false

def belowCut (cut appSeq : UInt64) : Bool := cut > 0 && appSeq < cut

def shouldDropInbound (t : EnvelopeType) (appSeq cut : UInt64) (tombstoned : Bool) : Bool :=
  isHistoryType t && (tombstoned || belowCut cut appSeq)

inductive EditDecision
  | apply | dropTombstone | dropHistoryCut | dropMissing | dropAuthorship
  | dropKind | dropExpired | dropWindow | dropCap | dropStaleSeq | dropTooLarge
  deriving DecidableEq

def editTarget (target : MessageRow) (now : Nat) (appSeq : UInt64)
    (bodyBytes : Nat) : EditDecision :=
  if target.direction ≠ .in_ then .dropAuthorship
  else if target.envType ≠ EnvelopeType.msg.code then .dropKind
  else if target.expired now then .dropExpired
  else if now ≥ target.receivedAt.getD target.createdAt + editWindowSec then
    .dropWindow
  else if target.editCount ≥ editMaxEdits then .dropCap
  else if appSeq ≤ target.lastEditSeq then .dropStaleSeq
  else if bodyBytes > maxBodyBytes then .dropTooLarge
  else .apply

def editDecision (target : Option MessageRow) (now : Nat) (appSeq : UInt64)
    (bodyBytes : Nat) (tombstoned : Bool) (cut : UInt64) : EditDecision :=
  if belowCut cut appSeq then .dropHistoryCut
  else if tombstoned then .dropTombstone
  else
    match target with
    | none => .dropMissing
    | some row => editTarget row now appSeq bodyBytes

def applyEdit (rel : RelId) (env : Envelope) (body : String) : Action (List EngineEvent) :=
  match env.refId with
  | none => return []
  | some target => do
    let db ← readDb
    let now ← now
    let decision := editDecision (db.message target) now env.appSeq
      (asBytes body).length (db.isTombstoned rel env.msgId now)
      (db.historyCut rel)
    if decision = .apply then do
      writeDb (Db.markEdited target (asBytes body) env.appSeq)
      return [.edited rel target]
    else return []

/-- The tombstone is recorded even when the target never arrived. -/
def applyDelete (rel : RelId) (env : Envelope) : Action (List EngineEvent) :=
  match env.refId with
  | none => return []
  | some target => do
    let now ← now
    onDeleteTarget target
    writeDb (Db.addTombstone rel target now)
    let db ← readDb
    writeDb (Db.markTombstoned target)
    return if (db.message target).isSome then [.deleted rel target] else []

def applyDeleteAll (rel : RelId) (env : Envelope) : Action (List EngineEvent) := do
  writeDb (Db.raiseHistoryCut rel env.appSeq)
  writeDb (Db.eraseHistory rel [env.msgId])
  return [.historyCleared rel]

variable (sys : Platform)

def requeueAll (rel : RelId) (frames : List Retransmit) : Action Unit :=
  frames.forM fun retransmit => do
    let record ← buildRecord sys retransmit.frame
    let now ← now
    writeDb (Db.requeue retransmit.msgId rel record messageTtlSecs now)

def applyResyncReq (rel : RelId) (request : ResyncReq) : Action Unit := do
  writeDb (Db.notePeerCaps rel request.caps)
  let frames ← handleRequest rel request
  requeueAll sys rel frames
  let db ← readDb
  let state ← store (loadPolicy db rel)
  replySync sys rel state

def policyStep (state : PolicyState) (policy : ChatPolicy) (msgId : MsgId)
    (now : Nat) : Option (PolicyState × ApplyOutcome × Bool) :=
  if policy.op = ChatPolicy.opRulePropose then
    some (applyPropose state policy msgId, { changed := true }, false)
  else if policy.op = ChatPolicy.opRuleAccept then
    (applyAccept state policy now).map fun (next, outcome) =>
      (next, outcome, false)
  else if policy.op = ChatPolicy.opCapSet then
    let (next, outcome) := applyCapSet state policy.capId policy.capOn
    some (next, outcome, false)
  else if policy.op = ChatPolicy.opSync then
    let (next, outcome) := applySync state policy
    some (next, outcome, true)
  else none

def clampAndErase (rel : RelId) (outcome : ApplyOutcome) (db : Db) : Db :=
  let clamped :=
    match outcome.clampExpiryTo with
    | some before => clampMessageExpiry rel before db
    | none => db
  if outcome.eraseAttachments then eraseAttachMessages rel clamped
  else clamped

theorem clampAndErase_eq (rel : RelId) (outcome : ApplyOutcome) (db : Db) :
    ∃ clamped, clampAndErase rel outcome db =
        (if outcome.eraseAttachments then eraseAttachMessages rel clamped
          else clamped) ∧
      (outcome.clampExpiryTo = none ∧ clamped = db ∨ ∃ limit, outcome.clampExpiryTo = some limit ∧
          clamped = clampMessageExpiry rel limit db) := by
  refine ⟨_, rfl, ?_⟩
  cases outcome.clampExpiryTo with
  | none => exact .inl ⟨rfl, rfl⟩
  | some limit => exact .inr ⟨limit, rfl, rfl⟩

theorem clampAndErase_rest (rel : RelId) (outcome : ApplyOutcome) (db : Db) :
    { clampAndErase rel outcome db with
      messages := db.messages
      attachments := db.attachments
      chunks := db.chunks } = db := by
  have erased : ∀ (heads : List MsgId) (other : Db),
      { heads.foldl (fun db headId => eraseAttachMessage headId db) other with
        messages := db.messages
        attachments := db.attachments
        chunks := db.chunks } = { other with
          messages := db.messages
          attachments := db.attachments
          chunks := db.chunks } := by
    intro heads
    induction heads with
    | nil => exact fun _ => rfl
    | cons headId rest ih => exact fun other => ih _
  unfold clampAndErase
  simp only
  split
  · refine (erased _ _).trans ?_
    split <;> rfl
  · split <;> rfl

def applyOutcome (rel : RelId) (outcome : ApplyOutcome) : Action (List EngineEvent) := do
  writeDb (clampAndErase rel outcome)
  return if outcome.changed then [.policyChanged rel] else []

def applyChatPolicy (rel : RelId) (env : Envelope) (policy : ChatPolicy) :
    Action (List EngineEvent) := do
  let db ← readDb
  let state ← store (loadPolicy db rel)
  let now ← now
  match policyStep state policy env.msgId now with
  | none => return []
  | some (next, outcome, respond) => do
    writeDb (savePolicy rel next)
    let events ← applyOutcome rel outcome
    onlyIf respond (replySync sys rel next)
    return events

def onProfile (rel : RelId) (profile : Profile) : Action (List EngineEvent) := do
  let now ← now
  let changed ← updateDb (Db.applyInboundProfile rel profile now)
  return if changed then [.profileUpdated rel] else []

def onPref (rel : RelId) (pref : Pref) : Action (List EngineEvent) :=
  match pref.encodePayload with
  -- the codec's own text; a decoded preference always encodes
  | .error _ => throw (.store (.corrupt "pref.inactivity_erase_hours"))
  | .ok bytes => do
    writeDb (Db.setPeerPrefs rel bytes)
    return [.peerPrefs rel]

def onPresence (rel : RelId) (flags : Presence) : Action (List EngineEvent) := do
  let db ← readDb
  let policy ← store (loadPolicy db rel)
  if policy.presence then do
    let granted ← rateAllow .ephemeral rel
    if granted then
      modifyGet fun eng => let (changed, presence) := eng.presence.note rel flags eng.clock
        ((changed.map fun flags =>
            .presence rel flags.inApp flags.doNotDisturb).toList,
          { eng with presence })
    else return []
  else return []

def onTyping (rel : RelId) (beat : Typing) : Action (List EngineEvent) := do
  let db ← readDb
  let policy ← store (loadPolicy db rel)
  if policy.typing then do
    let granted ← rateAllow .ephemeral rel
    if granted then
      modifyGet fun eng =>
        let (changed, typing) := eng.typing.note rel beat.typing eng.clock
        ((changed.map fun lit => .typing rel lit).toList, { eng with typing })
    else return []
  else return []

def onRead (rel : RelId) (refId : Option MsgId) : Action (List EngineEvent) := do
  let db ← readDb
  let policy ← store (loadPolicy db rel)
  match refId with
  | none => return []
  | some target =>
    if policy.receipts then do
      let now ← now
      writeDb (Db.markRead target now)
      return if (db.message target).any MessageRow.readable then
        [.read rel target] else []
    else return []

def onMsg (rel : RelId) (msgId : MsgId) (body : String) : Action (List EngineEvent) := do
  fetchMissingEmoji sys rel body
  return [.message rel msgId]

def onResyncReq (rel : RelId) (request : ResyncReq) : Action (List EngineEvent) := do
  let granted ← rateAllow .resyncReq rel
  onlyIf granted (applyResyncReq sys rel request)
  return []

def onContactClose (rel : RelId) : Action (List EngineEvent) := do
  burnRelationship rel
  return [.contactClosed rel]

def dispatch (rel : RelId) (env : Envelope) : Action (List EngineEvent) :=
  match env.payload with
  | .msg msg => onMsg sys rel env.msgId msg.body
  | .edit edit => applyEdit rel env edit.body
  | .delete => applyDelete rel env
  | .deleteAll => applyDeleteAll rel env
  | .contactClose => onContactClose rel
  | .resyncReq request => onResyncReq sys rel request
  | .attachHead payload => onAttachHead sys rel env.msgId payload
  | .attachChunk chunk => onAttachChunk sys rel chunk
  | .profile profile => onProfile rel profile
  | .profileReq => return [.profileRequested rel]
  | .pref pref => onPref rel pref
  | .sticker item => onSticker sys rel env.msgId item
  | .stickerCtrl ctrl => onStickerCtrl sys rel ctrl
  | .presence flags => onPresence rel flags
  | .typing beat => onTyping rel beat
  | .read => onRead rel env.refId
  | .chatPolicy policy => applyChatPolicy sys rel env policy

def noteImpliedCap (rel : RelId) (t : EnvelopeType) (db : Db) : Db :=
  match requiredCap t with
  | none => db
  | some bit =>
    if db.peerCaps rel &&& bit = 0 then
      db.notePeerCaps rel (db.peerCaps rel ||| bit)
    else db

structure Admitted where
  sentAt : Nat
  gap : Bool
  deriving DecidableEq

/-- Capabilities, closing, skew, dedupe and gap, up to noting the sequence
number. `none` is a silent drop. -/
def passGates (rel : RelId) (env : Envelope) : Action (Option Admitted) := do
  let db ← readDb
  if ¬ allows (db.peerCaps rel) env.envelopeType then return none
  else do
    writeDb (noteImpliedCap rel env.envelopeType)
    let db ← readDb
    if (db.closeState rel).isSome ∧ env.envelopeType ≠ .resyncReq then
      return none
    else do
      let now ← now
      let sentAt ← Action.ofExcept .sync (clampSentAt env.sentAt.toNat now)
      if (db.message env.msgId).isSome ∨ db.hasInboundSeq rel env.appSeq then
        return none
      else do
        writeDb (Db.noteInboundSeq rel env.appSeq)
        return some { sentAt, gap := opensGap db rel env.appSeq }

/-- The accepter answers the first valid frame with its activation burst. -/
def activate (rel : RelId) (role : Role) : Action Unit := do
  let db ← readDb
  if role = .accepter ∧ ¬ db.activationSent rel then do
    writeDb (Db.setActivationSent rel)
    onRelationshipActive sys rel
  else pure ()

def inboundMessage (rel : RelId) (env : Envelope) (sentAt now : Nat)
    (payload : Bytes) (expiresAt : Option Nat) : NewMessage where
  msgId := env.msgId
  relId := rel
  direction := .in_
  appSeq := env.appSeq
  sentAt := sentAt
  receivedAt := some now
  envType := env.envelopeType.code
  refId := env.refId
  payload := payload
  state := .received
  expiresAt := expiresAt

def isEphemeral : EnvelopeType → Bool
  | .typing | .presence => true
  | _ => false

/-- Everything but typing and presence is stored. -/
def ledgerInbound (rel : RelId) (env : Envelope) (sentAt : Nat) :
    Action Unit := do
  if isEphemeral env.envelopeType then pure ()
  else do
    let db ← readDb
    let now ← now
    let expiry ← store (messageExpiry db rel now)
    let payload ← wire (env.payload.encode sys.nfc)
    tryDb (Db.insertMessage now (inboundMessage rel env sentAt now payload expiry))

theorem keeps_onPref [IsPreorder Engine related]
    (step : ∀ bytes, Keeps related (writeDb (Db.setPeerPrefs rel bytes)))
    (pref : Pref) : Keeps related (onPref rel pref) := by
  unfold onPref
  split
  · exact keeps_throw _
  · exact keeps_returns (step _)

section

variable [IsPreorder Engine related] (ram : ∀ eng rate presence typing,
  related eng { eng with rate, presence, typing })

include ram

theorem keeps_onPresence (flags : Presence) : Keeps related (onPresence rel flags) := by
  refine keeps_read fun db => keeps_bind (keeps_store _) fun policy => ?_
  split
  · refine keeps_bind (keeps_modifyGet fun _ => ram _ _ _ _) fun granted => ?_
    split
    · exact keeps_modifyGet fun _ => ram _ _ _ _
    · exact keeps_pure _
  · exact keeps_pure _

theorem keeps_onTyping (beat : Typing) : Keeps related (onTyping rel beat) := by
  refine keeps_read fun db => keeps_bind (keeps_store _) fun policy => ?_
  split
  · refine keeps_bind (keeps_modifyGet fun _ => ram _ _ _ _) fun granted => ?_
    split
    · exact keeps_modifyGet fun _ => ram _ _ _ _
    · exact keeps_pure _
  · exact keeps_pure _

end

theorem keeps_ledgerInbound [IsPreorder Engine related] (files : ∀ eng now payload expiry messages,
      eng.db.messages.insert ((inboundMessage rel env sentAt now payload
        expiry).row now) = some messages →
      related eng { eng with db := { eng.db with messages } }) :
    Keeps related (ledgerInbound sys rel env sentAt) := by
  unfold ledgerInbound
  split
  · exact keeps_pure _
  · refine keeps_read fun db => keeps_clock fun now => ?_
    refine keeps_bind (keeps_store _) fun expiry => ?_
    refine keeps_bind (keeps_wire _) fun payload => ?_
    refine keeps_tryDb fun eng db inserted => ?_
    obtain ⟨messages, stored, rfl⟩ := Db.insertMessage_eq_ok.mp inserted
    exact files eng _ _ _ messages stored

def closeGap (rel : RelId) (gap : Bool) : Action (List EngineEvent) :=
  if gap then maybeRequestResync sys rel else return []

theorem keeps_closeGap [IsPreorder Engine related]
    (asks : Keeps related (maybeRequestResync sys rel)) (gap : Bool) :
    Keeps related (closeGap sys rel gap) := by
  unfold closeGap
  split
  · exact asks
  · exact keeps_pure _

def isCut (rel : RelId) (env : Envelope) (now : Nat) (db : Db) : Bool :=
  shouldDropInbound env.envelopeType env.appSeq (db.historyCut rel)
    (db.isTombstoned rel env.msgId now)

/-- Ledger, dispatch and gap repair of an envelope that is not cut. A closed
contact has no gap to repair. -/
def process (rel : RelId) (env : Envelope) (admitted : Admitted) : Action (List EngineEvent) := do
  ledgerInbound sys rel env admitted.sentAt
  let events ← dispatch sys rel env
  if env.envelopeType = .contactClose then return events
  else do
    let repair ← closeGap sys rel admitted.gap
    return events ++ repair

def receive (rel : RelId) (env : Envelope) (role : Role)
    (admitted : Admitted) : Action (List EngineEvent) := do
  activate sys rel role
  let db ← readDb
  let now ← now
  if isCut rel env now db then closeGap sys rel admitted.gap
  else process sys rel env admitted

def handlePlaintext (rel : RelId) (plain : Bytes) : Action (List EngineEvent) := do
  let env ← wire (Envelope.decode sys.nfc plain)
  let row ← loadRelationship rel
  let admitted ← passGates rel env
  match admitted with
  | none => return []
  | some admitted => receive sys rel env row.role admitted

end SChatCore.Engine
