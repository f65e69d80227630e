import SChatCore.Policy.Machine
import SChatCore.Store.Attachments
import SChatCore.Store.Messages
import SChatCore.Store.Relationships

namespace SChatCore.Policy

open Data Wire Store

/-! The policy columns of a relationship, and the two store effects the
machine can ask for. -/

def pendingFlags (pending : PendingProposal) : UInt8 :=
  (if pending.screenshot then 1 else 0) ||| (if pending.attachDownload then 2 else 0) |||
    (if pending.inbound then 4 else 0)

def encodePending (pending : PendingProposal) : List.Vector UInt8 21 :=
  ⟨u32be pending.ttlSec ++ pendingFlags pending :: pending.proposeId.toList, by simp⟩

def decodePending (bytes : List.Vector UInt8 21) : PendingProposal :=
  let flags := bytes.get 4
  { ttlSec := UInt32.ofNat (fromBeBytes (bytes.toList.take 4))
    screenshot := flags &&& 1 ≠ 0
    attachDownload := flags &&& 2 ≠ 0
    inbound := flags &&& 4 ≠ 0
    proposeId := bytes.drop 5 }

def ofRow (row : RelationshipRow) : PolicyState where
  ttlSec := row.policyTtlSec
  screenshot := row.policyFlags &&& 1 ≠ 0
  attachDownload := row.policyFlags &&& 2 ≠ 0
  localWant := row.policyWants &&& 0xff
  peerWant := (row.policyWants >>> 8) &&& 0xff
  pending := row.policyPending.map decodePending
  lastSyncAt := row.policyLastSyncAt

def loadPolicy (db : Db) (rel : RelId) : Except StoreError PolicyState :=
  match db.relationship rel with
  | none => .error (.corrupt s!"policy for unknown rel {rel}")
  | some row => .ok (ofRow row)

theorem loadPolicy_eq_ok : loadPolicy db rel = .ok state ↔
      ∃ row, db.relationship rel = some row ∧ ofRow row = state := by
  unfold loadPolicy
  cases db.relationship rel <;> simp

def saved (state : PolicyState) (row : RelationshipRow) : RelationshipRow :=
  { row with
    policyTtlSec := state.ttlSec
    policyFlags := (if state.screenshot then 1 else 0) ||| (if state.attachDownload then 2 else 0)
    policyWants := ((state.peerWant &&& 0xff) <<< 8) ||| (state.localWant &&& 0xff)
    policyPending := state.pending.map encodePending
    policyLastSyncAt := state.lastSyncAt }

def savePolicy (rel : RelId) (state : PolicyState) : Db → Db :=
  Db.updateRelationship rel (saved state) fun _ => rfl

theorem pendingFlags_bits : ∀ screenshot attachDownload inbound : Bool,
    let flags : UInt8 := (if screenshot then 1 else 0) |||
      (if attachDownload then 2 else 0) ||| (if inbound then 4 else 0)
    decide (flags &&& 1 ≠ 0) = screenshot ∧ decide (flags &&& 2 ≠ 0) = attachDownload ∧
      decide (flags &&& 4 ≠ 0) = inbound := by
  decide

theorem decodePending_encodePending (pending : PendingProposal) :
    decodePending (encodePending pending) = pending := by
  have front : (u32be pending.ttlSec).length = 4 := length_toBeBytes _ _
  have flags : (encodePending pending).get 4 = pendingFlags pending := by
    rw [List.Vector.get_eq_get_toList]
    show (u32be pending.ttlSec ++ _)[4] = _
    rw [List.getElem_append_right (by omega)]
    simp [front]
  have ttl := ofNat_u32be pending.ttlSec
  have id : (encodePending pending).drop 5 = pending.proposeId := by
    apply List.Vector.eq
    show (u32be pending.ttlSec ++ pendingFlags pending :: pending.proposeId.toList).drop 5 = _
    rw [List.drop_append, front, List.drop_of_length_le (by omega)]
    rfl
  have taken : (encodePending pending).toList.take 4 = u32be pending.ttlSec := by
    show (u32be pending.ttlSec ++ _).take 4 = _
    rw [List.take_append_of_le_length (by omega), List.take_of_length_le (by omega)]
  have bits := pendingFlags_bits pending.screenshot pending.attachDownload pending.inbound
  obtain ⟨ttlSec, screenshot, attachDownload, inbound, proposeId⟩ := pending
  unfold decodePending
  rw [flags, id, taken, ttl]
  simp only [PendingProposal.mk.injEq, true_and, and_true]
  exact bits

theorem getLsbD_byteMask (index : Nat) : (255#32).getLsbD index = decide (index < 8) := by
  by_cases bound : index < 32
  · have small : ∀ index : Fin 32, (255#32).getLsbD index = decide (index.val < 8) := by decide
    exact small ⟨index, bound⟩
  · rw [BitVec.getLsbD_of_ge _ _ (by omega)]
    simp
    omega

theorem low_of_packed (high low : UInt32) :
    ((high &&& 0xff) <<< 8 ||| (low &&& 0xff)) &&& 0xff = low &&& 0xff := by
  apply UInt32.toBitVec_inj.mp
  ext index bound
  by_cases front : index < 8 <;>
    simp [← BitVec.getLsbD_eq_getElem, getLsbD_byteMask, front]

theorem high_of_packed (high low : UInt32) :
    (((high &&& 0xff) <<< 8 ||| (low &&& 0xff)) >>> 8) &&& 0xff = high &&& 0xff := by
  apply UInt32.toBitVec_inj.mp
  ext index bound
  by_cases front : index < 8
  · have inside : 8 + index < 32 := by omega
    simp [← BitVec.getLsbD_eq_getElem, getLsbD_byteMask, front, inside]
  · simp [← BitVec.getLsbD_eq_getElem, getLsbD_byteMask, front]

theorem policyFlags_bits : ∀ screenshot attachDownload : Bool,
    let flags : UInt32 := (if screenshot then 1 else 0) ||| (if attachDownload then 2 else 0)
    decide (flags &&& 1 ≠ 0) = screenshot ∧ decide (flags &&& 2 ≠ 0) = attachDownload := by
  decide

theorem byteMask_byteMask (value : UInt32) : value &&& 0xff &&& 0xff = value &&& 0xff := by
  rw [UInt32.and_assoc, UInt32.and_self]

theorem ofRow_saved (row : RelationshipRow) (localFits : state.localWant &&& 0xff = state.localWant)
    (peerFits : state.peerWant &&& 0xff = state.peerWant) :
    ofRow (saved state row) = state := by
  obtain ⟨ttlSec, screenshot, attachDownload, localWant, peerWant, pending, lastSyncAt⟩ := state
  have pendings : (pending.map encodePending).map decodePending = pending := by
    cases pending with
    | none => rfl
    | some pending => simp [decodePending_encodePending]
  simp only at localFits peerFits
  unfold ofRow saved
  simp only [pendings, low_of_packed, high_of_packed, PolicyState.mk.injEq, true_and, and_true]
  obtain ⟨screenshots, downloads⟩ := policyFlags_bits screenshot attachDownload
  exact ⟨screenshots, downloads, localFits, peerFits⟩

/-- Messages that would outlive the new horizon, or have none, get it. -/
def clampMessageExpiry (rel : RelId) (before : Nat) (db : Db) : Db :=
  { db with
    messages := db.messages.update (fun row => row.relId = rel && row.expiresAt.all (before < ·))
      (fun row => { row with expiresAt := some before }) fun _ => rfl }

def eraseAttachMessage (headId : MsgId) (db : Db) : Db :=
  ((db.deleteChunks headId).deleteAttachment headId).markTombstoned headId

def liveAttachHeads (db : Db) (rel : RelId) : List MsgId :=
  (db.messages.select fun row =>
    row.relId = rel && row.envType = EnvelopeType.attachHead.code &&
      !row.tombstone).map MessageRow.msgId

def eraseAttachMessages (rel : RelId) (db : Db) : Db :=
  (liveAttachHeads db rel).foldl (fun db headId =>
    eraseAttachMessage headId db) db

def messageExpiry (db : Db) (rel : RelId) (floor : Nat) : Except StoreError (Option Nat) :=
  (fun state => state.expiryAt floor) <$> loadPolicy db rel

def attachmentsAllowed (db : Db) (rel : RelId) : Except StoreError Bool :=
  PolicyState.attachments <$> loadPolicy db rel

end SChatCore.Policy
