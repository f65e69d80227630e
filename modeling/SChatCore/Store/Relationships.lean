import SChatCore.Store.Schema
import SChatCore.Wire.Envelope
import Mathlib.Data.List.Sort

namespace SChatCore.Store

open Data Wire

namespace Db

def relationship (db : Db) (rel : RelId) : Option RelationshipRow := db.relationships.lookup rel

def updateRelationship (rel : RelId) (assign : RelationshipRow → RelationshipRow)
    (keepsKey : ∀ row, (assign row).relId = row.relId) (db : Db) : Db :=
  { db with
    relationships := db.relationships.update (fun row => row.relId = rel) assign keepsKey }

theorem relationship_updateRelationship (rel other : RelId)
    (assign : RelationshipRow → RelationshipRow)
    (keepsKey : ∀ row, (assign row).relId = row.relId) (db : Db) :
    (db.updateRelationship rel assign keepsKey).relationship other =
      if other = rel then (db.relationship rel).map assign
      else db.relationship other :=
  Table.lookup_update_key rel other keepsKey

/-! The history cut. The column is signed, so `MAX` compares signed. -/

def historyCut (db : Db) (rel : RelId) : UInt64 :=
  ((db.relationship rel).map RelationshipRow.historyCutSeq).getD 0

def raisedCut (cut seq : UInt64) : UInt64 := if signed cut ≤ signed seq then seq else cut

def raiseHistoryCut (rel : RelId) (seq : UInt64) : Db → Db :=
  updateRelationship rel (fun row => { row with historyCutSeq := raisedCut row.historyCutSeq seq })
    fun _ => rfl

def notePeerCaps (rel : RelId) (peerCaps : UInt32) : Db → Db :=
  updateRelationship rel (fun row => { row with peerCaps }) fun _ => rfl

def peerCaps (db : Db) (rel : RelId) : UInt32 :=
  ((db.relationship rel).map RelationshipRow.peerCaps).getD 0

def closeState (db : Db) (rel : RelId) : Option CloseState :=
  (db.relationship rel).bind RelationshipRow.closeState

def setClosing (rel : RelId) : Db → Db :=
  updateRelationship rel (fun row => { row with closeState := some .closing }) fun _ => rfl

def setBroken (rel : RelId) : Db → Db :=
  updateRelationship rel (fun row => { row with sessionState := .broken }) fun _ => rfl

def clearIntroPending (rel : RelId) : Db → Db :=
  updateRelationship rel (fun row => { row with introPending := false }) fun _ => rfl

def setPeerPrefs (rel : RelId) (prefs : Bytes) : Db → Db :=
  updateRelationship rel (fun row => { row with peerPrefs := some prefs }) fun _ => rfl

def listRelationships (db : Db) : List RelationshipRow :=
  db.relationships.rows.insertionSort fun first second =>
    first.createdAt ≤ second.createdAt

def tombstoneTtlSec : Nat := 86400

def tombstoneCap : Nat := 4096

/-- A repeated delete refreshes the expiry in place. -/
def addTombstone (rel : RelId) (refId : MsgId) (now : Nat) (db : Db) : Db :=
  let expiry := now + tombstoneTtlSec
  { db with
    tombstones :=
      match db.tombstones.insert { relId := rel, refId, expiry } with
      | some tombstones => tombstones
      | none => db.tombstones.update
          (fun row => row.relId = rel && row.refId = refId)
          (fun row => { row with expiry }) fun _ => rfl }

def isTombstoned (db : Db) (rel : RelId) (refId : MsgId) (now : Nat) : Bool :=
  (db.tombstones.lookup (rel, refId)).any fun row => now < row.expiry

def tombstoneCount (db : Db) (rel : RelId) : Nat :=
  (db.tombstones.select fun row => row.relId = rel).length

/-- Expired entries go, then the oldest beyond the cap. -/
def pruneTombstones (rel : RelId) (now : Nat) (db : Db) : Db :=
  let live := db.tombstones.delete fun row =>
    row.relId = rel && row.expiry ≤ now
  let excess := ((live.select fun row => row.relId = rel).insertionSort
    fun first second => second.expiry ≤ first.expiry).drop tombstoneCap
  { db with
    tombstones := live.delete fun row =>
      row.relId = rel && (excess.map TombstoneRow.refId).contains row.refId }

def closeStartedAt (db : Db) (rel : RelId) : Option Nat :=
  (db.settings.closeStartedAt.lookup rel).map RelSetting.value

def setCloseStartedAt (rel : RelId) (value : Nat) (db : Db) : Db :=
  { db with
    settings := { db.settings with
      closeStartedAt := db.settings.closeStartedAt.upsert { relId := rel, value } } }

def resyncReqAt (db : Db) (rel : RelId) : Nat :=
  ((db.settings.resyncReqAt.lookup rel).map RelSetting.value).getD 0

def setResyncReqAt (rel : RelId) (value : Nat) (db : Db) : Db :=
  { db with
    settings := { db.settings with
      resyncReqAt := db.settings.resyncReqAt.upsert { relId := rel, value } } }

def activationSent (db : Db) (rel : RelId) : Bool := (db.settings.activationSent.lookup rel).isSome

def setActivationSent (rel : RelId) (db : Db) : Db :=
  { db with
    settings := { db.settings with
      activationSent := db.settings.activationSent.upsert { relId := rel, value := () } } }

def deleteRelSettings (rel : RelId) (db : Db) : Db :=
  { db with
    settings := { db.settings with
      closeStartedAt := db.settings.closeStartedAt.delete fun row => row.relId = rel
      resyncReqAt := db.settings.resyncReqAt.delete fun row => row.relId = rel } }

/-- Whether the profile changed, and the store with the newest one. -/
def applyInboundProfile (rel : RelId) (profile : Profile) (now : Nat) (db : Db) : Bool × Db :=
  let changed := (db.profiles.lookup rel).all fun old =>
    old.name ≠ profile.name || old.jpeg ≠ profile.jpeg
  if changed then
    (true, { db with
      profiles := db.profiles.upsert
        { relId := rel, name := profile.name, jpeg := profile.jpeg, updatedAt := now } })
  else (false, db)

def ourProfile (db : Db) : Profile where
  name := db.settings.profileName.getD ""
  jpeg := db.settings.profileAvatar.getD []

/-- Everything keyed by the relationship goes; chunks go by the heads its
attachment rows name. -/
def burn (rel : RelId) (db : Db) : Db :=
  let ours := fun (head : MsgId) =>
    (db.attachments.lookup head).any fun row => row.relId = rel
  deleteRelSettings rel { db with
    chunks := db.chunks.delete fun row => ours row.headId
    messages := db.messages.delete fun row => row.relId = rel
    outbox := db.outbox.delete fun row => row.relId = rel
    attachments := db.attachments.delete fun row => row.relId = rel
    profiles := db.profiles.delete fun row => row.relId = rel
    tombstones := db.tombstones.delete fun row => row.relId = rel
    inboundSeqs := db.inboundSeqs.delete fun row => row.relId = rel
    stickerServes := db.stickerServes.delete fun row => row.relId = rel
    relationships := db.relationships.delete fun row => row.relId = rel }

end Db

end SChatCore.Store
