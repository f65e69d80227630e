import SChatCore.Engine.Api
import SChatCore.Isolation.Attachments
import SChatCore.Stickers.Pinning
import SChatCore.Stickers.Reassembly
import SChatCore.Stickers.Sharing
import SChatCore.Wire.PackScan

namespace SChatCore.Capability

open Data Data.Action Wire Store Policy Engine Isolation Stickers
open Sticker (maxPackDocBytes maxThumbsDocBytes)

/-! What an envelope does whose capability is off. -/

inductive Feature
  | attachments
  | emoji
  | presence
  | typing
  | receipts
  deriving DecidableEq

def Feature.enforced (state : PolicyState) : Feature → Bool
  | .attachments => state.attachments
  | .emoji => state.emoji
  | .presence => state.presence
  | .typing => state.typing
  | .receipts => state.receipts

def governing : EnvelopeType → Option Feature
  | .attachHead | .attachChunk => some .attachments
  | .sticker | .stickerCtrl => some .emoji
  | .presence => some .presence
  | .typing => some .typing
  | .read => some .receipts
  | _ => none

structure SameShelves (before after : Db) : Prop where
  cache : ∀ sha, after.stickerCache.lookup sha = before.stickerCache.lookup sha
  packs : ∀ packId, after.stickers.lookup packId = before.stickers.lookup packId
  items : ∀ key, after.stickerItems.lookup key = before.stickerItems.lookup key
  keys : ∀ packId, after.packKeys.lookup packId = before.packKeys.lookup packId

structure SameBuffers (before after : PendingBuffers) : Prop where
  items : ∀ key, after.items.lookup key = before.items.lookup key
  packs : ∀ key, after.packs.lookup key = before.packs.lookup key
  thumbs : ∀ key, after.thumbs.lookup key = before.thumbs.lookup key

def Feature.Kept (before after : Engine) : Feature → Prop
  | .attachments => after.db.attachments = before.db.attachments ∧
      after.db.chunks = before.db.chunks
  | .emoji => SameShelves before.db after.db ∧
      SameBuffers before.stickerPending after.stickerPending
  | .presence => after.presence = before.presence
  | .typing => after.typing = before.typing
  | .receipts => ∀ msgId, (after.db.message msgId).map MessageRow.readAt =
      (before.db.message msgId).map MessageRow.readAt

structure SendsNothing (before after : Engine) : Prop where
  messages : after.db.messages = before.db.messages
  outbox : after.db.outbox = before.db.outbox
  writes : after.writes = before.writes

def Inert (feature : Feature) (before after : Engine) : Prop :=
  feature.Kept before after ∧ SendsNothing before after

/-- A chunk that is dropped, or is on file and tells its transfer nothing. -/
def IdleChunk (db : Db) (rel : RelId) (chunk : AttachChunk) : Prop :=
  chunk.pad = true ∨ refusesChunk db rel chunk = true ∨
    ∃ stored, db.chunk chunk.headId chunk.index = some stored ∧
      (stored = chunk.data → ∀ row, db.attachment chunk.headId = some row →
        row.withChunk chunk.index = row.chunks ∧ ¬ Finishes db chunk row)

/-- The pack is on file as a document that comes now is written, and no other
items with it. -/
structure OnFile (db : Db) (rel : RelId) (packPk : Array32) (now : Nat)
    (doc : StickerPackDoc) : Prop where
  pack : db.stickers.lookup doc.packId = some {
    packId := doc.packId
    packPk
    title := doc.title
    kind := doc.kind
    visibility := doc.visibility
    itemCount := doc.items.length
    iconItemId := doc.iconItemId
    installedAt := now
    cached := true
    fromRel := some rel
    lastUsedAt := now }
  items : ∀ row, row.packId = doc.packId → (row ∈ db.stickerItems ↔
    row ∈ doc.items.map (Db.docItemRow doc.packId))

/-- A document that is turned away, or whose pack is on file. -/
def IdlePack (sys : Platform) (eng : Engine) (rel : RelId)
    (packPk : Array32) (blob : Bytes) : Prop :=
  ∀ doc, StickerPackDoc.decodeSigned sys.sha256 sys.verify blob packPk = .ok doc →
    eng.db.admitPack (some rel) true = none →
    OnFile eng.db rel packPk eng.clock doc

/-- The control envelopes that carry data are buffered, off or not. -/
def HarmlessCtrl (sys : Platform) (eng : Engine) (rel : RelId) : StickerCtrl → Prop
  | .itemBody sha index count data _ =>
    eng.stickerPending.items.Ignores maxPendingItems maxPendingItemBytes
        sha.toList index count data ∧
      (eng.stickerPending.items.Whole maxPendingItems maxPendingItemBytes
          sha.toList index count data →
        sys.sha256 data = sha → eng.db.haveItem sha = true)
  | .packBody packId packPk index count data =>
    eng.stickerPending.packs.Ignores maxPendingPacks maxPackDocBytes
        packId.toList index count data ∧
      (eng.stickerPending.packs.Whole maxPendingPacks maxPackDocBytes
          packId.toList index count data →
        IdlePack sys eng rel packPk data)
  | .thumbsBody packId _ index count data =>
    eng.stickerPending.thumbs.Ignores maxPendingPacks maxThumbsDocBytes
      packId.toList index count data
  | _ => True

def Harmless (sys : Platform) (eng : Engine) (rel : RelId) : Payload → Prop
  | .attachChunk chunk => IdleChunk eng.db rel chunk
  | .sticker item => ∀ bytes, item.bytes = some bytes →
      sys.sha256 bytes = item.contentSha256 → eng.db.haveItem item.contentSha256 = true
  | .stickerCtrl ctrl => HarmlessCtrl sys eng rel ctrl
  | _ => True

theorem SameShelves.refl (db : Db) : SameShelves db db :=
  ⟨fun _ => rfl, fun _ => rfl, fun _ => rfl, fun _ => rfl⟩

theorem SameBuffers.refl (buffers : PendingBuffers) :
    SameBuffers buffers buffers :=
  ⟨fun _ => rfl, fun _ => rfl, fun _ => rfl⟩

theorem inert_refl (feature : Feature) (eng : Engine) :
    Inert feature eng eng := by
  refine ⟨?_, rfl, rfl, rfl⟩
  cases feature with
  | attachments => exact ⟨rfl, rfl⟩
  | emoji => exact ⟨.refl _, .refl _⟩
  | presence => rfl
  | typing => rfl
  | receipts => exact fun _ => rfl

theorem setChunks_self {db : Db} (found : db.attachment headId = some row) :
    db.setChunks headId row.chunks = db := by
  have same : (db.setChunks headId row.chunks).attachments =
      db.attachments := by
    refine Table.ext ((List.map_congr_left fun other mem => ?_).trans (List.map_id _))
    split
    · rename_i hit
      cases found.symm.trans (Table.lookup_eq_some.mpr ⟨mem, of_decide_eq_true hit⟩)
      rfl
    · rfl
  unfold Db.setChunks at same ⊢
  simp only at same
  rw [same]

theorem run_onAttachChunk_of_idle (idle : IdleChunk eng.db rel chunk) :
    final ((onAttachChunk sys rel chunk).run eng) = eng := by
  rw [run_onAttachChunk]
  split
  · rfl
  split
  · rfl
  rename_i data accepted
  obtain pad | drop | ⟨stored, filed, again⟩ := idle
  · exact absurd pad data
  · exact absurd drop accepted
  by_cases same : stored = chunk.data
  · subst same
    rw [putChunk_eq_ok.mpr (.inl ⟨filed, rfl⟩)]
    cases found : eng.db.attachment chunk.headId with
    | none => rfl
    | some row =>
      obtain ⟨unmoved, unfinished⟩ := again rfl row found
      refine (final_afterChunk_of_idle found unfinished).trans ?_
      rw [unmoved, setChunks_self found]
  · simp only [Db.putChunk, filed, ne_eq, same, not_false_eq_true, if_true]
    rfl

theorem not_kept_of_fresh (data : chunk.pad = false)
    (accepted : refusesChunk eng.db rel chunk = false)
    (fresh : eng.db.chunk chunk.headId chunk.index = none) :
    ¬ Feature.attachments.Kept eng (final ((onAttachChunk sys rel chunk).run eng)) := by
  rintro ⟨attachments, chunks⟩
  obtain ⟨filed, inserted, rows⟩ := Table.insert_of_fresh (ChunkRow.mk
    chunk.headId chunk.index chunk.data rel eng.clock)
    (Option.map_eq_none_iff.mp fresh)
  have put := putChunk_eq_ok.mpr (.inr ⟨fresh, filed, inserted, rfl⟩)
  have unfiled : filed ≠ eng.db.chunks := by
    rintro rfl
    simp at rows
  simp only [run_onAttachChunk, data, accepted, Bool.false_eq_true, if_false,
    put] at attachments chunks
  cases found : eng.db.attachment chunk.headId with
  | none =>
    rw [found] at chunks
    exact unfiled chunks
  | some row =>
    have known := (attachment_of_putChunk put).trans found
    rw [found] at attachments chunks
    by_cases finishes : Finishes { eng.db with chunks := filed } chunk row
    · refine @attachment_afterChunk_of_finishes sys rel eng _ _ _ known finishes ?_
      rw [Db.attachment, attachments]
      exact found
    · rw [final_afterChunk_of_idle known finishes] at chunks
      exact unfiled chunks

theorem not_kept_of_stored (data : chunk.pad = false)
    (accepted : refusesChunk eng.db rel chunk = false)
    (filed : eng.db.chunk chunk.headId chunk.index = some chunk.data)
    (found : eng.db.attachment chunk.headId = some row)
    (moves : ¬ (row.withChunk chunk.index = row.chunks ∧ ¬ Finishes eng.db chunk row)) :
    ¬ Feature.attachments.Kept eng (final ((onAttachChunk sys rel chunk).run eng)) := by
  rintro ⟨attachments, -⟩
  simp only [run_onAttachChunk, data, accepted, Bool.false_eq_true, if_false,
    putChunk_eq_ok.mpr (.inl ⟨filed, rfl⟩), found] at attachments
  have kept : (final ((afterChunk sys rel chunk row).run { eng with
      db := eng.db.setChunks chunk.headId
        (row.withChunk chunk.index) })).db.attachment chunk.headId =
      some row := by
    rw [Db.attachment, attachments]
    exact found
  by_cases finishes : Finishes eng.db chunk row
  · exact attachment_afterChunk_of_finishes found finishes kept
  · rw [final_afterChunk_of_idle found finishes, attachment_setChunks _ found] at kept
    exact moves ⟨congrArg AttachmentRow.chunks (Option.some.inj kept), finishes⟩

theorem inert_onAttachChunk_iff (chunk : AttachChunk) : Inert .attachments eng
        (final ((onAttachChunk sys rel chunk).run eng)) ↔
      IdleChunk eng.db rel chunk := by
  refine ⟨fun inert => ?_, fun idle => ?_⟩
  · by_contra busy
    obtain ⟨unpadded, rest⟩ := not_or.mp busy
    obtain ⟨undropped, news⟩ := not_or.mp rest
    have data : chunk.pad = false := by simpa using unpadded
    have accepted : refusesChunk eng.db rel chunk = false := by simpa using undropped
    cases filed : eng.db.chunk chunk.headId chunk.index with
    | none => exact not_kept_of_fresh data accepted filed inert.1
    | some stored =>
      refine news ⟨stored, filed, fun same row found => ?_⟩
      subst same
      by_contra moves
      exact not_kept_of_stored data accepted filed found moves inert.1
  · rw [run_onAttachChunk_of_idle idle]
    exact inert_refl _ _

section

theorem gate_of_denied {t : EnvelopeType} (found : db.relationship rel = some row)
    (denied : policyDenies (ofRow row) t = true) :
    ∃ error, gateOutbound db row t = .error error := by
  have key : row.relId = rel := (Table.lookup_eq_some.mp found).2
  have loaded : loadPolicy db row.relId = .ok (ofRow row) := by simp [loadPolicy, key, found]
  unfold gateOutbound
  split
  · exact ⟨_, rfl⟩
  split
  · exact ⟨_, rfl⟩
  split
  · exact ⟨_, rfl⟩
  split
  · exact ⟨_, rfl⟩
  rw [loaded]
  simp only [denied, if_true]
  exact ⟨_, rfl⟩

def Silent (rel : RelId) (db : Db) : Prop :=
  ∃ row, db.relationship rel = some row ∧ (ofRow row).emoji = false

def Muted (rel : RelId) (before after : Engine) : Prop := Silent rel before.db → Serves before after

theorem Silent.of_serves (silent : Silent rel before.db)
    (serves : Serves before after) : Silent rel after.db := by
  have same : after.db.relationships = before.db.relationships :=
    (congrArg (fun eng => eng.db.relationships) serves :)
  unfold Silent Db.relationship
  rw [same]
  exact silent

instance (rel : RelId) : IsPreorder Engine (Muted rel) where
  refl _ _ := rfl
  trans _ _ _ left right silent :=
    trans_of Serves (left silent) (right (silent.of_serves (left silent)))

variable {sys : Platform} {rel : RelId}

theorem run_sendCtrl_of_silent (silent : Silent rel eng.db) (ctrl : StickerCtrl) :
    ∃ error, (sendEnvelope sys rel (.stickerCtrl ctrl) none).run eng = .error error eng := by
  obtain ⟨row, found, off⟩ := silent
  have denied : policyDenies (ofRow row) .stickerCtrl = true := by simp [policyDenies, off]
  obtain ⟨error, refused⟩ := gate_of_denied found denied
  exact ⟨error, run_sendEnvelope_of_gate found refused⟩

theorem muted_obliges (sys : Platform) (rel : RelId) : Obliges sys rel (Muted rel) where
  serves _ _ serves _ := serves
  sends ctrl eng silent := by
    obtain ⟨error, refused⟩ := @run_sendCtrl_of_silent sys rel eng silent ctrl
    rw [refused]
    exact refl_of Serves eng

theorem inert_of_serves (serves : Serves before after) : Inert .emoji before after := by
  have buffers : after.stickerPending = before.stickerPending :=
    (congrArg Engine.stickerPending serves :)
  refine ⟨⟨⟨fun sha => ?_, fun packId => ?_, fun key => ?_, fun packId => ?_⟩,
    buffers ▸ .refl _⟩, ?_, ?_, ?_⟩
  · exact (congrArg (fun eng => eng.db.stickerCache.lookup sha) serves :)
  · exact (congrArg (fun eng => eng.db.stickers.lookup packId) serves :)
  · exact (congrArg (fun eng => eng.db.stickerItems.lookup key) serves :)
  · exact (congrArg (fun eng => eng.db.packKeys.lookup packId) serves :)
  · exact (congrArg (fun eng => eng.db.messages) serves :)
  · exact (congrArg (fun eng => eng.db.outbox) serves :)
  · exact (congrArg Engine.writes serves :)

theorem inert_fed_iff (serves : Serves { eng with stickerPending := buffers } after) :
    Inert .emoji eng after ↔ SameBuffers eng.stickerPending buffers := by
  have rest := inert_of_serves serves
  have same : after.stickerPending = buffers := (congrArg Engine.stickerPending serves :)
  refine ⟨fun inert => same ▸ inert.1.2, fun kept => ?_⟩
  obtain ⟨⟨shelves, -⟩, messages, outbox, writes⟩ := rest
  exact ⟨⟨shelves, same.symm ▸ kept⟩, messages, outbox, writes⟩

theorem run_keepItem_of_held {item : CachedItemRow} (held : eng.db.haveItem item.sha256 = true) :
    (keepItem sys rel item).run eng = .ok () eng := by
  unfold keepItem
  rw [bind_readDb, if_pos held]
  rfl

theorem run_keepItem_of_new {item : CachedItemRow} (silent : Silent rel eng.db)
    (lacks : eng.db.haveItem item.sha256 = false) :
    ∃ error, (keepItem sys rel item).run eng =
      .error error { eng with db := eng.db.cachePut item } := by
  obtain ⟨error, refused⟩ := @run_sendCtrl_of_silent sys rel
    { eng with db := eng.db.cachePut item } silent (.ack item.sha256)
  refine ⟨error, ?_⟩
  unfold keepItem ackSticker
  rw [bind_readDb, if_neg (by rw [lacks]; decide), bind_writeDb]
  exact run_bind_error refused

theorem not_inert_of_cached {item : CachedItemRow} {buffers : PendingBuffers}
    (lacks : eng.db.haveItem item.sha256 = false) :
    ¬ Inert .emoji eng { eng with
      stickerPending := buffers
      db := eng.db.cachePut item } := by
  rintro ⟨⟨shelves, -⟩, -⟩
  have absent : eng.db.stickerCache.lookup item.sha256 = none := by
    have uncached := (Bool.or_eq_false_iff.mp lacks).2
    exact Option.not_isSome_iff_eq_none.mp (Bool.eq_false_iff.mp uncached)
  have kept := (shelves.cache item.sha256).trans absent
  have put : (Table.lookup (eng.db.stickerCache.insertOrIgnore item) item.sha256).isSome :=
    Table.isSome_lookup_insertOrIgnore.mpr (.inl rfl)
  rw [show Table.lookup (eng.db.stickerCache.insertOrIgnore item)
    item.sha256 = none from kept] at put
  cases put

theorem inert_onSticker_iff (silent : Silent rel eng.db) (msgId : MsgId) (item : StickerItem) :
    Inert .emoji eng (final ((onSticker sys rel msgId item).run eng)) ↔
      ∀ bytes, item.bytes = some bytes → sys.sha256 bytes = item.contentSha256 →
          eng.db.haveItem item.contentSha256 = true := by
  unfold onSticker
  rw [bind_now]
  cases carried : item.bytes with
  | none =>
    refine iff_of_true ?_ nofun
    rw [bind_readDb]
    split
    · exact inert_refl _ _
    · obtain ⟨error, refused⟩ := @run_sendCtrl_of_silent sys rel
        eng silent (.wantItem item.contentSha256.toList)
      rw [run_bind_error refused]
      exact inert_refl _ _
  | some bytes =>
    simp only [Option.some.injEq, forall_eq']
    split
    · rename_i mismatch
      exact iff_of_true (inert_refl _ _) fun same => absurd same mismatch
    · rename_i matches_
      have same := not_not.mp matches_
      cases held : eng.db.haveItem item.contentSha256 with
      | true =>
        refine iff_of_true ?_ fun _ => rfl
        rw [run_bind_ok (run_keepItem_of_held held)]
        exact inert_refl _ _
      | false =>
        refine iff_of_false ?_ fun all => Bool.false_ne_true (all same)
        let row : CachedItemRow := {
          sha256 := item.contentSha256, bytes, w := item.w, h := item.h
          kind := item.kind, packId := some item.packId
          fromRel := some rel, createdAt := eng.clock }
        obtain ⟨error, stopped⟩ := @run_keepItem_of_new sys rel eng row silent held
        rw [run_bind_error stopped]
        exact @not_inert_of_cached eng row eng.stickerPending held

theorem same_feed_iff {map : PendingMap} {now : Nat} :
    (∀ other, (map.feed maxEntries maxBytes key index count data now).2.lookup
        other = map.lookup other) ↔
      map.Ignores maxEntries maxBytes key index count data := by
  rw [← @PendingMap.lookup_feed_iff _ _ _ _ _ _ _ now]
  refine ⟨fun same => same key, fun same other => ?_⟩
  by_cases own : other = key
  · rw [own]
    exact same
  · exact PendingMap.lookup_feed_of_ne own

/-- What feeding a chunk leaves, and the blob that comes out of it. -/
theorem feed_spec (transfer : Transfer) (index count : UInt16) (data : Bytes)
    (now : Nat) (buffers : PendingBuffers) :
    ∃ fed, transfer.feed index count data now buffers = fed ∧
      (SameBuffers buffers fed.2 ↔ (transfer.map buffers).Ignores
        transfer.maxEntries transfer.maxBytes transfer.key index count data) ∧
      ∀ bytes, SameBuffers buffers fed.2 → (fed.1 = some bytes ↔
        (transfer.map buffers).Whole transfer.maxEntries transfer.maxBytes
          transfer.key index count data ∧ data = bytes) := by
  have ignored : SameBuffers buffers (transfer.feed index count data now buffers).2 ↔
        (transfer.map buffers).Ignores transfer.maxEntries transfer.maxBytes
          transfer.key index count data := by
    cases transfer with
    | item sha => exact ⟨fun same => same_feed_iff.mp same.items, fun ignores =>
        ⟨same_feed_iff.mpr ignores, fun _ => rfl, fun _ => rfl⟩⟩
    | pack packId => exact ⟨fun same => same_feed_iff.mp same.packs,
        fun ignores => ⟨fun _ => rfl, same_feed_iff.mpr ignores, fun _ => rfl⟩⟩
    | thumbs packId => exact ⟨fun same => same_feed_iff.mp same.thumbs,
        fun ignores => ⟨fun _ => rfl, fun _ => rfl, same_feed_iff.mpr ignores⟩⟩
  refine ⟨_, rfl, ignored, fun bytes same => ?_⟩
  rw [Transfer.blob_feed]
  exact PendingMap.blob_feed_of_ignores (ignored.mp same) bytes

theorem inert_onItemBody_iff (silent : Silent rel eng.db) (sha : Array32)
    (index count : UInt16) (data : Bytes) (pack : Option PackRef) :
    Inert .emoji eng (final ((onItemBody sys rel sha index count data pack).run eng)) ↔
      HarmlessCtrl sys eng rel (.itemBody sha index count data pack) := by
  obtain ⟨fed, made, ignored, blob⟩ := feed_spec (.item sha) index count data
    eng.clock eng.stickerPending
  let buffered : Engine := { eng with stickerPending := fed.2 }
  refine Iff.trans ?_ (and_congr ignored Iff.rfl)
  unfold onItemBody
  rw [bind_now, run_bind_ok (run_feed _ eng), show feedItem .. = fed from made]
  cases came : fed.1 with
  | none =>
    refine (inert_fed_iff (refl_of Serves buffered)).trans
      (and_iff_left_of_imp fun same whole _ => ?_).symm
    cases came.symm.trans ((blob data same).mpr ⟨whole, rfl⟩)
  | some bytes =>
    simp only
    split
    · rename_i mismatch
      refine (inert_fed_iff (refl_of Serves buffered)).trans
        (and_iff_left_of_imp fun same whole matches_ => ?_).symm
      obtain ⟨-, rfl⟩ := (blob bytes same).mp came
      exact absurd matches_ mismatch
    · rename_i matches_
      cases held : eng.db.haveItem sha with
      | true =>
        rw [run_bind_ok (@run_keepItem_of_held sys rel buffered
          (cachedItem rel sha bytes eng.clock pack)
          (by cases pack <;> exact held))]
        have serves : Serves buffered _ :=
          (muted_obliges sys rel).fetchUnknownPack pack buffered silent
        exact (inert_fed_iff serves).trans (and_iff_left fun _ _ => rfl).symm
      | false =>
        have lacks : buffered.db.haveItem (cachedItem rel sha bytes
            eng.clock pack).sha256 = false := by
          cases pack <;> exact held
        obtain ⟨error, stopped⟩ := @run_keepItem_of_new sys rel buffered _ silent lacks
        rw [run_bind_error stopped]
        refine iff_of_false (not_inert_of_cached lacks) ?_
        rintro ⟨same, all⟩
        obtain ⟨whole, rfl⟩ := (blob bytes same).mp came
        exact Bool.false_ne_true (all whole (not_not.mp matches_))

section

variable {db : Db} {now : Nat} {doc : StickerPackDoc}
  (distinct : (StickerPackDoc.ids doc.items).Nodup)

include distinct

theorem installed_eq (rel : RelId) (packPk : Array32) (now : Nat) (db : Db) : ∃ stickerItems,
    installed rel packPk now db doc = { db.installPackRow doc packPk
      (some rel) true now with stickerItems } ∧
    ∀ row, row ∈ stickerItems ↔ row ∈ db.stickerItems ∧ row.packId ≠ doc.packId ∨
      row ∈ doc.items.map (Db.docItemRow doc.packId) := by
  have fresh : ∀ item ∈ doc.items, (db.installPackRow doc packPk (some rel)
      true now).stickerItems.lookup (doc.packId, item.itemId) = none := by
    intro item _
    refine Table.lookup_eq_none.mpr fun row mem same => ?_
    have old := (Table.mem_delete.mp mem).2
    exact absurd (congrArg Prod.fst same) (of_decide_eq_false old)
  obtain ⟨stickerItems, put, rows⟩ := putItems_fresh fresh distinct
  refine ⟨stickerItems, congrArg Prod.snd put, fun row => ?_⟩
  rw [Table.mem_def, rows, List.mem_append]
  refine or_congr_left (Table.mem_delete.trans (and_congr_right fun _ => ?_))
  exact decide_eq_false_iff_not

theorem sameShelves_installed_iff : SameShelves db (installed rel packPk now db doc) ↔
      OnFile db rel packPk now doc := by
  obtain ⟨stickerItems, written, mem⟩ := installed_eq distinct rel packPk now db
  rw [written]
  constructor
  · intro same
    refine ⟨(same.packs doc.packId).symm.trans
      ((Table.lookup_upsert _ _ _).trans (if_pos rfl)), fun row own => ?_⟩
    have kept : row ∈ stickerItems ↔ row ∈ db.stickerItems := by
      simpa [Table.lookup_eq_some] using congrArg (· = some row) (same.items row.key)
    rw [← kept, mem]
    exact or_iff_right fun other => other.2 own
  · intro filed
    refine ⟨fun _ => rfl, fun packId => ?_, fun key => ?_, fun _ => rfl⟩
    · refine (Table.lookup_upsert _ _ packId).trans ?_
      split
      · rename_i own
        exact filed.pack.symm.trans (congrArg _ own)
      · rfl
    · refine Option.ext fun row => ?_
      rw [Table.lookup_eq_some, Table.lookup_eq_some, mem]
      refine and_congr_left fun _ => ?_
      by_cases own : row.packId = doc.packId
      · simp [own, filed.items row own]
      · simp only [ne_eq, own, not_false_eq_true, and_true]
        refine or_iff_left fun listed => own ?_
        obtain ⟨item, -, rfl⟩ := List.mem_map.mp listed
        rfl

end

theorem inert_onPackBody_iff (packId : Array16) (packPk : Array32)
    (index count : UInt16) (data : Bytes) :
    Inert .emoji eng (final ((onPackBody sys rel packId packPk index count data).run eng)) ↔
      HarmlessCtrl sys eng rel (.packBody packId packPk index count data) := by
  obtain ⟨fed, made, ignored, blob⟩ := feed_spec (.pack packId) index count data
    eng.clock eng.stickerPending
  refine Iff.trans ?_ (and_congr ignored Iff.rfl)
  rw [run_onPackBody, show feedPack .. = fed from made]
  simp only
  cases came : fed.1 with
  | none =>
    refine (inert_fed_iff (refl_of Serves _)).trans (and_iff_left_of_imp fun same whole => ?_).symm
    cases came.symm.trans ((blob data same).mpr ⟨whole, rfl⟩)
  | some bytes =>
    simp only [final_ok]
    have aside := aside_installPackBlob sys rel eng bytes packPk eng.clock
    have silent : SendsNothing eng { eng with
        stickerPending := fed.2
        db := (installPackBlob sys rel bytes packPk eng.clock eng.db).2 } :=
      ⟨(congrArg Db.messages aside.db :), (congrArg Db.outbox aside.db :), rfl⟩
    constructor
    · rintro ⟨⟨shelves, same⟩, -⟩
      refine ⟨same, fun whole doc decoded admitted => ?_⟩
      obtain ⟨-, rfl⟩ := (blob bytes same).mp came
      rw [installPackBlob_of_admitted decoded admitted] at shelves
      exact (sameShelves_installed_iff
        (StickerPackDoc.decodeSigned_ok decoded).1.distinct).mp shelves
    · rintro ⟨same, idle⟩
      obtain ⟨whole, rfl⟩ := (blob bytes same).mp came
      refine ⟨⟨?_, same⟩, silent⟩
      obtain ⟨doc, decoded, admitted, stored⟩ | unstored :=
        installPackBlob_cases sys rel data packPk eng.clock eng.db
      · simp only [stored]
        exact (sameShelves_installed_iff (StickerPackDoc.decodeSigned_ok decoded).1.distinct).mpr
          (idle whole doc decoded admitted)
      · simp only [unstored]
        exact .refl _

theorem inert_onThumbsBody_iff (packId : Array16) (packPk : Array32)
    (index count : UInt16) (data : Bytes) :
    Inert .emoji eng (final ((onThumbsBody packId index count data).run eng)) ↔
      HarmlessCtrl sys eng rel (.thumbsBody packId packPk index count data) := by
  obtain ⟨fed, made, ignored, -⟩ := feed_spec (.thumbs packId) index count data
    eng.clock eng.stickerPending
  refine Iff.trans ?_ ignored
  unfold onThumbsBody
  rw [bind_now, run_bind_ok (run_feed _ eng), show feedThumbs .. = fed from made]
  refine inert_fed_iff ?_
  split
  · exact refl_of Serves _
  · split <;> exact refl_of Serves _

theorem inert_onStickerCtrl_iff (silent : Silent rel eng.db) (ctrl : StickerCtrl) : Inert .emoji eng
        (final ((onStickerCtrl sys rel ctrl).run eng)) ↔
      HarmlessCtrl sys eng rel ctrl := by
  have obliges := muted_obliges sys rel
  have answered : ∀ {ctrl : StickerCtrl} {answer : Action Unit},
      onStickerCtrl sys rel ctrl = (do answer; return []) →
      Keeps (Muted rel) answer → Inert .emoji eng
        (final ((onStickerCtrl sys rel ctrl).run eng)) := by
    intro ctrl answer same keeps
    rw [same]
    exact inert_of_serves (keeps_returns keeps eng silent)
  cases ctrl with
  | ack sha => exact iff_of_true (inert_refl _ _) trivial
  | wantItem sha => exact iff_of_true (answered rfl (obliges.answerWantItem sha)) trivial
  | itemBody sha index count data pack =>
    rw [← inert_onItemBody_iff silent sha index count data pack]
    unfold onStickerCtrl
    rw [EStateM.run_bind]
    cases (onItemBody sys rel sha index count data pack).run eng
    <;> exact Iff.rfl
  | wantPack packId packPk =>
    exact iff_of_true (answered rfl (obliges.answerWantPack packId packPk)) trivial
  | packBody packId packPk index count data =>
    exact inert_onPackBody_iff packId packPk index count data
  | packRefused packId packPk reason => exact iff_of_true (inert_refl _ _) trivial
  | wantThumbs packId packPk =>
    exact iff_of_true (answered rfl (obliges.answerWantThumbs packId packPk)) trivial
  | thumbsBody packId packPk index count data =>
    exact inert_onThumbsBody_iff packId packPk index count data

end

theorem run_loaded {rest : Db → PolicyState → Action α}
    (found : eng.db.relationship rel = some row) :
    (do
      let db ← readDb
      let policy ← store (loadPolicy db rel)
      rest db policy).run eng = (rest eng.db (ofRow row)).run eng := by
  rw [bind_readDb, loadPolicy_eq_ok.mpr ⟨row, found, rfl⟩]
  rfl

/-- An envelope whose capability is off leaves its feature alone and is not
answered, exactly if it is no chunk or inline item that the handlers file
regardless. -/
theorem inert_when_off_iff (sys : Platform) (eng : Engine)
    (rel : RelId) (row : RelationshipRow) (env : Envelope)
    (feature : Feature) (governed : governing env.envelopeType = some feature)
    (found : eng.db.relationship rel = some row) (off : feature.enforced (ofRow row) = false) :
    Inert feature eng (final ((dispatch sys rel env).run eng)) ↔
      Harmless sys eng rel env.payload := by
  obtain ⟨msgId, appSeq, sentAt, refId, payload⟩ := env
  have idle : ∀ {action : Action (List EngineEvent)} {harmless : Prop},
      action.run eng = .ok [] eng → harmless →
        (Inert feature eng (final (action.run eng)) ↔ harmless) := by
    intro action harmless ran holds
    rw [ran]
    exact iff_of_true (inert_refl _ _) holds
  cases payload with
  | attachHead payload =>
    cases governed
    have denied : attachmentsAllowed eng.db rel = .ok false := by
      simp [attachmentsAllowed, loadPolicy, found, show (ofRow row).attachments = false from off]
    refine idle ((bind_readDb _).trans ?_) trivial
    rw [denied]
    rfl
  | attachChunk chunk =>
    cases governed
    exact inert_onAttachChunk_iff chunk
  | sticker item =>
    cases governed
    exact inert_onSticker_iff ⟨row, found, off⟩ msgId item
  | stickerCtrl ctrl =>
    cases governed
    exact inert_onStickerCtrl_iff ⟨row, found, off⟩ ctrl
  | presence flags =>
    cases governed
    refine idle ((run_loaded found).trans ?_) trivial
    rw [show (ofRow row).presence = false from off]
    rfl
  | typing beat =>
    cases governed
    refine idle ((run_loaded found).trans ?_) trivial
    rw [show (ofRow row).typing = false from off]
    rfl
  | read =>
    cases governed
    refine idle ((run_loaded found).trans ?_) trivial
    rw [show (ofRow row).receipts = false from off]
    cases refId <;> rfl
  | _ => cases governed

def reserved : RelationshipRow :=
  { newRelationship "alice" .inviter .active "" [] false 0 with
    policyWants := 0 }

def shut : Engine := Engine.new (paired reserved) 0

def typed : Envelope := ⟨List.Vector.replicate 16 1, 1, 0, none, .typing { typing := true }⟩

theorem typing_off_inert : governing typed.envelopeType = some .typing ∧
      shut.db.relationship "alice" = some reserved ∧
      Feature.typing.enforced (ofRow reserved) = false ∧
      Inert .typing shut (final ((dispatch .loopback "alice" typed).run shut)) :=
  ⟨rfl, by decide +kernel, by decide +kernel,
    (inert_when_off_iff .loopback shut "alice" reserved typed .typing rfl
      (by decide +kernel) (by decide +kernel)).mpr trivial⟩

def stray : Envelope :=
  ⟨List.Vector.replicate 16 1, 1, 0, none, .attachChunk {
    headId := List.Vector.replicate 16 2, index := 0, data := [7]
    pad := false }⟩

/-- A chunk without a head is stored with attachments off. -/
theorem chunk_off_stored : governing stray.envelopeType = some .attachments ∧
      shut.db.relationship "alice" = some reserved ∧
      Feature.attachments.enforced (ofRow reserved) = false ∧
      ¬ Inert .attachments shut (final ((dispatch .loopback "alice" stray).run shut)) := by
  refine ⟨rfl, by decide +kernel, by decide +kernel, fun inert => ?_⟩
  exact absurd inert.1.2 (by decide +kernel)

end SChatCore.Capability
