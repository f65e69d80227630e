import SChatCore.Engine.Stickers

namespace SChatCore.Engine

open Data Data.Action Wire Store

/-! The sticker exchange as a whole: it writes its own tables and RAM, and it
sends control envelopes. Whatever relation both respect, every part of it
respects. -/

@[simp] theorem run_feed (buffer : PendingBuffers → Option Bytes × PendingBuffers) (eng : Engine) :
    (feed buffer).run eng = .ok (buffer eng.stickerPending).1
      { eng with stickerPending := (buffer eng.stickerPending).2 } :=
  rfl

theorem run_onPackBody (sys : Platform) (rel : RelId)
    (packId : Array16) (packPk : Array32) (index count : UInt16) (data : Bytes) (eng : Engine) :
    (onPackBody sys rel packId packPk index count data).run eng =
      let fed := feedPack packId index count data eng.clock eng.stickerPending
      match fed.1 with
      | none => .ok [] { eng with stickerPending := fed.2 }
      | some blob =>
        let done := installPackBlob sys rel blob packPk eng.clock eng.db
        .ok (done.1.map EngineEvent.stickerPackInstalled).toList
          { eng with stickerPending := fed.2, db := done.2 } := by
  unfold onPackBody
  rw [bind_now, run_bind_ok (run_feed _ _)]
  simp only
  cases (feedPack packId index count data eng.clock eng.stickerPending).1 with
  | none => rfl
  | some blob => rfl

/-- Only sticker tables, RAM and the number of draws differ. -/
structure Aside (before after : Engine) : Prop where
  clock : after.clock = before.clock
  ratchet : after.ratchet = before.ratchet
  writes : after.writes = before.writes
  draws : before.draws ≤ after.draws
  db : after.db.withoutStickers = before.db.withoutStickers

theorem Aside.of_db (clock : after.clock = before.clock) (ratchet : after.ratchet = before.ratchet)
    (writes : after.writes = before.writes) (draws : before.draws ≤ after.draws)
    (db : after.db = before.db) : Aside before after :=
  ⟨clock, ratchet, writes, draws, by rw [db]⟩

theorem aside_installPackBlob (sys : Platform) (rel : RelId) (eng : Engine) (blob : Bytes)
    (packPk : Array32) (now : Nat) :
    Aside eng { eng with
      db := (installPackBlob sys rel blob packPk now eng.db).2 } := by
  refine ⟨rfl, rfl, rfl, le_rfl, ?_⟩
  unfold installPackBlob
  split
  · rfl
  · rename_i doc _
    split
    · rfl
    · have kept := congrArg Db.withoutStickers (Db.putItems_rest doc.packId
        doc.items (eng.db.installPackRow doc packPk (some rel) true now))
      split
      · rename_i next ran
        rw [ran] at kept
        exact kept
      · rename_i next ran
        rw [ran] at kept
        exact kept

structure Tends (before after : Engine) : Prop extends Aside before after where
  stickers : after.db.stickers = before.db.stickers
  stickerItems : after.db.stickerItems = before.db.stickerItems

def idle (eng : Engine) : Engine :=
  { eng with
    rate := .empty
    db := { eng.db with stickerServes := .empty } }

def Serves (before after : Engine) : Prop := idle after = idle before

instance : IsPreorder Engine Serves where
  refl _ := rfl
  trans _ _ _ left right := Eq.trans right left

theorem Serves.tends (serves : Serves before after) : Tends before after where
  clock := (congrArg Engine.clock serves :)
  ratchet := (congrArg Engine.ratchet serves :)
  writes := (congrArg Engine.writes serves :)
  draws := (congrArg Engine.draws serves :).ge
  db := (congrArg (fun eng => eng.db.withoutStickers) serves :)
  stickers := (congrArg (fun eng => eng.db.stickers) serves :)
  stickerItems := (congrArg (fun eng => eng.db.stickerItems) serves :)

theorem serves_notePackServe (rel : RelId) (day : Nat) (eng : Engine) : Serves eng
      { eng with db := (eng.db.notePackServe rel day).2 } := by
  unfold Serves idle Db.notePackServe
  cases eng.db.stickerServes.insert { relId := rel, day, count := 1 } <;> rfl

/-- A relation that control envelopes and the bookkeeping of requests
respect. -/
structure Obliges (sys : Platform) (rel : RelId)
    (related : Engine → Engine → Prop) : Prop where
  serves : ∀ before after, Serves before after → related before after
  sends : ∀ ctrl, Keeps related (sendEnvelope sys rel (.stickerCtrl ctrl) none)

/-- A relation that control envelopes respect, and every aside but the
installation of a pack. -/
structure Tolerates (sys : Platform) (rel : RelId)
    (related : Engine → Engine → Prop) : Prop where
  tends : ∀ before after, Tends before after → related before after
  sends : ∀ ctrl, Keeps related (sendEnvelope sys rel (.stickerCtrl ctrl) none)

theorem Tolerates.obliges (tolerates : Tolerates sys rel related) :
    Obliges sys rel related :=
  ⟨fun before after serves => tolerates.tends before after serves.tends, tolerates.sends⟩

/-- A relation that asides and control envelopes respect. -/
structure Respects (sys : Platform) (rel : RelId)
    (related : Engine → Engine → Prop) : Prop extends
    Tolerates sys rel related where
  aside : ∀ before after, Aside before after → related before after

theorem Respects.of_aside (aside : ∀ before after, Aside before after → related before after)
    (sends : ∀ ctrl, Keeps related (sendEnvelope sys rel (.stickerCtrl ctrl) none)) :
    Respects sys rel related :=
  ⟨⟨fun before after tended => aside before after tended.toAside, sends⟩, aside⟩

section

variable (obliges : Obliges sys rel related)

include obliges

theorem Obliges.rateAllow (surface : Surface) (rel : RelId) :
    Keeps related (rateAllow surface rel) :=
  keeps_modifyGet fun _ => obliges.serves _ _ rfl

variable [IsPreorder Engine related]

theorem Obliges.sendBodies (size : Nat) (blob : Bytes)
    (body : UInt16 → UInt16 → Bytes → StickerCtrl) :
    Keeps related (sendAll sys rel (bodies size blob body)) := by
  refine keeps_forM fun payload mem => ?_
  obtain ⟨index, inside, rfl⟩ := List.mem_mapIdx.mp mem
  exact keeps_returns (obliges.sends _)

theorem Obliges.answerWantItem (sha : Bytes) : Keeps related (answerWantItem sys rel sha) := by
  refine keeps_bind (obliges.rateAllow _ _) fun granted => ?_
  refine keeps_read fun db => ?_
  split
  · split
    · exact keeps_pure _
    · exact obliges.sendBodies _ _ _
  · exact keeps_pure _

theorem Obliges.refusePack (packId : Array16) (packPk : Array32) (reason : UInt8) :
    Keeps related (refusePack sys rel packId packPk reason) :=
  keeps_returns (obliges.sends _)

theorem Obliges.servePack (packId : Array16) (packPk : Array32) :
    Keeps related (servePack sys rel packId packPk) := by
  refine keeps_read fun db => ?_
  split
  · exact keeps_throw _
  · exact obliges.refusePack _ _ _
  · exact obliges.sendBodies _ _ _

theorem Obliges.answerWantPack (packId : Array16) (packPk : Array32) :
    Keeps related (answerWantPack sys rel packId packPk) := by
  refine keeps_read fun db => ?_
  split
  · exact obliges.refusePack _ _ _
  · split
    · exact obliges.refusePack _ _ _
    · split
      · exact obliges.refusePack _ _ _
      · refine keeps_clock fun now => ?_
        refine keeps_bind (keeps_updateDb fun eng => obliges.serves _ _
          (serves_notePackServe _ _ eng)) fun serves => ?_
        split
        · exact obliges.refusePack _ _ _
        · exact obliges.servePack _ _

theorem Obliges.answerWantThumbs (packId : Array16) (packPk : Array32) :
    Keeps related (answerWantThumbs sys rel packId packPk) := by
  refine keeps_bind (obliges.rateAllow _ _) fun granted => ?_
  refine keeps_read fun db => ?_
  split
  · exact keeps_pure _
  · simp only
    split
    · exact keeps_pure _
    · exact keeps_bind (keeps_wire _) fun blob => obliges.sendBodies _ _ _

theorem Obliges.fetchUnknownPack (pack : Option PackRef) :
    Keeps related (fetchUnknownPack sys rel pack) := by
  cases pack with
  | none => exact keeps_pure _
  | some pack =>
    refine keeps_read fun db => ?_
    split
    · exact keeps_returns (obliges.sends _)
    · exact keeps_pure _

theorem Obliges.fetchMissingEmoji (body : String) :
    Keeps related (fetchMissingEmoji sys rel body) := by
  refine keeps_forM fun front _ => ?_
  refine keeps_read fun db => ?_
  split
  · exact keeps_pure _
  · refine keeps_bind (obliges.rateAllow _ _) fun granted => ?_
    split
    · exact keeps_returns (obliges.sends _)
    · exact keeps_pure _

end

section

variable (tolerates : Tolerates sys rel related)

include tolerates

theorem Tolerates.feed (buffer : PendingBuffers → Option Bytes × PendingBuffers) :
    Keeps related (feed buffer) :=
  keeps_modifyGet fun _ => tolerates.tends _ _ ⟨.of_db rfl rfl rfl le_rfl rfl, rfl, rfl⟩

variable [IsPreorder Engine related]

theorem Tolerates.keepItem (item : CachedItemRow) : Keeps related (keepItem sys rel item) := by
  refine keeps_read fun db => ?_
  split
  · exact keeps_pure _
  · refine keeps_bind (keeps_writeDb fun eng =>
      tolerates.tends _ _ ⟨⟨rfl, rfl, rfl, le_rfl, rfl⟩, rfl, rfl⟩) fun _ => ?_
    exact keeps_returns (tolerates.sends _)

theorem Tolerates.onSticker (msgId : MsgId) (item : StickerItem) :
    Keeps related (onSticker sys rel msgId item) := by
  refine keeps_clock fun now => ?_
  split
  · split
    · exact keeps_pure _
    · exact keeps_returns (tolerates.keepItem _)
  · refine keeps_read fun db => ?_
    split
    · exact keeps_pure _
    · exact keeps_returns (tolerates.sends _)

theorem Tolerates.onItemBody (sha : Array32) (index count : UInt16) (data : Bytes)
    (pack : Option PackRef) :
    Keeps related (onItemBody sys rel sha index count data pack) := by
  refine keeps_clock fun now => ?_
  refine keeps_bind (tolerates.feed _) fun blob => ?_
  split
  · exact keeps_pure _
  · split
    · exact keeps_pure _
    · exact keeps_bind (tolerates.keepItem _) fun _ =>
        tolerates.obliges.fetchUnknownPack _

theorem Tolerates.onThumbsBody (packId : Array16) (index count : UInt16) (data : Bytes) :
    Keeps related (onThumbsBody packId index count data) := by
  refine keeps_clock fun now => ?_
  refine keeps_bind (tolerates.feed _) fun blob => ?_
  split
  · exact keeps_pure _
  · split
    · exact keeps_pure _
    · exact keeps_pure _

theorem Tolerates.onStickerCtrl (ctrl : StickerCtrl) (packs : ∀ packId packPk index count data,
      ctrl = .packBody packId packPk index count data → Keeps related
        (onPackBody sys rel packId packPk index count data)) :
    Keeps related (onStickerCtrl sys rel ctrl) := by
  cases ctrl with
  | ack sha => exact keeps_pure _
  | wantItem sha => exact keeps_returns (tolerates.obliges.answerWantItem _)
  | itemBody sha index count data pack => exact keeps_returns (tolerates.onItemBody _ _ _ _ _)
  | wantPack packId packPk => exact keeps_returns (tolerates.obliges.answerWantPack _ _)
  | packBody packId packPk index count data => exact packs _ _ _ _ _ rfl
  | packRefused packId packPk reason => exact keeps_pure _
  | wantThumbs packId packPk => exact keeps_returns (tolerates.obliges.answerWantThumbs _ _)
  | thumbsBody packId packPk index count data => exact tolerates.onThumbsBody _ _ _ _

end

variable [IsPreorder Engine related]
  (respects : Respects sys rel related)

include respects

theorem Respects.onPackBody (packId : Array16) (packPk : Array32)
    (index count : UInt16) (data : Bytes) :
    Keeps related (onPackBody sys rel packId packPk index count data) := by
  refine keeps_clock fun now => ?_
  refine keeps_bind (respects.toTolerates.feed _) fun blob => ?_
  split
  · exact keeps_pure _
  · refine keeps_returns (keeps_updateDb fun eng => ?_)
    exact respects.aside _ _ (aside_installPackBlob sys rel eng _ _ _)

theorem Respects.onStickerCtrl (ctrl : StickerCtrl) : Keeps related (onStickerCtrl sys rel ctrl) :=
  respects.toTolerates.onStickerCtrl ctrl fun _ _ _ _ _ _ =>
    respects.onPackBody _ _ _ _ _

end SChatCore.Engine
