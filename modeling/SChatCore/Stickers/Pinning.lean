import SChatCore.Engine.Sending
import SChatCore.Engine.Exchange

namespace SChatCore.Stickers

open Data Data.Action Wire Store Engine

/-! Installed packs under inbound sticker control: which payloads replace a
pack, and whose key the new document was checked against. -/

abbrev Arrival := Nat × RelId × StickerCtrl

section

variable (sys : Platform)

def hear (eng : Engine) (arrival : Arrival) : Engine :=
  final ((onStickerCtrl sys arrival.2.1 arrival.2.2).run { eng with clock := arrival.1 })

def hearAll (eng : Engine) (arrivals : List Arrival) : Engine := arrivals.foldl (hear sys) eng

/-- The document a payload completes, with the key that came with it. -/
def completed (eng : Engine) : Arrival → Option (Bytes × Array32)
  | (clock, _, .packBody packId packPk index count data) =>
    (feedPack packId index count data clock eng.stickerPending).1.map fun blob => (blob, packPk)
  | _ => none

def VerifiesUnder (packPk : Array32) (blob : Bytes) : Prop :=
  ∃ doc, StickerPackDoc.decodeSigned sys.sha256 sys.verify blob packPk = .ok doc

def SamePack (packId : Array16) (before after : Db) : Prop :=
  after.stickers.select (fun row => row.packId = packId) =
      before.stickers.select (fun row => row.packId = packId) ∧
    after.stickerItems.select (fun row => row.packId = packId) =
      before.stickerItems.select (fun row => row.packId = packId)

/-- Packs the user made or installed change only by documents under their
stored key, and none of them becomes a cached one. -/
def Pinned (eng : Engine) (arrival : Arrival) : Prop :=
  ∀ row ∈ eng.db.stickers, row.cached = false →
    (SamePack row.packId eng.db (hear sys eng arrival).db ∨
      ∃ blob packPk, completed eng arrival = some (blob, packPk) ∧
        VerifiesUnder sys row.packPk blob) ∧
    ∀ after ∈ (hear sys eng arrival).db.stickers, after.packId = row.packId → after.cached = false

/-- The payload completes a document that verifies under the key beside it,
has the id of a pack that is not a cached one, and is within the quotas. -/
def Overwrites (eng : Engine) (arrival : Arrival) : Prop :=
  ∃ blob packPk doc, completed eng arrival = some (blob, packPk) ∧
    StickerPackDoc.decodeSigned sys.sha256 sys.verify blob packPk = .ok doc ∧
    eng.db.admitPack (some arrival.2.1) true = none ∧
    ∃ row ∈ eng.db.stickers, row.packId = doc.packId ∧ row.cached = false

end

theorem SamePack.mem_iff (same : SamePack packId before after) (mine : row.packId = packId) :
    row ∈ after.stickers ↔ row ∈ before.stickers := by
  have members : ∀ db : Db, row ∈ db.stickers ↔
      row ∈ db.stickers.select fun other => other.packId = packId := by
    simp [mine]
  rw [members, members before, same.1]

def SamePacks (before after : Engine) : Prop :=
  after.db.stickers = before.db.stickers ∧ after.db.stickerItems = before.db.stickerItems

instance : IsPreorder Engine SamePacks where
  refl _ := ⟨rfl, rfl⟩
  trans _ _ _ left right := ⟨right.1.trans left.1, right.2.trans left.2⟩

theorem samePacks_of_bystanders (same : SameBystanders before after) :
    SamePacks before after :=
  ⟨(congrArg (fun eng : Engine => eng.db.stickers) same :),
    (congrArg (fun eng : Engine => eng.db.stickerItems) same :)⟩

theorem samePacks_tolerates (sys : Platform) (rel : RelId) : Tolerates sys rel SamePacks where
  tends _ _ tended := ⟨tended.stickers, tended.stickerItems⟩
  sends _ := ((sameBystanders_sends rel).sendEnvelope sys _ _).mono
    fun _ _ => samePacks_of_bystanders

theorem SamePacks.samePack (same : SamePacks before after) (packId : Array16) :
    SamePack packId before.db after.db :=
  ⟨by rw [same.1], by rw [same.2]⟩

section

theorem sameBut_putItems (packId : Array16) (items : List PackDocItem) (db : Db) :
    Table.SameBut StickerItemRow.packId packId db.stickerItems
      (Db.putItems packId items db).2.stickerItems := by
  induction items generalizing db with
  | nil => exact .refl _ _ _
  | cons item rest ih =>
    unfold Db.putItems
    cases db.stickerItems.lookup (packId, item.itemId) with
    | some prev =>
      simp only
      split
      · exact .refl _ _ _
      · exact ih db
    | none =>
      refine Table.SameBut.trans ?_ (ih _)
      exact .insertOrIgnore rfl

variable (sys : Platform) (rel : RelId) (blob : Bytes)
  (packPk : Array32) (now : Nat) (db : Db)

/-- The store of a pack that was admitted, whether or not its items could all
be written. -/
def installed (doc : StickerPackDoc) : Db :=
  (Db.putItems doc.packId doc.items (db.installPackRow doc packPk (some rel) true now)).2

variable {sys rel blob packPk now db}

theorem installPackBlob_of_admitted (decoded : StickerPackDoc.decodeSigned sys.sha256 sys.verify
      blob packPk = .ok doc)
    (admitted : db.admitPack (some rel) true = none) :
    (installPackBlob sys rel blob packPk now db).2 =
      installed rel packPk now db doc := by
  simp only [installPackBlob, decoded, admitted, installed]
  split
  · rename_i ran
    rw [ran]
  · rename_i ran
    rw [ran]

theorem installPackBlob_cases (sys : Platform) (rel : RelId)
    (blob : Bytes) (packPk : Array32) (now : Nat) (db : Db) :
    (∃ doc, StickerPackDoc.decodeSigned sys.sha256 sys.verify blob
        packPk = .ok doc ∧ db.admitPack (some rel) true = none ∧
        (installPackBlob sys rel blob packPk now db).2 = installed rel packPk now db doc) ∨
      (installPackBlob sys rel blob packPk now db).2 = db := by
  cases decoded : StickerPackDoc.decodeSigned sys.sha256 sys.verify blob packPk with
  | error error => exact .inr (by simp only [installPackBlob, decoded])
  | ok doc =>
    cases admitted : db.admitPack (some rel) true with
    | some quota => exact .inr (by simp only [installPackBlob, decoded, admitted])
    | none => exact .inl ⟨doc, rfl, rfl, installPackBlob_of_admitted decoded admitted⟩

theorem samePack_installed (other : packId ≠ doc.packId) :
    SamePack packId db (installed rel packPk now db doc) := by
  unfold installed
  constructor
  · rw [Db.putItems_rest]
    have same : Table.SameBut StickerPackRow.packId doc.packId db.stickers
        (db.installPackRow doc packPk (some rel) true now).stickers :=
      .upsert rfl fun _ _ taken => taken
    exact same _ other
  · refine Table.SameBut.trans ?_ (sameBut_putItems _ _ _) _ other
    exact .delete fun row _ hit => of_decide_eq_true hit

theorem exists_cached_of_installed (rel : RelId) (packPk : Array32)
    (now : Nat) (db : Db) (doc : StickerPackDoc) :
    ∃ row ∈ (installed rel packPk now db doc).stickers,
      row.packId = doc.packId ∧ row.cached = true := by
  unfold installed
  rw [Db.putItems_rest]
  exact ⟨_, Table.mem_upsert.mpr (.inl rfl), rfl, rfl⟩

end

section

variable (sys : Platform) (eng : Engine) (arrival : Arrival)

theorem db_hear_of_completed (complete : completed eng arrival = some (blob, packPk)) :
    (hear sys eng arrival).db = (installPackBlob sys arrival.2.1 blob packPk arrival.1
        eng.db).2 := by
  unfold completed at complete
  split at complete
  · obtain ⟨whole, fed, same⟩ := Option.map_eq_some_iff.mp complete
    cases same
    simp only [hear, onStickerCtrl, run_onPackBody, fed, final]
  · cases complete

theorem samePacks_of_not_completed (incomplete : completed eng arrival = none) :
    SamePacks eng (hear sys eng arrival) := by
  unfold completed at incomplete
  split at incomplete
  · have fed := Option.map_eq_none_iff.mp incomplete
    simp only [hear, onStickerCtrl, run_onPackBody, fed, final]
    exact ⟨rfl, rfl⟩
  · rename_i other
    refine (samePacks_tolerates sys arrival.2.1).onStickerCtrl _ ?_ { eng with clock := arrival.1 }
    intro packId packPk index count data same
    exact (other arrival.1 arrival.2.1 packId packPk index count data (by rw [← same])).elim

/-- A payload leaves the packs alone, or it completes a document that is
written over whatever had its id. -/
theorem hear_cases : SamePacks eng (hear sys eng arrival) ∨
      ∃ blob packPk doc, completed eng arrival = some (blob, packPk) ∧
        StickerPackDoc.decodeSigned sys.sha256 sys.verify blob packPk = .ok doc ∧
        eng.db.admitPack (some arrival.2.1) true = none ∧
        (hear sys eng arrival).db = installed arrival.2.1 packPk arrival.1 eng.db doc := by
  cases complete : completed eng arrival with
  | none => exact .inl (samePacks_of_not_completed sys _ _ complete)
  | some whole =>
    obtain ⟨blob, packPk⟩ := whole
    have written := db_hear_of_completed sys _ _ complete
    obtain ⟨doc, decoded, admitted, stored⟩ | refused :=
      installPackBlob_cases sys arrival.2.1 blob packPk arrival.1 eng.db
    · exact .inr ⟨blob, packPk, doc, rfl, decoded, admitted, written.trans stored⟩
    · rw [refused] at written
      exact .inl ⟨by rw [written], by rw [written]⟩

theorem not_pinned_of_overwrites (overwrites : Overwrites sys eng arrival) :
    ¬ Pinned sys eng arrival := by
  obtain ⟨blob, packPk, doc, complete, decoded, admitted, row, stored, same, kept⟩ := overwrites
  intro pinned
  have written := db_hear_of_completed sys _ _ complete
  rw [installPackBlob_of_admitted decoded admitted] at written
  obtain ⟨after, held, mine, cached⟩ := exists_cached_of_installed arrival.2.1
    packPk arrival.1 eng.db doc
  rw [← written] at held
  have stays := (pinned row stored kept).2 after held (mine.trans same.symm)
  rw [cached] at stays
  cases stays

theorem samePack_hear (spares : ¬ Overwrites sys eng arrival)
    (stored : row ∈ eng.db.stickers) (kept : row.cached = false) :
    SamePack row.packId eng.db (hear sys eng arrival).db := by
  obtain same | ⟨blob, packPk, doc, complete, decoded, admitted, written⟩ :=
    hear_cases sys eng arrival
  · exact same.samePack row.packId
  · rw [written]
    refine samePack_installed fun same => spares ?_
    exact ⟨blob, packPk, doc, complete, decoded, admitted, row, stored, same, kept⟩

theorem pinned_of_not_overwrites (spares : ¬ Overwrites sys eng arrival) :
    Pinned sys eng arrival := by
  intro row stored kept
  have own := samePack_hear sys eng arrival spares stored kept
  refine ⟨.inl own, fun after held same => ?_⟩
  have before := (own.mem_iff same).mp held
  rw [Table.eq_of_key_eq before stored same]
  exact kept

end

section

variable (sys : Platform)

theorem samePack_hearAll (arrivals : List Arrival)
    (spares : ∀ done next rest, arrivals = done ++ next :: rest →
      ¬ Overwrites sys (hearAll sys eng done) next)
    (stored : row ∈ eng.db.stickers) (kept : row.cached = false) :
    SamePack row.packId eng.db (hearAll sys eng arrivals).db := by
  induction arrivals generalizing eng with
  | nil => exact ⟨rfl, rfl⟩
  | cons arrival rest ih =>
    have step := samePack_hear sys eng arrival (spares [] arrival rest rfl) stored kept
    have later := ih (fun done next rest split =>
        spares (arrival :: done) next rest (by rw [split]; rfl))
      ((step.mem_iff rfl).mpr stored)
    exact ⟨later.1.trans step.1, later.2.trans step.2⟩

/-- Along a run the user's packs are pinned to their keys exactly if no step
of it overwrites one: the key a document is checked against is the one it was
sent with. -/
theorem packs_pinned_iff (eng : Engine) (arrivals : List Arrival) :
    (∀ done next rest, arrivals = done ++ next :: rest → Pinned sys (hearAll sys eng done) next) ↔
    ∀ done next rest, arrivals = done ++ next :: rest →
      ¬ Overwrites sys (hearAll sys eng done) next := by
  refine forall₄_congr fun done next rest split => ?_
  exact ⟨fun pinned overwrites =>
      not_pinned_of_overwrites sys _ _ overwrites pinned,
    pinned_of_not_overwrites sys _ _⟩

end

/-- Signatures open with the key that made them. -/
def signet : Platform := { Platform.loopback with
  verify := fun packPk _ signature => signature.take 32 = packPk.toList
  sign := fun secret _ => secret ++ List.replicate 32 0 }

def ownKey : Array32 := List.Vector.replicate 32 1

def peerKey : Array32 := List.Vector.replicate 32 2

def smile (slot : UInt8) (bytes : Bytes) : StickerPackDoc where
  packId := List.Vector.replicate 16 slot
  kind := Sticker.kindEmoji
  visibility := Sticker.visibilityPublic
  title := "smiles"
  iconItemId := 1
  items := [⟨1, 16, 16, tally bytes, bytes⟩]

def signed (doc : StickerPackDoc) (key : Array32) : Bytes :=
  let body := doc.bodyBytes.toOption.getD []
  body ++ signet.sign key.toList body

def creator : Engine :=
  Engine.new ((Db.putItems (smile 0 [7]).packId (smile 0 [7]).items
    (Db.empty.installPackRow (smile 0 [7]) ownKey none false 0)).2) 0

/-- A peer's document in one piece. -/
def offered (doc : StickerPackDoc) : Arrival :=
  (1, "alice", .packBody doc.packId peerKey 0 1 (signed doc peerKey))

/-- The peer's pack under another id is installed beside ours. -/
theorem own_pack_spared : ∃ row ∈ creator.db.stickers, row.cached = false ∧
    let after := hearAll signet creator [offered (smile 1 [8])]
    (after.db.packInfo (smile 1 [8]).packId).isSome = true ∧
      SamePack row.packId creator.db after.db := by
  refine ⟨_, List.mem_cons_self, rfl, by decide +kernel,
    samePack_hearAll signet _ ?_ List.mem_cons_self rfl⟩
  rintro (_ | _) next rest split
  · cases split
    rintro ⟨blob, packPk, doc, completes, decoded, -, row, stored, same, -⟩
    have whole : completed creator (offered (smile 1 [8])) =
        some (signed (smile 1 [8]) peerKey, peerKey) := by decide +kernel
    have read : StickerPackDoc.decodeSigned signet.sha256 signet.verify
        (signed (smile 1 [8]) peerKey) peerKey = .ok (smile 1 [8]) := by
      decide +kernel
    cases whole.symm.trans completes
    cases read.symm.trans decoded
    have other : ∀ row ∈ creator.db.stickers.rows,
        row.packId ≠ (smile 1 [8]).packId := by decide +kernel
    exact other row stored same
  · simp at split

theorem completed_offered : completed creator (offered (smile 0 [8])) =
    some (signed (smile 0 [8]) peerKey, peerKey) := by
  decide +kernel

theorem peer_document_replaces_own : ¬ VerifiesUnder signet ownKey (signed (smile 0 [8]) peerKey) ∧
      creator.db.stickers.rows.map StickerPackRow.packPk = [ownKey] ∧
      ¬ Pinned signet creator (offered (smile 0 [8])) := by
  refine ⟨?_, by decide +kernel, ?_⟩
  · rintro ⟨doc, decoded⟩
    have refused : (StickerPackDoc.decodeSigned signet.sha256 signet.verify
        (signed (smile 0 [8]) peerKey) ownKey).toOption = none := by
      decide +kernel
    rw [decoded] at refused
    cases refused
  · have decoded : StickerPackDoc.decodeSigned signet.sha256 signet.verify
        (signed (smile 0 [8]) peerKey) peerKey = .ok (smile 0 [8]) := by
      decide +kernel
    refine not_pinned_of_overwrites signet creator _ ⟨_, _, smile 0 [8],
      completed_offered, decoded, by decide +kernel, ?_⟩
    decide +kernel

end SChatCore.Stickers
