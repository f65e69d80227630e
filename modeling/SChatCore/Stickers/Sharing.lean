import SChatCore.Engine.Stickers
import SChatCore.Wire.PackDoc

namespace SChatCore.Stickers

open Data Data.Action Wire Store Engine

/-! Packs we make: how one is created, and what a peer gets to read of it. -/

structure PackKey where
  secret : Bytes
  publicKey : Array32

def quotaText : PackQuota → String
  | .total => "pack quota reached"
  | .perSender => "per-sender pack quota reached"
  | .cached => "cached pack quota reached"

def installDoc (doc : StickerPackDoc) (packPk : Array32)
    (fromRel : Option RelId) (cached : Bool) : Action Unit := do
  let db ← readDb
  match db.admitPack fromRel cached with
  | some quota => throw (.editDenied (quotaText quota))
  | none => do
    let now ← now
    writeDb (Db.installPackRow doc packPk fromRel cached now)
    let put ← updateDb (Db.putItems doc.packId doc.items)
    Action.ofExcept EngineError.store put

def storePackKey (packId : Array16) (key : PackKey) : Action Unit :=
  writeDb fun db => { db with
    packKeys := db.packKeys.upsert { packId, secret := key.secret } }

/-- The id and the key pair are fresh random values. -/
def createPack (packId : Array16) (key : PackKey) (title : String)
    (kind visibility : UInt8) (iconItemId : UInt16)
    (items : List PackDocItem) : Action (Array16 × Array32) := do
  let doc := { packId, kind, visibility, title, iconItemId, items }
  -- The signature over the body is thrown away.
  let _ ← Action.ofExcept EngineError.wire doc.bodyBytes
  installDoc doc key.publicKey none false
  storePackKey packId key
  return (packId, key.publicKey)

/-- The signature scheme does its work for this key. -/
structure Signs (sys : Platform) (key : PackKey) : Prop where
  loads : sys.loadPackKey key.secret key.publicKey = .ok ()
  length : ∀ body, (sys.sign key.secret body).length = 64
  verifies : ∀ body, sys.verify key.publicKey body (sys.sign key.secret body) = true

theorem putItems_fresh (fresh : ∀ item ∈ items, db.stickerItems.lookup (packId, item.itemId) = none)
    (distinct : (StickerPackDoc.ids items).Nodup) :
    ∃ stickerItems, Db.putItems packId items db = (.ok (), { db with stickerItems }) ∧
      stickerItems.rows = db.stickerItems.rows ++ items.map (Db.docItemRow packId) := by
  induction items generalizing db with
  | nil => exact ⟨db.stickerItems, rfl, (List.append_nil _).symm⟩
  | cons item rest ih =>
    rw [List.forall_mem_cons] at fresh
    obtain ⟨single, distinct⟩ := List.nodup_cons.mp distinct
    obtain ⟨result, inserted, -⟩ :=
      @Table.insert_of_fresh _ _ _ _ db.stickerItems (Db.docItemRow packId item) fresh.1
    obtain ⟨-, rows⟩ := Table.insert_eq_some.mp inserted
    have later : ∀ other ∈ rest, result.lookup (packId, other.itemId) = none := by
      intro other mem
      refine (Table.lookup_insert inserted _).trans ?_
      rw [if_neg]
      · exact fresh.2 other mem
      · intro same
        have ids : item.itemId = other.itemId := congrArg Prod.snd same
        exact single (ids ▸ List.mem_map_of_mem mem)
    obtain ⟨stickerItems, put, stored⟩ := @ih { db with stickerItems := result } later distinct
    refine ⟨stickerItems, ?_, ?_⟩
    · rw [Db.putItems, fresh.1]
      simp only [Table.insertOrIgnore, inserted, Option.getD_some]
      exact put
    · rw [stored, rows, List.map_cons, List.append_assoc]
      rfl

/-! The document is read off the store, where items come by id. -/

def sorted (doc : StickerPackDoc) : StickerPackDoc :=
  { doc with items := doc.items.insertionSort fun first second =>
      first.itemId ≤ second.itemId }

theorem perm_sorted (doc : StickerPackDoc) : (sorted doc).items.Perm doc.items :=
  List.perm_insertionSort _ doc.items

theorem mem_ids_sorted {id : UInt16} : id ∈ StickerPackDoc.ids (sorted doc).items ↔
      id ∈ StickerPackDoc.ids doc.items :=
  ((perm_sorted doc).map _).mem_iff

theorem sound_sorted (sound : doc.Sound) : (sorted doc).Sound where
  kind := sound.kind
  title := sound.title
  some none := sound.some (List.perm_nil.mp (none ▸ perm_sorted doc).symm)
  count := (perm_sorted doc).length_eq.trans_le sound.count
  distinct := ((perm_sorted doc).map _).nodup_iff.mpr sound.distinct
  items item mem := sound.items item ((perm_sorted doc).mem_iff.mp mem)

theorem readable_sorted : (sorted doc).Readable sha256 ↔ doc.Readable sha256 := by
  constructor
  · rintro ⟨title, icon, digests⟩
    refine ⟨title, mem_ids_sorted.mp icon, fun item mem => ?_⟩
    exact digests item ((perm_sorted doc).mem_iff.mpr mem)
  · rintro ⟨title, icon, digests⟩
    refine ⟨title, mem_ids_sorted.mpr icon, fun item mem => ?_⟩
    exact digests item ((perm_sorted doc).mem_iff.mp mem)

theorem sorted_items_eq_iff (distinct : (StickerPackDoc.ids doc.items).Nodup) :
    (sorted doc).items = doc.items ↔ (StickerPackDoc.ids doc.items).Pairwise (· < ·) := by
  constructor
  · intro same
    have ascending : doc.items.Pairwise fun first second =>
        first.itemId ≤ second.itemId := by
      rw [← same]
      exact List.pairwise_insertionSort _ doc.items
    have weak : (StickerPackDoc.ids doc.items).Pairwise (· ≤ ·) := List.pairwise_map.mpr ascending
    exact (weak.and distinct).imp fun both =>
      UInt16.lt_of_le_of_ne both.1 both.2
  · intro ascending
    have weak := (List.pairwise_map.mp ascending).imp UInt16.le_of_lt
    exact List.Pairwise.insertionSort_eq weak

section

variable {eng after : Engine} {key : PackKey} {doc : StickerPackDoc}

structure Stored (key : PackKey) (doc : StickerPackDoc) (db : Db) : Prop where
  info : ∃ info, db.packInfo doc.packId = some info ∧ info.packPk = key.publicKey ∧
    packDoc info (db.itemsFor doc.packId) = sorted doc
  secret : db.packKeys.lookup doc.packId = some { packId := doc.packId, secret := key.secret }

theorem itemsFor_of_rows {db : Db} {items : List PackDocItem}
    (rows : db.stickerItems.select (fun row => row.packId = packId) =
      items.map (Db.docItemRow packId)) :
    db.itemsFor packId = (items.insertionSort fun first second =>
      first.itemId ≤ second.itemId).map (Db.docItemRow packId) := by
  unfold Db.itemsFor
  rw [rows]
  exact (List.map_insertionSort (fun first second : PackDocItem => first.itemId ≤ second.itemId)
    (fun first second : StickerItemRow => first.itemId ≤ second.itemId)
    (Db.docItemRow packId) items fun _ _ _ _ => Iff.rfl).symm

theorem installDoc_eq_ok (distinct : (StickerPackDoc.ids doc.items).Nodup)
    (ran : (installDoc doc packPk fromRel cached).run eng = .ok () after) :
    ∃ stickerItems, after = { eng with
        db := { eng.db.installPackRow doc packPk fromRel cached eng.clock with stickerItems } } ∧
      stickerItems.select (fun row => row.packId = doc.packId) =
        doc.items.map (Db.docItemRow doc.packId) := by
  have emptied : ∀ item ∈ doc.items, (eng.db.installPackRow doc packPk fromRel cached
        eng.clock).stickerItems.lookup (doc.packId, item.itemId) = none := by
    intro item _
    rw [Table.lookup_eq_none]
    intro row stored same
    obtain ⟨-, kept⟩ := Table.mem_delete.mp stored
    exact of_decide_eq_false kept (congrArg Prod.fst same)
  obtain ⟨stickerItems, put, rows⟩ := putItems_fresh emptied distinct
  unfold installDoc at ran
  obtain ⟨db, read, reading, ran⟩ := run_bind_eq_ok ran
  cases reading
  split at ran
  · cases ran
  obtain ⟨now, timed, timing, ran⟩ := run_bind_eq_ok ran
  obtain ⟨_, listed, listing, ran⟩ := run_bind_eq_ok ran
  obtain ⟨outcome, filled, filling, ended⟩ := run_bind_eq_ok ran
  cases timing
  cases listing
  cases filling
  obtain ⟨-, rfl⟩ := run_ofExcept_eq_ok ended
  refine ⟨stickerItems, ?_, ?_⟩
  · show Engine.mk _ _ _ _ _ _ _ _ _ = _
    simp only [put]
  · unfold Table.select
    rw [rows, List.filter_append, List.filter_eq_nil_iff.mpr,
      List.filter_eq_self.mpr, List.nil_append]
    · intro row added
      obtain ⟨item, -, rfl⟩ := List.mem_map.mp added
      exact decide_eq_true rfl
    · intro row stored mine
      obtain ⟨-, kept⟩ := Table.mem_delete.mp (Table.mem_def.mpr stored)
      exact of_decide_eq_false kept (of_decide_eq_true mine)

theorem createPack_eq_ok (created : (createPack doc.packId key doc.title doc.kind doc.visibility
      doc.iconItemId doc.items).run eng = .ok result after) :
    doc.Sound ∧ result = (doc.packId, key.publicKey) ∧ Stored key doc after.db := by
  unfold createPack at created
  obtain ⟨body, checked, checking, created⟩ := run_bind_eq_ok created
  obtain ⟨_, installed, installing, ended⟩ := run_bind_eq_ok created
  obtain ⟨written, rfl⟩ := run_ofExcept_eq_ok checking
  obtain ⟨sound, -⟩ := StickerPackDoc.bodyBytes_eq_ok.mp written
  obtain ⟨stickerItems, rfl, rows⟩ := installDoc_eq_ok sound.distinct installing
  cases ended
  refine ⟨sound, rfl, ⟨_, (Table.lookup_upsert _ _ _).trans (if_pos rfl), rfl,
    ?_⟩, (Table.lookup_upsert _ _ _).trans (if_pos rfl)⟩
  unfold packDoc
  rw [itemsFor_of_rows rows, List.map_map]
  exact congrArg (fun items => { doc with items }) (List.map_id _)

theorem packDocument_of_stored (signs : Signs sys key) (sound : doc.Sound)
    (stored : Stored key doc db) :
    packDocument sys db doc.packId = .ok (some ((sorted doc).layout ++
        sys.sign key.secret (sorted doc).layout)) := by
  obtain ⟨⟨info, found, packPk, read⟩, secret⟩ := stored
  have body := StickerPackDoc.bodyBytes_eq_ok.mpr ⟨sound_sorted sound, rfl⟩
  unfold packDocument
  simp only [found, read, body, secret, packPk, signs.loads]

end

/-- A pack that was created reaches a peer as it was made exactly if its title
has at most 32 characters, its icon is one of its items, the items come in the
order of their ids and each has the digest of its bytes. -/
theorem created_pack_shared_iff {sys : Platform} {key : PackKey}
    (signs : Signs sys key) {eng after : Engine}
    {packId created : Array16} {packPk : Array32} {title : String}
    {kind visibility : UInt8} {iconItemId : UInt16} {items : List PackDocItem}
    (ran : (createPack packId key title kind visibility iconItemId items).run
      eng = .ok (created, packPk) after) :
    (∃ blob doc, packDocument sys after.db created = .ok (some blob) ∧
        StickerPackDoc.decodeSigned sys.sha256 sys.verify blob packPk = .ok doc ∧
        doc.title = title ∧ doc.kind = kind ∧ doc.visibility = visibility ∧
        doc.iconItemId = iconItemId ∧ doc.items = items) ↔
      title.length ≤ Sticker.maxTitleChars ∧ iconItemId ∈ StickerPackDoc.ids items ∧
        (StickerPackDoc.ids items).Pairwise (· < ·) ∧
        ∀ item ∈ items, sys.sha256 item.bytes = item.sha256 := by
  obtain ⟨sound, same, stored⟩ := @createPack_eq_ok eng after key
    { packId, kind, visibility, title, iconItemId, items } _ ran
  cases same
  have served := packDocument_of_stored signs sound stored
  have read := @StickerPackDoc.decodeSigned_layout _ sys.sha256
    sys.verify _ _ (sound_sorted sound) (signs.length _) (signs.verifies _)
  have order := sorted_items_eq_iff sound.distinct
  have back := @StickerPackDoc.decodeBody_layout _ sys.sha256 (sound_sorted sound)
  rw [readable_sorted] at back
  constructor
  · rintro ⟨blob, doc, serves, reads, -, -, -, -, listed⟩
    rw [served, Except.ok.injEq, Option.some.injEq] at serves
    subst serves
    rw [read] at reads
    rcases back with ⟨readable, whole⟩ | ⟨-, error, failed⟩
    · rw [reads] at whole
      cases whole
      exact ⟨readable.title, readable.icon, order.mp listed, readable.digests⟩
    · rw [reads] at failed
      cases failed
  · rintro ⟨short, icon, ascending, digests⟩
    rcases back with ⟨-, whole⟩ | ⟨unreadable, -⟩
    · exact ⟨_, _, served, read.trans whole, rfl, rfl, rfl, rfl, order.mpr ascending⟩
    · exact absurd ⟨short, icon, digests⟩ unreadable

def noId : Array16 := List.Vector.replicate 16 0

def packKey : PackKey where
  secret := []
  publicKey := List.Vector.replicate 32 0

theorem signs_packKey : Signs .loopback packKey where
  loads := rfl
  length _ := List.length_replicate
  verifies _ := rfl

def wave : PackDocItem where
  itemId := 1
  w := 1
  h := 1
  sha256 := tally [0]
  bytes := [0]

def waves (title : String) : EStateM.Result EngineError Engine (Array16 × Array32) :=
  (createPack noId packKey title Sticker.kindEmoji Sticker.visibilityPublic 1
    [wave]).run (Engine.new .empty 0)

theorem waves_shared : ∃ created packPk after blob doc,
    waves "waves" = .ok (created, packPk) after ∧
    packDocument .loopback after.db created = .ok (some blob) ∧
    StickerPackDoc.decodeSigned Platform.loopback.sha256
      Platform.loopback.verify blob packPk = .ok doc ∧
    doc.title = "waves" ∧ doc.kind = Sticker.kindEmoji ∧
    doc.visibility = Sticker.visibilityPublic ∧ doc.iconItemId = 1 ∧
    doc.items = [wave] := by
  obtain ⟨⟨created, packPk⟩, ran⟩ := @eq_ok_of_failure _ _ _ (waves "waves") (by decide +kernel)
  obtain ⟨blob, doc, shared⟩ := (created_pack_shared_iff signs_packKey ran).mpr (by decide +kernel)
  exact ⟨created, packPk, _, blob, doc, ran, shared⟩

/-- Thirty-three letters fit the bytes of a title, not its characters. -/
theorem long_title_not_shared :
    let title := String.ofList (List.replicate 33 'a')
    failure (waves title) = none ∧
      (packDocument .loopback (final (waves title)).db noId).toOption.any
        (fun blob => blob.any fun blob =>
          decide (StickerPackDoc.decodeSigned Platform.loopback.sha256
            Platform.loopback.verify blob packKey.publicKey =
              .error (.tooLarge "pack_doc.title" 33 32))) = true := by
  decide +kernel

end SChatCore.Stickers
