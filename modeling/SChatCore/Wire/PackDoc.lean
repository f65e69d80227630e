import SChatCore.Wire.RoundTrip
import SChatCore.Wire.StickerDoc

namespace SChatCore.Wire

open Sticker Reader Data.Stream

/-! What the writer of a pack document lets through, and what its reader makes
of that. -/

def PackDocItem.entry (item : PackDocItem) : Bytes :=
  u16be item.itemId ++ u16be item.w ++ u16be item.h ++ item.sha256.toList ++ lp item.bytes

namespace StickerPackDoc

def ids (items : List PackDocItem) : List UInt16 := items.map PackDocItem.itemId

structure Sound (doc : StickerPackDoc) : Prop where
  kind : checkKind "pack_doc.kind" doc.kind doc.visibility = .ok ()
  title : (asBytes doc.title).length ≤ maxTitleChars * 4
  some : doc.items ≠ []
  count : doc.items.length ≤ maxItems doc.kind
  distinct : (ids doc.items).Nodup
  items : ∀ item ∈ doc.items, itemOk doc.kind item.w.toNat item.h.toNat item.bytes.length = true

def layout (doc : StickerPackDoc) : Bytes :=
  packDocDomain ++ doc.packId.toList ++ [doc.kind, doc.visibility] ++
    lp (asBytes doc.title) ++ u16be doc.iconItemId ++
    u16be (UInt16.ofNat doc.items.length) ++ doc.items.flatMap PackDocItem.entry

variable {doc : StickerPackDoc} {kind : UInt8}

/-- No id repeats, nor is one of `seen`. -/
def Fresh (seen : List UInt16) (items : List PackDocItem) : Prop :=
  (ids items).Nodup ∧ ∀ id ∈ ids items, id ∉ seen

theorem fresh_cons : Fresh seen (item :: rest) ↔
      item.itemId ∉ seen ∧ Fresh (item.itemId :: seen) rest := by
  unfold Fresh ids
  rw [List.map_cons, List.nodup_cons, List.forall_mem_cons]
  constructor
  · rintro ⟨⟨single, nodup⟩, unseen, others⟩
    refine ⟨unseen, nodup, fun id mem => ?_⟩
    rw [List.mem_cons, not_or]
    exact ⟨fun same => single (same ▸ mem), others id mem⟩
  · rintro ⟨unseen, nodup, others⟩
    refine ⟨⟨fun mem => ?_, nodup⟩, unseen, fun id mem seen => ?_⟩
    · exact others _ mem List.mem_cons_self
    · exact others id mem (List.mem_cons_of_mem _ seen)

theorem itemBytes_eq_ok {items : List PackDocItem} :
    itemBytes kind seen items = .ok bytes ↔ Fresh seen items ∧ (∀ item ∈ items,
          itemOk kind item.w.toNat item.h.toNat item.bytes.length = true) ∧
        bytes = items.flatMap PackDocItem.entry := by
  induction items generalizing seen bytes with
  | nil =>
    rw [itemBytes]
    constructor
    · rintro ⟨⟩
      exact ⟨⟨List.nodup_nil, nofun⟩, nofun, rfl⟩
    · rintro ⟨-, -, rfl⟩
      rfl
  | cons item rest ih =>
    rw [fresh_cons, List.forall_mem_cons, List.flatMap_cons, itemBytes]
    split
    · rename_i repeated
      refine iff_of_false nofun ?_
      rintro ⟨⟨unseen, -⟩, -⟩
      exact unseen (List.contains_iff_mem.mp repeated)
    rename_i unseen
    rw [List.contains_iff_mem] at unseen
    split
    · rename_i refused
      refine iff_of_false nofun ?_
      rintro ⟨-, ⟨fits, -⟩, -⟩
      exact refused fits
    rename_i fits
    rw [Decidable.not_not] at fits
    cases tail : itemBytes kind (item.itemId :: seen) rest with
    | error error =>
      refine iff_of_false nofun ?_
      rintro ⟨⟨-, fresh⟩, ⟨-, each⟩, -⟩
      have written := ih.mpr ⟨fresh, each, rfl⟩
      rw [tail] at written
      cases written
    | ok bytes =>
      obtain ⟨fresh, each, rfl⟩ := ih.mp tail
      constructor
      · rintro ⟨⟩
        exact ⟨⟨unseen, fresh⟩, ⟨fits, each⟩, rfl⟩
      · rintro ⟨-, -, rfl⟩
        rfl

theorem checkTitle_eq_ok {field title : String} : checkTitle field title = .ok () ↔
      (asBytes title).length ≤ maxTitleChars * 4 := by
  unfold checkTitle
  split
  · rename_i long
    exact iff_of_false nofun (Nat.not_le.mpr long)
  · rename_i short
    exact iff_of_true rfl (Nat.not_lt.mp short)

theorem bodyBytes_eq_ok : doc.bodyBytes = .ok body ↔ doc.Sound ∧ body = doc.layout := by
  unfold bodyBytes
  rw [seq_eq_ok, seq_eq_ok, checkTitle_eq_ok]
  split
  · rename_i outside
    refine iff_of_false nofun ?_
    rintro ⟨sound, -⟩
    rcases outside with none | many
    · exact sound.some (List.isEmpty_iff.mp none)
    · exact absurd many (Nat.not_lt.mpr sound.count)
  rename_i inside
  rw [not_or, List.isEmpty_iff, Nat.not_lt] at inside
  cases items : itemBytes doc.kind [] doc.items with
  | error error =>
    refine iff_of_false nofun ?_
    rintro ⟨sound, -⟩
    have written := itemBytes_eq_ok.mpr
      ⟨⟨sound.distinct, fun _ _ => List.not_mem_nil⟩, sound.items, rfl⟩
    rw [items] at written
    cases written
  | ok bytes =>
    obtain ⟨fresh, each, rfl⟩ := itemBytes_eq_ok.mp items
    constructor
    · rintro ⟨kinds, title, ⟨⟩⟩
      exact ⟨⟨kinds, title, inside.1, inside.2, fresh.1, each⟩, rfl⟩
    · rintro ⟨sound, rfl⟩
      exact ⟨sound.kind, sound.title, rfl⟩

variable (sha256 : Bytes → Array32)

structure Readable (doc : StickerPackDoc) : Prop where
  title : doc.title.length ≤ maxTitleChars
  icon : doc.iconItemId ∈ ids doc.items
  digests : ∀ item ∈ doc.items, sha256 item.bytes = item.sha256

theorem run_titleReader {field title : String}
    (short : (asBytes title).length ≤ maxTitleChars * 4) (rest : Bytes) :
    (titleReader field).run (lp (asBytes title) ++ rest) = if title.length > maxTitleChars then
        .error (.tooLarge field title.length maxTitleChars)
      else .ok (title, rest) := by
  unfold titleReader
  rw [run_bind, run_lp short (by decide)]
  simp only [fromUtf8_asBytes]
  split
  · rfl
  · rfl

variable {sha256}

theorem sized_of_itemOk (fits : itemOk kind w h length = true) :
    0 < length ∧ length ≤ maxBytes kind := by
  simp only [itemOk, Bool.and_eq_true, decide_eq_true_eq] at fits
  exact ⟨fits.1.1.1.2, fits.1.1.2⟩

theorem maxBytes_le (kind : UInt8) : maxBytes kind ≤ 512 * 1024 := by
  unfold maxBytes maxBytesSticker
  split
  · decide
  · split
    · decide
    · decide

theorem run_itemReader (unseen : item.itemId ∉ seen)
    (fits : itemOk kind item.w.toNat item.h.toNat item.bytes.length = true) (rest : Bytes) :
    (itemReader sha256 kind seen).run (item.entry ++ rest) = if sha256 item.bytes ≠ item.sha256 then
        .error (.badField "pack_doc.item.sha" "hash mismatch")
      else .ok (item, rest) := by
  obtain ⟨some, bounded⟩ := sized_of_itemOk fits
  have small : maxBytes kind < 2 ^ 32 := Nat.lt_of_le_of_lt (maxBytes_le kind) (by decide)
  have full : item.bytes.isEmpty = false := by
    rw [List.isEmpty_eq_false_iff, ← List.length_pos_iff_ne_nil]
    exact some
  unfold itemReader PackDocItem.entry
  simp only [List.append_assoc, run_bind, run_u16be, run_takeArray, run_lp bounded small, full]
  have fresh : ¬ seen.contains item.itemId = true := by rwa [List.contains_iff_mem]
  rw [if_neg (by decide), if_neg fresh]
  split
  · rfl
  · rfl

theorem run_itemsReader {items : List PackDocItem} (fresh : Fresh seen items)
    (fits : ∀ item ∈ items, itemOk kind item.w.toNat item.h.toNat item.bytes.length = true)
    (rest : Bytes) :
    (itemsReader sha256 kind items.length seen).run (items.flatMap PackDocItem.entry ++ rest) =
      if ∀ item ∈ items, sha256 item.bytes = item.sha256 then .ok (items, rest)
      else .error (.badField "pack_doc.item.sha" "hash mismatch") := by
  induction items generalizing seen with
  | nil => exact (if_pos nofun).symm
  | cons item others ih =>
    rw [fresh_cons] at fresh
    simp only [List.forall_mem_cons] at fits ⊢
    rw [List.flatMap_cons, List.append_assoc, List.length_cons, itemsReader,
      run_bind, run_itemReader fresh.1 fits.1]
    by_cases own : sha256 item.bytes = item.sha256
    · rw [if_neg (not_not.mpr own)]
      simp only
      rw [run_bind, ih fresh.2 fits.2]
      by_cases digests : ∀ item ∈ others, sha256 item.bytes = item.sha256
      · rw [if_pos digests, if_pos ⟨own, digests⟩]
        rfl
      · rw [if_neg digests, if_neg fun all => digests all.2]
    · rw [if_pos own, if_neg fun all => own all.1]

theorem maxItems_le (kind : UInt8) : maxItems kind ≤ 64 := by
  unfold maxItems
  split
  · decide
  · split
    · decide
    · decide

theorem count_of_sound (sound : doc.Sound) :
    (UInt16.ofNat doc.items.length).toNat = doc.items.length := by
  have bounded := Nat.le_trans sound.count (maxItems_le doc.kind)
  exact UInt16.toNat_ofNat_of_lt' (Nat.lt_of_le_of_lt bounded (by decide))

theorem decode_eq_error {reader : Reader α} (outcome : reader.run bytes = .error error) :
    reader.decode bytes = .error error := by
  unfold Reader.decode StateT.run'
  have step : reader bytes = .error error := outcome
  rw [step]
  rfl

theorem run_bodyReader (sound : doc.Sound) : (bodyReader sha256).run doc.layout =
      if doc.title.length > maxTitleChars then
        .error (.tooLarge "pack_doc.title" doc.title.length maxTitleChars)
      else
        (do
          let items ← itemsReader sha256 doc.kind doc.items.length []
          Reader.expectEnd "pack_doc"
          if ¬ items.any (fun item => item.itemId = doc.iconItemId) then
            throw (.badField "pack_doc.icon" "icon item missing")
          else return { doc with items } : Reader StickerPackDoc).run
            (doc.items.flatMap PackDocItem.entry) := by
  have count := count_of_sound sound
  have positive : ¬ (UInt16.ofNat doc.items.length < 1 ∨ doc.items.length > maxItems doc.kind) := by
    rw [UInt16.lt_iff_toNat_lt, count]
    rintro (none | many)
    · exact sound.some (List.length_eq_zero_iff.mp (Nat.lt_one_iff.mp none))
    · exact absurd many (Nat.not_lt.mpr sound.count)
  unfold bodyReader layout
  simp only [List.append_assoc, run_bind, run_take rfl]
  rw [if_neg (not_not.mpr rfl)]
  simp only [run_bind, run_takeArray, List.cons_append, List.nil_append, run_u8,
    run_lift sound.kind, run_titleReader sound.title]
  by_cases long : doc.title.length > maxTitleChars
  · simp only [if_pos long]
  · simp only [if_neg long, run_u16be, count, if_neg positive]
    rw [run_bind]
    simp only [run_bind]

theorem decodeBody_layout (sound : doc.Sound) :
    doc.Readable sha256 ∧ decodeBody sha256 doc.layout = .ok doc ∨ ¬ doc.Readable sha256 ∧
        ∃ error, decodeBody sha256 doc.layout = .error error := by
  have run := @run_bodyReader doc sha256 sound
  have fresh : Fresh [] doc.items := ⟨sound.distinct, fun _ _ => List.not_mem_nil⟩
  by_cases long : doc.title.length > maxTitleChars
  · rw [if_pos long] at run
    refine .inr ⟨fun readable => ?_, _, decode_eq_error run⟩
    exact absurd long (Nat.not_lt.mpr readable.title)
  rw [if_neg long, run_bind, ← List.append_nil (doc.items.flatMap _),
    run_itemsReader fresh sound.items] at run
  by_cases digests : ∀ item ∈ doc.items, sha256 item.bytes = item.sha256
  · rw [if_pos digests] at run
    simp only at run
    rw [run_bind, run_expectEnd] at run
    have listed : doc.items.any (fun item => item.itemId = doc.iconItemId) =
        true ↔ doc.iconItemId ∈ ids doc.items := by
      simp [ids]
    by_cases icon : doc.iconItemId ∈ ids doc.items
    · rw [if_neg (not_not.mpr (listed.mpr icon))] at run
      exact .inl ⟨⟨Nat.not_lt.mp long, icon, digests⟩, decode_eq run⟩
    · rw [if_pos (mt listed.mp icon)] at run
      exact .inr ⟨fun readable => icon readable.icon, _, decode_eq_error run⟩
  · rw [if_neg digests] at run
    exact .inr ⟨fun readable => digests readable.digests, _, decode_eq_error run⟩

theorem length_entries_le {items : List PackDocItem}
    (bounded : ∀ item ∈ items, item.bytes.length ≤ limit) :
    (items.flatMap PackDocItem.entry).length ≤ items.length * (42 + limit) := by
  induction items with
  | nil => exact Nat.zero_le _
  | cons item rest ih =>
    rw [List.forall_mem_cons] at bounded
    have own : item.entry.length = 42 + item.bytes.length := by
      simp [PackDocItem.entry]
      omega
    rw [List.flatMap_cons, List.length_append, own, List.length_cons, Nat.succ_mul]
    have others := ih bounded.2
    have first := bounded.1
    omega

theorem length_packDocDomain : packDocDomain.length = 16 := by decide +kernel

theorem length_layout : doc.layout.length = 42 + (asBytes doc.title).length +
    (doc.items.flatMap PackDocItem.entry).length := by
  simp only [layout, List.length_append, length_packDocDomain,
    List.Vector.toList_length, List.length_cons, List.length_nil, length_lp, length_u16be]
  omega

theorem maxItems_mul_le (kind : UInt8) :
    maxItems kind * (42 + maxBytes kind) ≤ 50 * (42 + 512 * 1024) := by
  unfold maxItems maxBytes maxBytesSticker
  split
  · decide
  · split
    · decide
    · decide

theorem length_layout_le (sound : doc.Sound) : doc.layout.length + 64 ≤ maxPackDocBytes := by
  have entries := length_entries_le fun item mem =>
    (sized_of_itemOk (sound.items item mem)).2
  have count := Nat.mul_le_mul_right (42 + maxBytes doc.kind) sound.count
  have most := maxItems_mul_le doc.kind
  have title := sound.title
  rw [length_layout]
  unfold maxPackDocBytes
  unfold maxTitleChars at title
  omega

theorem decodeSigned_layout (sound : doc.Sound) (length : signature.length = 64)
    (verifies : verify packPk doc.layout signature = true) :
    decodeSigned sha256 verify (doc.layout ++ signature) packPk = decodeBody sha256 doc.layout := by
  have total : (doc.layout ++ signature).length = doc.layout.length + 64 := by
    rw [List.length_append, length]
  have small := length_layout_le sound
  have large := @length_layout doc
  have domain := length_packDocDomain
  unfold decodeSigned
  simp only [total, Nat.add_sub_cancel, List.take_left, List.drop_left]
  rw [if_neg (by omega), if_neg (by omega), if_neg (not_not.mpr verifies)]

end StickerPackDoc

end SChatCore.Wire
