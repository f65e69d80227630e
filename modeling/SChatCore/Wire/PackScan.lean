import SChatCore.Wire.PackDoc

namespace SChatCore.Wire

open Sticker Reader Data.Stream

/-! The signed body is the document: whatever the reader accepts, the writer
would have written. -/

namespace StickerPackDoc

section

variable {kind : UInt8} {title : String} {items : List PackDocItem}

theorem titleReader_ok (ran : (titleReader field).run bytes = .ok (title, rest)) :
    title.length ≤ maxTitleChars ∧ (asBytes title).length ≤ maxTitleChars * 4 ∧
      bytes = lp (asBytes title) ++ rest := by
  obtain ⟨read, middle, taken, ran⟩ := run_bind_ok_iff.mp ran
  split at ran
  · cases ran
  rename_i decoded
  split at ran
  · cases ran
  rename_i short
  cases ran
  rw [asBytes_of_fromUtf8 decoded]
  exact ⟨Nat.not_lt.mp short, bytes_of_lp taken⟩

theorem itemReader_ok (ran : (itemReader sha256 kind seen).run bytes = .ok (item, rest)) :
    item.itemId ∉ seen ∧ itemOk kind item.w.toNat item.h.toNat item.bytes.length = true ∧
      sha256 item.bytes = item.sha256 ∧ bytes = item.entry ++ rest := by
  simp only [itemReader, run_bind_ok_iff] at ran
  obtain ⟨itemId, _, readId, w, _, readW, h, _, readH, sha, _, readSha, content,
    _, readBytes, ran⟩ := ran
  split at ran
  · cases ran
  split at ran
  · cases ran
  rename_i unseen
  split at ran
  · cases ran
  rename_i digest
  split at ran
  · cases ran
  rename_i fits
  cases ran
  refine ⟨by simpa using unseen, not_not.mp fits, not_not.mp digest, ?_⟩
  rw [bytes_of_u16be readId, bytes_of_u16be readW, bytes_of_u16be readH,
    bytes_of_takeArray readSha, (bytes_of_lp readBytes).2]
  simp only [PackDocItem.entry, List.append_assoc]

theorem itemsReader_ok (ran : (itemsReader sha256 kind count seen).run bytes = .ok (items, rest)) :
    items.length = count ∧ Fresh seen items ∧ (∀ item ∈ items,
        itemOk kind item.w.toNat item.h.toNat item.bytes.length = true) ∧
      (∀ item ∈ items, sha256 item.bytes = item.sha256) ∧
      bytes = items.flatMap PackDocItem.entry ++ rest := by
  induction count generalizing seen bytes items with
  | zero =>
    cases ran
    exact ⟨rfl, ⟨List.nodup_nil, by simp [ids]⟩, by simp, by simp, rfl⟩
  | succ count ih =>
    simp only [itemsReader, run_bind_ok_iff, run_pure_ok_iff] at ran
    obtain ⟨item, middle, first, others, _, read, rfl, rfl⟩ := ran
    obtain ⟨unseen, fits, digest, rfl⟩ := itemReader_ok first
    obtain ⟨length, fresh, each, digests, rfl⟩ := ih read
    rw [List.length_cons, length, fresh_cons, List.forall_mem_cons,
      List.forall_mem_cons, List.flatMap_cons, List.append_assoc]
    exact ⟨rfl, ⟨unseen, fresh⟩, ⟨fits, each⟩, ⟨digest, digests⟩, rfl⟩

theorem decodeBody_ok (decoded : decodeBody sha256 body = .ok doc) :
    doc.Sound ∧ doc.Readable sha256 ∧ body = doc.layout := by
  obtain ⟨rest, ran⟩ := run_of_decode decoded
  obtain ⟨domain, _, readDomain, ran⟩ := run_bind_ok_iff.mp ran
  split at ran
  · cases ran
  rename_i same
  obtain rfl := not_not.mp same
  simp only [run_bind_ok_iff] at ran
  obtain ⟨packId, _, readId, kind, _, readKind, visibility, _, readVisibility,
    _, _, checked, title, _, readTitle, icon, _, readIcon, count, _,
    readCount, ran⟩ := ran
  obtain ⟨known, rfl⟩ := ok_of_lift checked
  obtain ⟨short, fits, titled⟩ := titleReader_ok readTitle
  split at ran
  · cases ran
  rename_i inside
  rw [not_or, UInt16.lt_iff_toNat_lt, Nat.not_lt, Nat.not_lt] at inside
  simp only [run_bind_ok_iff] at ran
  obtain ⟨items, _, readItems, _, _, ended, ran⟩ := ran
  obtain ⟨length, fresh, each, digests, rfl⟩ := itemsReader_ok readItems
  obtain ⟨rfl, rfl⟩ := bytes_of_expectEnd ended
  split at ran
  · cases ran
  rename_i listed
  cases ran
  refine ⟨⟨known, fits, ?_, length ▸ inside.2, fresh.1, each⟩,
    ⟨short, by simpa [ids] using listed, digests⟩, ?_⟩
  · rintro rfl
    exact absurd (length ▸ inside.1) (by decide)
  · rw [(bytes_of_take readDomain).2, bytes_of_takeArray readId,
      bytes_of_u8 readKind, bytes_of_u8 readVisibility, titled,
      bytes_of_u16be readIcon, bytes_of_u16be readCount]
    simp only [layout, length, UInt16.ofNat_toNat, List.append_assoc,
      List.append_nil, List.cons_append, List.nil_append]

/-- A body has one document, and a document one body. -/
theorem decodeBody_canonical (decoded : decodeBody sha256 body = .ok doc) :
    doc.bodyBytes = .ok body ∧ (ids doc.items).Nodup ∧ doc.iconItemId ∈ ids doc.items ∧
      0 < doc.items.length ∧ doc.items.length ≤ maxItems doc.kind ∧
      (∀ item ∈ doc.items, itemOk doc.kind item.w.toNat item.h.toNat item.bytes.length = true ∧
          item.sha256 = sha256 item.bytes) ∧
      ∀ other, decodeBody sha256 other = .ok doc → other = body := by
  obtain ⟨sound, readable, rfl⟩ := decodeBody_ok decoded
  refine ⟨bodyBytes_eq_ok.mpr ⟨sound, rfl⟩, sound.distinct, readable.icon,
    List.length_pos_iff.mpr sound.some, sound.count, fun item mem =>
    ⟨sound.items item mem, (readable.digests item mem).symm⟩,
    fun other same => ?_⟩
  exact (decodeBody_ok same).2.2

end

def header (doc : StickerPackDoc) : Bytes :=
  packDocDomain ++ doc.packId.toList ++ [doc.kind, doc.visibility] ++
    lp (asBytes doc.title) ++ u16be doc.iconItemId ++
    u16be (UInt16.ofNat doc.items.length)

def itemEnds (start : Nat) : List PackDocItem → List Nat
  | [] => []
  | item :: rest => (start + item.entry.length) :: itemEnds (start + item.entry.length) rest

def wholeItems (doc : StickerPackDoc) (size : Nat) : Nat :=
  (itemEnds doc.header.length doc.items).countP (· ≤ size)

variable {doc : StickerPackDoc} {kind : UInt8} {items : List PackDocItem}

theorem needs_scanItem {item : PackDocItem}
    (fits : itemOk kind item.w.toNat item.h.toNat item.bytes.length = true) :
    Needs (scanItem kind) item.entry item.itemId := by
  obtain ⟨some, bounded⟩ := sized_of_itemOk fits
  have small := (bounded.trans (maxBytes_le kind)).trans_lt (by decide : 512 * 1024 < 2 ^ 32)
  have length : (UInt32.ofNat item.bytes.length).toNat = item.bytes.length :=
    UInt32.toNat_ofNat_of_lt' small
  have entry : item.entry = u16be item.itemId ++ ((u16be item.w ++
      u16be item.h ++ item.sha256.toList) ++ (u32be
        (UInt32.ofNat item.bytes.length) ++ (item.bytes ++ []))) := by
    simp only [PackDocItem.entry, lp, List.append_assoc, List.append_nil]
  rw [entry]
  refine (needs_u16be _).bind ((needs_take (by simp)).bind ((needs_u32be _).bind ?_))
  rw [if_neg (by omega)]
  exact (needs_take length.symm).bind (.pure _)

theorem needs_scanHeader (sound : doc.Sound) :
    Needs scanHeader doc.header (doc.kind, doc.items.length) := by
  have count := count_of_sound sound
  have positive : ¬ (UInt16.ofNat doc.items.length < 1 ∨
      (UInt16.ofNat doc.items.length).toNat > maxItems doc.kind) := by
    rw [UInt16.lt_iff_toNat_lt, count]
    rintro (none | many)
    · exact sound.some (List.length_eq_zero_iff.mp (Nat.lt_one_iff.mp none))
    · exact absurd many (Nat.not_lt.mpr sound.count)
  have known : validKind doc.kind = true := by
    have checked := sound.kind
    unfold checkKind at checked
    split at checked
    · rename_i fine
      exact (Bool.and_eq_true_iff.mp fine).1
    · cases checked
  have parts : doc.header = packDocDomain ++ (doc.packId.toList ++
      ([doc.kind] ++ ([doc.visibility] ++ (lp (asBytes doc.title) ++
        (u16be doc.iconItemId ++ (u16be (UInt16.ofNat doc.items.length) ++ [])))))) := by
    simp only [header, List.append_assoc, List.append_nil, List.cons_append, List.nil_append]
  rw [parts]
  refine (needs_take rfl).bind ?_
  rw [if_neg (not_not.mpr rfl)]
  refine (needs_take (by simp)).bind ((needs_u8 _).bind ((needs_u8 _).bind ?_))
  rw [if_neg (not_not.mpr known)]
  refine (needs_lp sound.title (by decide)).bind ((needs_u16be _).bind ((needs_u16be _).bind ?_))
  rw [if_neg positive, count]
  exact .pure _

theorem le_of_mem_itemEnds (mem : place ∈ itemEnds start items) : start ≤ place ∧
      place ≤ start + (items.flatMap PackDocItem.entry).length := by
  induction items generalizing start with
  | nil => cases mem
  | cons item rest ih =>
    rw [List.flatMap_cons, List.length_append]
    rcases List.mem_cons.mp mem with rfl | later
    · omega
    · have bounds := ih later
      omega

theorem length_itemEnds (start : Nat) (items : List PackDocItem) :
    (itemEnds start items).length = items.length := by
  induction items generalizing start with
  | nil => rfl
  | cons item rest ih => exact congrArg (· + 1) (ih _)

theorem scanItems_take (fresh : Fresh seen items) (fits : ∀ item ∈ items,
      itemOk kind item.w.toNat item.h.toNat item.bytes.length = true)
    (start size : Nat) (tail : Bytes) :
    scanItems kind items.length seen ((items.flatMap PackDocItem.entry ++ tail).take size) =
      (itemEnds start items).countP (· ≤ start + size) := by
  induction items generalizing seen start size with
  | nil => rfl
  | cons item rest ih =>
    rw [fresh_cons] at fresh
    rw [List.forall_mem_cons] at fits
    have needs := needs_scanItem fits.1
    rw [List.flatMap_cons, List.append_assoc, List.length_cons, scanItems,
      itemEnds, List.take_append]
    rcases Nat.lt_or_ge size item.entry.length with early | late
    · obtain ⟨failure, failed⟩ := needs.short size early
      rw [Nat.sub_eq_zero_of_le early.le, List.take_zero, List.append_nil,
        failed, eq_comm, List.countP_eq_zero]
      intro place mem
      rw [decide_eq_true_eq]
      rcases List.mem_cons.mp mem with rfl | later
      · omega
      · have bounds := le_of_mem_itemEnds later
        omega
    · have unseen : ¬ seen.contains item.itemId = true := by
        rw [List.contains_iff_mem]
        exact fresh.1
      rw [List.take_of_length_le late, needs.enough]
      simp only
      have reached : start + size =
          start + item.entry.length + (size - item.entry.length) := by omega
      rw [if_neg unseen, ih fresh.2 fits.2 (start + item.entry.length),
        reached, List.countP_cons_of_pos (by simp)]

theorem scanPartial_take (sound : doc.Sound)
    (small : (doc.layout ++ tail).length ≤ maxPackDocBytes) (size : Nat) :
    scanPartial ((doc.layout ++ tail).take size) = if doc.header.length ≤ size then
        some (doc.wholeItems size, doc.items.length)
      else none := by
  have needs := needs_scanHeader sound
  have fresh : Fresh [] doc.items := ⟨sound.distinct, fun _ _ => List.not_mem_nil⟩
  have bounded : ¬ ((doc.layout ++ tail).take size).length >
      maxPackDocBytes := by
    rw [List.length_take]
    omega
  unfold scanPartial
  rw [if_neg bounded]
  have split : doc.layout ++ tail =
      doc.header ++ (doc.items.flatMap PackDocItem.entry ++ tail) := by
    simp only [layout, header, List.append_assoc]
  rw [split, List.take_append]
  rcases Nat.lt_or_ge size doc.header.length with early | late
  · obtain ⟨failure, failed⟩ := needs.short size early
    rw [Nat.sub_eq_zero_of_le early.le, List.take_zero, List.append_nil,
      failed, if_neg (Nat.not_le.mpr early)]
  · rw [List.take_of_length_le late, needs.enough, if_pos late]
    simp only
    rw [scanItems_take fresh sound.items doc.header.length, wholeItems, Nat.add_sub_cancel' late]

theorem decodeSigned_ok (accepted : decodeSigned sha256 verify blob packPk = .ok doc) :
    doc.Sound ∧ blob.length ≤ maxPackDocBytes ∧ ∃ signature, blob = doc.layout ++ signature := by
  unfold decodeSigned at accepted
  simp only at accepted
  split at accepted
  · cases accepted
  rename_i small
  split at accepted
  · cases accepted
  split at accepted
  · cases accepted
  obtain ⟨sound, -, body⟩ := decodeBody_ok accepted
  exact ⟨sound, Nat.not_lt.mp small, blob.drop (blob.length - 64),
    body ▸ (List.take_append_drop _ blob).symm⟩

/-- What the scan of a part of an accepted blob says. -/
theorem scanPartial_exact (accepted : decodeSigned sha256 verify blob packPk = .ok doc) :
    (∀ part, part <+: blob → scanPartial part = none ∨ scanPartial part =
        some (doc.wholeItems part.length, doc.items.length)) ∧
    (∀ part longer complete total, part <+: longer → longer <+: blob →
      scanPartial part = some (complete, total) → ∃ more, complete ≤ more ∧
        scanPartial longer = some (more, total)) ∧
    scanPartial blob = some (doc.items.length, doc.items.length) := by
  obtain ⟨sound, small, signature, rfl⟩ := decodeSigned_ok accepted
  have scanned : ∀ part, part <+: doc.layout ++ signature →
      scanPartial part = if doc.header.length ≤ part.length then
        some (doc.wholeItems part.length, doc.items.length) else none := by
    intro part inside
    rw [← scanPartial_take sound small, ← List.prefix_iff_eq_take.mp inside]
  refine ⟨fun part inside => ?_, ?_, ?_⟩
  · rw [scanned part inside]
    split
    · exact .inr rfl
    · exact .inl rfl
  · intro part longer complete total shorter inside found
    have length := shorter.length_le
    rw [scanned part (shorter.trans inside)] at found
    split at found
    · rename_i late
      cases found
      refine ⟨_, ?_, (scanned longer inside).trans (if_pos (by omega))⟩
      refine List.countP_mono_left fun place _ within => ?_
      rw [decide_eq_true_eq] at within ⊢
      omega
    · cases found
  · have whole : doc.header.length ≤ (doc.layout ++ signature).length := by
      simp only [layout, header, List.length_append]
      omega
    rw [scanned _ (List.prefix_refl _), if_pos whole, wholeItems,
      List.countP_eq_length.mpr ?_, length_itemEnds]
    intro place mem
    have bounds := le_of_mem_itemEnds mem
    have size : doc.layout.length = doc.header.length +
        (doc.items.flatMap PackDocItem.entry).length := by
      simp only [layout, header, List.length_append]
    rw [decide_eq_true_eq, List.length_append]
    omega

def smallPack : StickerPackDoc where
  packId := List.Vector.replicate 16 1
  kind := kindEmoji
  visibility := visibilityPublic
  title := "pair"
  iconItemId := 2
  items := [⟨1, 8, 8, tally [5], [5]⟩, ⟨2, 8, 8, tally [6], [6]⟩]

theorem smallPack_canonical : decodeBody tally smallPack.layout = .ok smallPack ∧
      smallPack.bodyBytes = .ok smallPack.layout := by
  have decoded : decodeBody tally smallPack.layout = .ok smallPack := by decide +kernel
  exact ⟨decoded, (decodeBody_canonical decoded).1⟩

theorem smallPack_scanned : let blob := smallPack.layout ++ List.replicate 64 0
    decodeSigned tally (fun _ _ _ => true) blob (List.Vector.replicate 32 0) = .ok smallPack ∧
      scanPartial (blob.take 100) = some (1, 2) ∧
      ∃ more, 1 ≤ more ∧ scanPartial (blob.take 110) = some (more, 2) := by
  have accepted : decodeSigned tally (fun _ _ _ => true) (smallPack.layout ++ List.replicate 64 0)
      (List.Vector.replicate 32 0) = .ok smallPack := by decide +kernel
  have part : scanPartial ((smallPack.layout ++ List.replicate 64 0).take 100) =
      some (1, 2) := by decide +kernel
  exact ⟨accepted, part, (scanPartial_exact accepted).2.1 _ _ 1 2
    (List.take_prefix_take_left (by decide)) ( List.take_prefix _ _) part⟩

end StickerPackDoc

end SChatCore.Wire
