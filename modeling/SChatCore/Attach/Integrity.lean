import SChatCore.Attach.Delivery
import SChatCore.Wire.Reencode

namespace SChatCore.Attach

open Data Data.Action Wire Store Policy Engine

/-! What reads back from an inbound transfer: it is verified once, when it
completes, and put together from all stored rows at every read. -/

def Attaches (env : Envelope) : Prop :=
  match env.payload with
  | .attachHead payload => ∃ bytes, AttachHeadPayload.decodePayload bytes = .ok payload
  | .attachChunk chunk => ∃ bytes, AttachChunk.decodePayload bytes = .ok chunk
  | _ => False

def Sound (sys : Platform) (db : Db) : Prop :=
  ∀ headId row bytes, db.attachment headId = some row →
    row.direction = .in_ → attachmentBytes db headId = some bytes →
    bytes.length = row.uncompressedN.toNat ∧ sys.sha256 bytes = row.contentSha256

/-- An inline head finds no chunk of another index, and a complete transfer
gets no chunk that it lacks. -/
def Orderly (db : Db) (env : Envelope) : Prop :=
  match env.payload with
  | .attachHead payload => payload.inline ≠ none →
      ∀ row ∈ db.chunks, row.headId = env.msgId → row.idx = 0
  | .attachChunk chunk => ∀ row, db.attachment chunk.headId = some row →
      row.complete = true → chunk.pad = false → chunk.index < row.chunkCount →
      db.chunk chunk.headId chunk.index ≠ none
  | _ => True

inductive Reaches (sys : Platform) (first : Engine) : Engine → Prop
  | refl : Reaches sys first first
  | step {eng : Engine} {env : Envelope}
      (reached : Reaches sys first eng) (attaches : Attaches env)
      (orderly : Orderly eng.db env) (rel : RelId) (clock : Nat) :
      Reaches sys first
        (final ((dispatch sys rel env).run { eng with clock }))

structure Elsewhere (headId : MsgId) (before after : Db) : Prop where
  attachment : ∀ other, other ≠ headId → after.attachment other = before.attachment other
  chunks : Table.SameBut ChunkRow.headId headId before.chunks after.chunks

section

variable {sys : Platform} {rel : RelId} {db stored : Db}

theorem Elsewhere.trans (left : Elsewhere headId db stored)
    (right : Elsewhere headId stored third) : Elsewhere headId db third :=
  ⟨fun other differs => (right.attachment other differs).trans
    (left.attachment other differs), left.chunks.trans right.chunks⟩

theorem elsewhere_update : Elsewhere headId db { db with
      attachments := db.attachments.update (fun row => row.headId = headId) assign keepsKey } :=
  ⟨fun other differs => (Table.lookup_update_key headId other keepsKey).trans
    (if_neg differs), .refl _ _ _⟩

theorem elsewhere_putChunk {now : Nat} (put : db.putChunk headId index data rel now = .ok stored) :
    Elsewhere headId db stored := by
  refine ⟨fun other _ => attachment_of_putChunk put, ?_⟩
  obtain ⟨-, rfl⟩ | ⟨-, chunks, inserted, rfl⟩ := putChunk_eq_ok.mp put
  · exact .refl _ _ _
  · exact .insert inserted rfl

theorem chunksFor_of_sole {own : ChunkRow} (filed : own ∈ db.chunks)
    (sole : ∀ other ∈ db.chunks, other.headId = own.headId → other = own) :
    db.chunksFor own.headId = [own.data] := by
  have perm : (db.chunkRowsFor own.headId).Perm [own] := by
    refine (List.perm_insertionSort _ _).trans ((List.perm_ext_iff_of_nodup
      (Stored.nodup_rows _ db) (List.nodup_singleton own)).mpr fun other => ?_)
    rw [Stored.mem_rows, List.mem_singleton]
    exact ⟨fun mem => sole other mem.1 mem.2, by
      rintro rfl
      exact ⟨filed, rfl⟩⟩
  rw [Db.chunksFor, List.perm_singleton.mp perm]
  rfl

theorem chunksFor_putInline {now : Nat} (put : db.putChunk headId 0 bytes rel now = .ok stored)
    (zero : ∀ other ∈ db.chunks, other.headId = headId → other.idx = 0) :
    stored.chunksFor headId = [bytes] := by
  obtain ⟨filed, rfl⟩ | ⟨fresh, chunks, inserted, rfl⟩ := putChunk_eq_ok.mp put
  · obtain ⟨own, found, rfl⟩ := Option.map_eq_some_iff.mp filed
    obtain ⟨mem, key⟩ := Table.lookup_eq_some.mp found
    obtain ⟨rfl, first⟩ : own.headId = headId ∧ own.idx = 0 := Prod.mk.inj key
    refine chunksFor_of_sole mem fun other here same => ?_
    exact Table.eq_of_key_eq here mem (Prod.ext same ((zero other here same).trans first.symm))
  · refine @chunksFor_of_sole _ ⟨headId, 0, bytes, rel, now⟩
      ((Table.mem_insert inserted).mpr (.inr rfl)) fun other here same => ?_
    refine ((Table.mem_insert inserted).mp here).resolve_left fun old => ?_
    exact Table.lookup_eq_none.mp (Option.map_eq_none_iff.mp fresh) other old
      (Prod.ext same (zero other old same))

/-! A transfer that is complete keeps the bytes it was verified with. -/

def Intact (sys : Platform) (db : Db) : Prop :=
  ∀ headId row, db.attachment headId = some row → row.direction = .in_ → row.complete = true →
    ¬ Mismatched sys row.uncompressedN row.contentSha256 (db.chunksFor headId).flatten

theorem Intact.sound (intact : Intact sys db) : Sound sys db := by
  intro headId row bytes found inbound read
  simp only [attachmentBytes, found] at read
  split at read
  · cases read
  · rename_i ready
    split at read <;> cases read
    have complete : row.complete = true := by simp_all
    simpa [Mismatched] using intact headId row found inbound complete

theorem Intact.elsewhere (headId : MsgId) (intact : Intact sys db)
    (same : Elsewhere headId db stored)
    (own : ∀ row, stored.attachment headId = some row → row.complete = true → row.direction = .in_ →
      ¬ Mismatched sys row.uncompressedN row.contentSha256 (stored.chunksFor headId).flatten) :
    Intact sys stored := by
  intro other row found inbound complete
  by_cases mine : other = headId
  · subst mine
    exact own row found complete inbound
  · rw [same.attachment other mine] at found
    rw [Db.chunksFor, Db.chunkRowsFor, same.chunks other mine]
    exact intact other row found inbound complete

theorem Intact.deleteAttachment (intact : Intact sys db) (same : Elsewhere headId db stored) :
    Intact sys (stored.deleteAttachment headId) := by
  refine intact.elsewhere headId ⟨fun other differs =>
    ((Table.lookup_delete_key headId other).trans (if_neg differs)).trans
      (same.attachment other differs), same.chunks⟩ fun row found => ?_
  cases (attachment_deleteAttachment headId stored).symm.trans found

theorem intact_tryComplete (intact : Intact sys eng.db)
    (found : eng.db.attachment headId = some row) :
    Intact sys (final ((tryComplete sys rel headId).run eng)).db := by
  rw [run_tryComplete found]
  split
  · exact intact
  split
  · exact intact.deleteAttachment ⟨fun _ _ => rfl, .delete fun other _ hit => of_decide_eq_true hit⟩
  · rename_i verified
    refine intact.elsewhere headId (elsewhere_update.trans elsewhere_update)
      fun other found' _ _ => ?_
    cases (attachment_markComplete (attachment_setChunks _ found)).symm.trans found'
    exact verified

theorem intact_afterChunk (intact : Intact sys eng.db)
    (found : eng.db.attachment chunk.headId = some known) :
    Intact sys (final ((afterChunk sys rel chunk row).run eng)).db := by
  unfold afterChunk
  split
  · exact intact_tryComplete intact found
  · exact intact

theorem intact_onAttachChunk (intact : Intact sys eng.db)
    (orderly : ∀ row, eng.db.attachment chunk.headId = some row →
      row.complete = true → chunk.pad = false → chunk.index < row.chunkCount →
      eng.db.chunk chunk.headId chunk.index ≠ none) :
    Intact sys (final ((onAttachChunk sys rel chunk).run eng)).db := by
  rw [run_onAttachChunk]
  split
  · exact intact
  split
  · exact intact
  rename_i data accepted
  cases put : eng.db.putChunk chunk.headId chunk.index chunk.data rel eng.clock with
  | error error => exact intact
  | ok stored =>
    have elsewhere := elsewhere_putChunk put
    have kept := @attachment_of_putChunk _ _ _ _ chunk.headId _ _ _ put
    cases found : eng.db.attachment chunk.headId with
    | none =>
      refine intact.elsewhere chunk.headId elsewhere fun row known => ?_
      cases (kept.trans found).symm.trans known
    | some row =>
      have marked := attachment_setChunks (row.withChunk chunk.index) (kept.trans found)
      refine intact_afterChunk (intact.elsewhere chunk.headId
        (elsewhere.trans elsewhere_update) ?_) marked
      intro other found' complete inbound
      cases marked.symm.trans found'
      -- the chunk of a complete transfer is on file
      have filed := orderly row found complete (by simpa using data)
        (by simpa [refusesChunk, found] using accepted)
      obtain ⟨-, rfl⟩ | ⟨fresh, -⟩ := putChunk_eq_ok.mp put
      · exact intact _ row found inbound complete
      · exact absurd fresh filed

theorem intact_onAttachHead {payload : AttachHeadPayload} (intact : Intact sys eng.db)
    (sized : ∀ bytes, payload.inline = some bytes → bytes.length = payload.head.uncompressedN.toNat)
    (orderly : payload.inline ≠ none → ∀ row ∈ eng.db.chunks, row.headId = msgId → row.idx = 0) :
    Intact sys (final ((onAttachHead sys rel msgId payload).run eng)).db := by
  by_cases first : attachmentsAllowed eng.db rel = .ok true ∧ eng.db.attachment msgId = none
  · obtain ⟨expiry, attachments, inserted, ran⟩ :=
      run_onAttachHead_unseen sys first.1 first.2 payload
    have written := (Table.lookup_insert inserted msgId).trans (if_pos rfl)
    have opened : Intact sys { eng.db with attachments } := by
      refine intact.elsewhere msgId ⟨fun other differs =>
        (Table.lookup_insert inserted other).trans (if_neg differs.symm),
        .refl _ _ _⟩ fun row found complete => ?_
      cases written.symm.trans found
      cases complete
    rw [ran]
    cases inline : payload.inline with
    | none => exact intact_tryComplete opened written
    | some bytes =>
      simp only [run_completeInline]
      split
      · exact opened.deleteAttachment ⟨fun _ _ => rfl, .refl _ _ _⟩
      rename_i verified
      cases put : Db.putChunk msgId 0 bytes rel eng.clock { eng.db with attachments } with
      | error error => exact opened
      | ok stored =>
        refine opened.elsewhere msgId ((elsewhere_putChunk put).trans
          elsewhere_update) fun row found _ _ => ?_
        cases (attachment_markComplete ((attachment_of_putChunk put).trans
          written)).symm.trans found
        have read := chunksFor_putInline put (orderly (by simp [inline]))
        show ¬ Mismatched _ _ _ (stored.chunksFor msgId).flatten
        simp [read, Mismatched, attachmentOf, NewAttachment.row,
          sized _ inline, not_not.mp verified]
  · rw [final_onAttachHead_idle payload first]
    exact intact

theorem sized_of_decode {payload : AttachHeadPayload} {bytes inline : Bytes}
    (decoded : AttachHeadPayload.decodePayload bytes = .ok payload)
    (carried : payload.inline = some inline) :
    inline.length = payload.head.uncompressedN.toNat := by
  obtain ⟨-, -, written, encoded, -⟩ := AttachHeadPayload.reencodes decoded
  rw [AttachHeadPayload.encodePayload, carried] at encoded
  by_contra differs
  simp only [AttachHead.encodeInline, bind, Except.bind, if_pos differs]
    at encoded
  split at encoded
  · cases encoded
  · split at encoded <;> cases encoded

theorem intact_dispatch {env : Envelope} (intact : Intact sys eng.db)
    (attaches : Attaches env) (orderly : Orderly eng.db env) :
    Intact sys (final ((dispatch sys rel env).run eng)).db := by
  obtain ⟨msgId, appSeq, sentAt, refId, payload⟩ := env
  cases payload with
  | attachHead payload =>
    obtain ⟨bytes, decoded⟩ := attaches
    exact intact_onAttachHead intact (fun _ carried => sized_of_decode decoded carried) orderly
  | attachChunk chunk => exact intact_onAttachChunk intact orderly
  | _ => cases attaches

end

/-- Whatever the peers send in good order, what reads back from an inbound
transfer is what its head announced. -/
theorem sound_of_reaches {sys : Platform} {first eng : Engine}
    (fresh : ∀ headId row, first.db.attachment headId = some row →
      row.direction = .in_ → row.complete = false)
    (reached : Reaches sys first eng) : Sound sys eng.db := by
  refine Intact.sound ?_
  induction reached with
  | refl =>
    intro headId row found inbound complete
    cases (fresh headId row found inbound).symm.trans complete
  | @step eng env _ attaches orderly rel clock ih =>
    exact @intact_dispatch sys rel { eng with clock } env ih attaches orderly

def inlineHead : Envelope where
  msgId := .replicate 16 7
  appSeq := 2
  sentAt := 0
  refId := none
  payload := .attachHead ⟨{
    mediaClass := classImage
    mimeHint := ""
    origExt := ""
    uncompressedN := 1
    chunkCount := 0
    chunkBucket := 0
    contentSha256 := tally [5]
    caption := ""
    flags := 0 }, some [5]⟩

theorem attaches_inlineHead : Attaches inlineHead :=
  ⟨[2, classImage] ++ lp [] ++ lp [] ++ u32be 1 ++ (tally [5]).toList ++ lp [5], by decide +kernel⟩

def strayChunk : Envelope where
  msgId := .replicate 16 8
  appSeq := 1
  sentAt := 0
  refId := none
  payload := .attachChunk ⟨.replicate 16 7, 1, false, [9]⟩

theorem attaches_strayChunk : Attaches strayChunk :=
  ⟨List.replicate 16 7 ++ u16be 1 ++ [0] ++ lp [9], by decide +kernel⟩

def splitHead : Envelope where
  msgId := .replicate 16 9
  appSeq := 3
  sentAt := 0
  refId := none
  payload := .attachHead ⟨{
    mediaClass := classVideo
    mimeHint := ""
    origExt := ""
    uncompressedN := 2
    chunkCount := 2
    chunkBucket := 8
    contentSha256 := tally [5, 6]
    caption := ""
    flags := 0 }, none⟩

theorem attaches_splitHead : Attaches splitHead :=
  ⟨[1, classVideo] ++ lp [] ++ lp [] ++ u32be 2 ++ u16be 2 ++ u16be 8 ++
    (tally [5, 6]).toList, by decide +kernel⟩

def pieceAt (index : UInt16) (byte : UInt8) : Envelope where
  msgId := .replicate 16 byte
  appSeq := 4
  sentAt := 0
  refId := none
  payload := .attachChunk ⟨.replicate 16 9, index, false, [byte]⟩

def arrive (eng : Engine) (env : Envelope) : Engine :=
  final ((dispatch Platform.loopback "peer" env).run { eng with clock := 0 })

theorem orderly_pieceAt (open_ : (db.attachment (.replicate 16 9)).any
    AttachmentRow.complete = false) : Orderly db (pieceAt index byte) := by
  intro row found complete
  have found : db.attachment (.replicate 16 9) = some row := found
  rw [found, Option.any_some, complete] at open_
  cases open_

/-- An inline transfer, and one whose chunks arrive out of order. -/
theorem transfers_sound :
    let after := [inlineHead, splitHead, pieceAt 1 6, pieceAt 0 5].foldl arrive freshReceiver
    attachmentBytes after.db (.replicate 16 7) = some [5] ∧
      attachmentBytes after.db (.replicate 16 9) = some [5, 6] ∧
      Sound Platform.loopback after.db := by
  have unseen : Orderly freshReceiver.db inlineHead := by
    intro _ row mem
    cases mem
  have headed : Reaches .loopback freshReceiver
      ([inlineHead, splitHead].foldl arrive freshReceiver) :=
    .step (.step .refl attaches_inlineHead unseen "peer" 0)
      attaches_splitHead (fun chunked => absurd rfl chunked) "peer" 0
  have second : Attaches (pieceAt 1 6) :=
    ⟨List.replicate 16 9 ++ u16be 1 ++ [0] ++ lp [6], by decide +kernel⟩
  have first : Attaches (pieceAt 0 5) :=
    ⟨List.replicate 16 9 ++ u16be 0 ++ [0] ++ lp [5], by decide +kernel⟩
  refine ⟨by decide +kernel, by decide +kernel, @sound_of_reaches _
    freshReceiver _ (fun _ _ found => ?_)
    (.step (.step headed second (orderly_pieceAt (by decide +kernel))
      "peer" 0) first (orderly_pieceAt (by decide +kernel)) "peer" 0)⟩
  cases found

/-- The stray chunk arrives before the head and is read behind its byte. -/
def spoilt : Engine :=
  final ((dispatch Platform.loopback "peer" inlineHead).run
    (final ((dispatch Platform.loopback "peer" strayChunk).run freshReceiver)))

theorem stray_chunk_read_back : Attaches strayChunk ∧ Attaches inlineHead ∧
    ¬ Sound Platform.loopback spoilt.db := by
  refine ⟨attaches_strayChunk, attaches_inlineHead, fun sound => ?_⟩
  have announced : (spoilt.db.attachment (.replicate 16 7)).map (fun row =>
      (row.direction, row.uncompressedN)) = some (.in_, 1) := by
    decide +kernel
  have read : attachmentBytes spoilt.db (.replicate 16 7) = some [5, 9] := by decide +kernel
  obtain ⟨row, found, same⟩ := Option.map_eq_some_iff.mp announced
  obtain ⟨inbound, size⟩ := Prod.mk.inj same
  have length := (sound _ row _ found inbound read).1
  rw [size] at length
  cases length

end SChatCore.Attach
