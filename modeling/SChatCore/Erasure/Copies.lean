import SChatCore.Erasure.Heads
import SChatCore.Ledger.Deletion

namespace SChatCore.Erasure

open Data Data.Action Wire Store Engine Ledger

/-! The content of a message is in its own row, in the rows of its edits, in
those of its chunks, and in the chunk table. -/

structure Scrubbed (db : Db) (rel : RelId) (target : MsgId) : Prop where
  own : ∀ row ∈ db.messages, row.relId = rel → row.msgId = target → row.payload = []
  edits : ∀ row ∈ db.messages, row.relId = rel →
    row.envType = EnvelopeType.edit.code → row.refId = some target →
    row.payload = []
  pieces : ∀ row ∈ db.messages, row.relId = rel → row.envType = EnvelopeType.attachChunk.code →
    ∀ chunk, AttachChunk.decodePayload row.payload = .ok chunk →
      chunk.headId = target → chunk.data = []
  stored : ∀ chunk ∈ db.chunks, chunk.headId ≠ target

structure Unquoted (db : Db) (rel : RelId) (target : MsgId) : Prop where
  edits : ∀ row ∈ db.messages, row.relId = rel → row.msgId ≠ target →
    row.envType = EnvelopeType.edit.code → row.refId = some target →
    row.payload = []
  pieces : ∀ row ∈ db.messages, row.relId = rel → row.msgId ≠ target →
    row.envType = EnvelopeType.attachChunk.code →
    ∀ chunk, AttachChunk.decodePayload row.payload = .ok chunk →
      chunk.headId = target → chunk.data = []

theorem scrubbed_iff : Scrubbed db rel target ↔
      (∀ row ∈ db.messages, row.relId = rel → row.msgId = target → row.payload = []) ∧
      Unquoted db rel target ∧ ∀ chunk ∈ db.chunks, chunk.headId ≠ target := by
  constructor
  · intro scrubbed
    exact ⟨scrubbed.own, ⟨fun row mem own _ => scrubbed.edits row mem own,
      fun row mem own _ => scrubbed.pieces row mem own⟩, scrubbed.stored⟩
  · rintro ⟨own, unquoted, stored⟩
    refine ⟨own, fun row mem mine edit refers => ?_,
      fun row mem mine piece chunk decoded head => ?_, stored⟩
    · by_cases same : row.msgId = target
      · exact own row mem mine same
      · exact unquoted.edits row mem mine same edit refers
    · by_cases same : row.msgId = target
      · rw [own row mem mine same] at decoded
        cases decoded
      · exact unquoted.pieces row mem mine same piece chunk decoded head

theorem mem_markTombstoned_other {db : Db} (other : row.msgId ≠ target) :
    row ∈ (db.markTombstoned target).messages ↔ row ∈ db.messages := by
  constructor
  · intro mem
    obtain ⟨old, stored, rfl⟩ := List.mem_map.mp mem
    split at other
    · rename_i hit
      exact absurd (by simpa using hit) other
    · rename_i kept
      rw [if_neg kept]
      exact stored
  · intro mem
    refine List.mem_map.mpr ⟨row, mem, if_neg ?_⟩
    simpa using other

theorem unquoted_markTombstoned {db : Db} : Unquoted (db.markTombstoned target) rel target ↔
      Unquoted db rel target := by
  constructor
  · rintro ⟨edits, pieces⟩
    exact ⟨fun row mem own other =>
        edits row ((mem_markTombstoned_other other).mpr mem) own other,
      fun row mem own other =>
        pieces row ((mem_markTombstoned_other other).mpr mem) own other⟩
  · rintro ⟨edits, pieces⟩
    exact ⟨fun row mem own other =>
        edits row ((mem_markTombstoned_other other).mp mem) own other,
      fun row mem own other =>
        pieces row ((mem_markTombstoned_other other).mp mem) own other⟩

theorem scrubbed_applyDelete (names : env.refId = some target) (named : Named eng.db) :
    Scrubbed (final ((applyDelete rel env).run eng)).db rel target ↔ Unquoted eng.db rel target ∧
        ∀ chunk ∈ eng.db.chunks, chunk.headId = target →
          (eng.db.attachment target).isSome = true := by
  rw [scrubbed_iff, chunks_applyDelete names named, media_applyDelete names]
  have blank : ∀ db : Db, ∀ row ∈ (db.markTombstoned target).messages,
      row.relId = rel → row.msgId = target → row.payload = [] := by
    intro db row mem _ same
    obtain ⟨old, -, rfl⟩ := List.mem_map.mp mem
    split
    · rfl
    · rename_i other
      rw [if_neg other] at same
      simp [same] at other
  rw [and_iff_right (blank _)]
  refine and_congr_left fun _ => unquoted_markTombstoned.trans ?_
  exact ⟨fun unquoted => ⟨unquoted.edits, unquoted.pieces⟩,
    fun unquoted => ⟨unquoted.edits, unquoted.pieces⟩⟩

theorem scrubbed_attachmentViewed (found : eng.db.attachment target = some row)
    (once : row.flags &&& flagViewOnce ≠ 0) :
    Scrubbed (final ((attachmentViewed target).run eng)).db rel target ↔
      (∀ message ∈ eng.db.messages, message.relId = rel →
        message.msgId = target → message.payload = []) ∧
      Unquoted eng.db rel target ∧
      (row.consumed = true → ∀ chunk ∈ eng.db.chunks, chunk.headId ≠ target) := by
  rw [scrubbed_iff]
  unfold attachmentViewed
  rw [bind_readDb, found]
  simp only
  by_cases consumed : row.consumed = true
  · rw [if_neg fun unseen => unseen.2 consumed]
    simp only [consumed, true_implies]
    exact Iff.rfl
  · rw [if_pos ⟨once, consumed⟩]
    have gone : ∀ chunk ∈ (eng.db.deleteChunks target).chunks, chunk.headId ≠ target := by
      intro chunk mem
      simpa using (Table.mem_delete.mp mem).2
    constructor
    · rintro ⟨own, ⟨edits, pieces⟩, -⟩
      exact ⟨own, ⟨edits, pieces⟩, fun spent => absurd spent consumed⟩
    · rintro ⟨own, ⟨edits, pieces⟩, -⟩
      exact ⟨own, ⟨edits, pieces⟩, gone⟩

/-- A deletion or a view leaves no copy of the content exactly if the ledger
holds none outside what the handler looks at. -/
theorem content_scrubbed_iff {sys : Platform} {start eng : Engine}
    (fresh : start.db.attachments = .empty)
    (run : Relation.ReflTransGen (Operation sys) start eng) :
    (∀ rel plain env filed target, Dispatches sys rel eng plain env filed →
      env.payload = .delete → env.refId = some target →
      (Scrubbed (final ((dispatch sys rel env).run filed)).db rel target ↔
        Unquoted filed.db rel target ∧ ∀ chunk ∈ filed.db.chunks, chunk.headId = target →
            (filed.db.attachment target).isSome = true)) ∧
    ∀ target row, eng.db.attachment target = some row → row.flags &&& flagViewOnce ≠ 0 →
      (Scrubbed (final ((attachmentViewed target).run eng)).db row.relId target ↔
        (∀ message ∈ eng.db.messages, message.relId = row.relId →
          message.msgId = target → message.payload = []) ∧
        Unquoted eng.db row.relId target ∧
        (row.consumed = true → ∀ chunk ∈ eng.db.chunks, chunk.headId ≠ target)) := by
  have begins : Named start.db := by
    intro row mem
    rw [fresh] at mem
    cases mem
  have named := named_of_run begins run
  constructor
  · intro rel plain env filed target dispatches deletes names
    have same := sameMedia_of_dispatches dispatches
    have held : Named filed.db := fun row mem =>
      named row (same.attachments ▸ mem)
    have handler : dispatch sys rel env = applyDelete rel env := by
      unfold dispatch
      rw [deletes]
    rw [handler]
    exact scrubbed_applyDelete names held
  · intro target row found once
    exact scrubbed_attachmentViewed found once

def hearAll (envelopes : List Envelope) (eng : Engine) : Engine :=
  envelopes.foldl (fun eng env => final ((handlePlaintext .loopback "alice"
    ((env.encode id).toOption.getD [])).run eng)) eng

theorem run_hearAll (envelopes : List Envelope) (eng : Engine) :
    Relation.ReflTransGen (Operation .loopback) eng (hearAll envelopes eng) := by
  induction envelopes generalizing eng with
  | nil => exact .refl
  | cons env rest ih => exact .head (.inbound eng "alice" _) (ih _)

def told : Engine := hearAll [belated] acquainted

/-! A picture to be viewed once, and a `DELETE_ALL` that leaves its bytes. -/

def glimpse : Envelope where
  msgId := List.Vector.replicate 16 5
  appSeq := 1
  sentAt := 0
  refId := none
  payload := .attachHead ⟨{
    mediaClass := classImage
    mimeHint := ""
    origExt := ""
    uncompressedN := 1
    chunkCount := 0
    chunkBucket := 0
    contentSha256 := tally [7]
    caption := ""
    flags := flagViewOnce }, some [7]⟩

def sweep : Envelope where
  msgId := List.Vector.replicate 16 6
  appSeq := 2
  sentAt := 0
  refId := none
  payload := .deleteAll

def glimpsed : Engine := hearAll [glimpse, sweep] acquainted

theorem struck_is_scrubbed :
    (told.db.message belated.msgId).map MessageRow.payload = some [104, 105] ∧
    (∃ filed, Dispatches .loopback "alice" told strikeBytes strike filed ∧
      Scrubbed (final ((dispatch .loopback "alice" strike).run filed)).db "alice" belated.msgId) ∧
    attachmentBytes glimpsed.db glimpse.msgId = some [7] ∧
    Scrubbed (final ((attachmentViewed glimpse.msgId).run glimpsed)).db "alice"
      glimpse.msgId := by
  have accepts : Accepts .loopback told "alice" strikeBytes strike
      (newRelationship "alice" .inviter .active "" [] false 0) := by
    refine ⟨rfl, ?_, ⟨?_, ?_, ?_, ?_, ?_⟩⟩
    all_goals decide +kernel
  obtain ⟨filed, dispatches, -, chunks, messages⟩ :=
    dispatches_of_inviter accepts rfl rfl (by decide +kernel)
  have plain : ∀ row ∈ told.db.messages.rows, row.envType ≠ EnvelopeType.edit.code ∧
        row.envType ≠ EnvelopeType.attachChunk.code := by decide +kernel
  have unread : ∀ row ∈ filed.db.messages, row.envType ≠ EnvelopeType.edit.code ∧
        row.envType ≠ EnvelopeType.attachChunk.code := by
    intro row mem
    obtain old | new := messages row mem
    · exact plain row old
    · rw [new]
      decide
  refine ⟨by decide +kernel, ⟨filed, dispatches, ?_⟩, by decide +kernel, ?_⟩
  · refine ((@content_scrubbed_iff .loopback acquainted _ rfl
      (run_hearAll [belated] acquainted)).1 "alice" strikeBytes strike filed _
      dispatches rfl rfl).mpr ⟨⟨?_, ?_⟩, ?_⟩
    · exact fun row mem _ _ edit => absurd edit (unread row mem).1
    · exact fun row mem _ _ piece => absurd piece (unread row mem).2
    · rw [chunks]
      exact fun _ mem => nomatch mem
  · have kept : (glimpsed.db.attachment glimpse.msgId).map (fun row =>
        (row.relId, row.flags, row.consumed)) =
          some ("alice", flagViewOnce, false) := by decide +kernel
    have blank : ∀ row ∈ glimpsed.db.messages.rows,
        row.msgId ≠ glimpse.msgId ∧ row.envType ≠ EnvelopeType.edit.code ∧
          row.envType ≠ EnvelopeType.attachChunk.code := by decide +kernel
    obtain ⟨row, found, same⟩ := Option.map_eq_some_iff.mp kept
    obtain ⟨own, once, fresh⟩ : row.relId = "alice" ∧ row.flags = flagViewOnce ∧
      row.consumed = false := by simpa using same
    have scrubbed := (@content_scrubbed_iff .loopback acquainted _ rfl
      (run_hearAll [glimpse, sweep] acquainted)).2 glimpse.msgId row found
    rw [own, once, fresh] at scrubbed
    refine (scrubbed (by decide)).mpr ⟨?_, ⟨?_, ?_⟩, nofun⟩
    · exact fun row mem _ same => absurd same (blank row mem).1
    · exact fun row mem _ _ edit => absurd edit (blank row mem).2.1
    · exact fun row mem _ _ piece => absurd piece (blank row mem).2.2

/-! A message, its edit and its deletion, in that order. -/

def drafted : List Envelope := [{
    msgId := List.Vector.replicate 16 2
    appSeq := 1
    sentAt := 0
    refId := none
    payload := .msg { body := "hi" } }, {
    msgId := List.Vector.replicate 16 3
    appSeq := 2
    sentAt := 0
    refId := some (List.Vector.replicate 16 2)
    payload := .edit { body := "ho" } }, {
    msgId := List.Vector.replicate 16 4
    appSeq := 3
    sentAt := 0
    refId := some (List.Vector.replicate 16 2)
    payload := .delete }]

theorem edit_outlives_deletion : Relation.ReflTransGen (Operation .loopback) acquainted
        (hearAll drafted acquainted) ∧
      ((hearAll drafted acquainted).db.message (List.Vector.replicate 16 2)).map
          (fun row => (row.tombstone, row.payload)) = some (true, []) ∧
      ((hearAll drafted acquainted).db.message (List.Vector.replicate 16 3)).map
          (fun row => (row.envType, row.refId, row.payload)) =
        some (EnvelopeType.edit.code, some (List.Vector.replicate 16 2), [104, 111]) :=
  ⟨run_hearAll drafted acquainted, by decide +kernel, by decide +kernel⟩

end SChatCore.Erasure
