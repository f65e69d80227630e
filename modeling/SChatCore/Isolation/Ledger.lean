import SChatCore.Engine.Growth

namespace SChatCore.Isolation

open Data Data.Action Wire Store Policy Engine

/-! Which envelopes reach into another relationship. Message ids and head ids
are global keys, so a handler that looks a row up by one of them alone finds
the rows of everyone. -/

def Apart (rel : RelId) (before after : Engine) : Prop := Isolated rel before.db after.db

instance (rel : RelId) : IsPreorder Engine (Apart rel) where
  refl eng := .refl rel eng.db
  trans _ _ _ := .trans

def ForeignMessage (db : Db) (rel : RelId) (msgId : MsgId) (kind : MessageRow → Prop) : Prop :=
  ∃ row, db.message msgId = some row ∧ row.relId ≠ rel ∧ kind row

def ForeignChunk (db : Db) (rel : RelId) (headId : MsgId) : Prop :=
  ∃ row ∈ db.chunks, row.headId = headId ∧ row.relId ≠ rel

/-- An edit of a foreign message that passes every check of the decision. -/
def TouchesEdit (eng : Engine) (rel : RelId) (env : Envelope) (body : String) : Prop :=
  ∃ target, env.refId = some target ∧
    ForeignMessage eng.db rel target fun row => row.tombstone = false ∧
        editDecision (some row) eng.clock env.appSeq (asBytes body).length
          (eng.db.isTombstoned rel env.msgId eng.clock)
          (eng.db.historyCut rel) = .apply

/-- A delete of a foreign message that still has something to lose, or of one
whose attachments or their chunks are foreign. -/
def TouchesDelete (db : Db) (rel : RelId) (env : Envelope) : Prop :=
  ∃ target, env.refId = some target ∧ (ForeignMessage db rel target
        (fun row => row.payload ≠ [] ∨ row.tombstone = false) ∨
      ∃ row ∈ db.attachments, row.msgId = target ∧
        (row.relId ≠ rel ∨ ForeignChunk db rel row.headId))

def TouchesRead (db : Db) (rel : RelId) (env : Envelope) : Prop :=
  ∃ target policy, env.refId = some target ∧
    loadPolicy db rel = .ok policy ∧ policy.receipts = true ∧
    ForeignMessage db rel target fun row => row.readable = true

theorem isolated_tables_iff : Isolated rel db { db with messages, attachments, chunks } ↔
      Table.SameBut MessageRow.relId rel db.messages messages ∧
        Table.SameBut AttachmentRow.relId rel db.attachments attachments ∧
        Table.SameBut ChunkRow.relId rel db.chunks chunks :=
  ⟨fun isolated => ⟨isolated.messages, isolated.attachments, isolated.chunks⟩,
    fun ⟨messages, attachments, chunks⟩ =>
      { Isolated.refl rel db with messages, attachments, chunks }⟩

theorem isolated_messages_iff : Isolated rel db { db with messages } ↔
      Table.SameBut MessageRow.relId rel db.messages messages :=
  ⟨fun isolated => isolated.messages, fun messages => { Isolated.refl rel db with messages }⟩

theorem isolated_applyEdit (body : String) : Isolated rel eng.db
        (final ((applyEdit rel env body).run eng)).db ↔
      ¬ TouchesEdit eng rel env body := by
  unfold applyEdit TouchesEdit
  cases names : env.refId with
  | none => exact iff_of_true (.refl _ _) (by simp)
  | some target =>
    simp only [EStateM.run_bind, run_readDb, run_now, Option.some.injEq, exists_eq_left']
    split
    · rename_i applied
      refine isolated_messages_iff.trans
        (Iff.trans (Table.SameBut.update_iff (fun _ => by rfl) fun _ => by rfl) ?_)
      simp only [ForeignMessage, not_exists, not_and]
      constructor
      · intro kept row found foreign live _
        obtain ⟨mem, key⟩ := Table.lookup_eq_some.mp found
        have same := kept row mem (by simp [key, live]) foreign
        have count := congrArg MessageRow.editCount same
        simp at count
      · intro none row mem hit foreign
        simp only [Bool.and_eq_true, decide_eq_true_eq, Bool.not_eq_true'] at hit
        have found : eng.db.message target = some row := Table.lookup_eq_some.mpr ⟨mem, hit.1⟩
        rw [found] at applied
        exact absurd applied (none row found foreign hit.2)
    · rename_i refused
      refine iff_of_true (.refl _ _) ?_
      rintro ⟨row, found, -, -, applied⟩
      rw [found] at refused
      exact refused applied

theorem isolated_onRead : Isolated rel eng.db (final ((onRead rel env.refId).run eng)).db ↔
      ¬ TouchesRead eng.db rel env := by
  unfold onRead TouchesRead
  simp only [EStateM.run_bind, run_readDb]
  cases loaded : loadPolicy eng.db rel with
  | error error => exact iff_of_true (.refl _ _) (by simp)
  | ok policy =>
    simp only [store, run_ofExcept_ok]
    cases names : env.refId with
    | none => exact iff_of_true (.refl _ _) (by simp)
    | some target =>
      simp only [Option.some.injEq, Except.ok.injEq, exists_and_left, exists_eq_left']
      cases receipts : policy.receipts with
      | false => exact iff_of_true (.refl _ _) (by simp)
      | true =>
        simp only [if_true, EStateM.run_bind, run_now, run_writeDb]
        refine isolated_messages_iff.trans
          (Iff.trans (Table.SameBut.update_iff (fun _ => by rfl) fun _ => by rfl) ?_)
        simp only [ForeignMessage, true_and, not_exists, not_and]
        constructor
        · intro kept row found foreign readable
          obtain ⟨mem, key⟩ := Table.lookup_eq_some.mp found
          have same := kept row mem (by simp [key, readable]) foreign
          have read := congrArg MessageRow.readAt same
          simp only [MessageRow.readable, ← read] at readable
          simp at readable
        · intro none row mem hit foreign
          simp only [Bool.and_eq_true, decide_eq_true_eq] at hit
          exact absurd hit.2 (none row (Table.lookup_eq_some.mpr ⟨mem, hit.1⟩) foreign)

theorem mem_heads_forMessage {db : Db} (mem : row ∈ db.attachments) :
    row.headId ∈ (db.forMessage target).map AttachmentRow.headId ↔ row.msgId = target := by
  constructor
  · intro listed
    obtain ⟨other, chosen, same⟩ := List.mem_map.mp listed
    obtain ⟨otherMember, named⟩ := Table.mem_select.mp chosen
    rw [← Table.eq_of_key_eq otherMember mem same]
    simpa using named
  · intro named
    exact List.mem_map.mpr ⟨row, Table.mem_select.mpr ⟨mem, by simpa using named⟩, rfl⟩

theorem sameBut_tombstoned_iff {messages : Table MessageRow.msgId} :
    Table.SameBut MessageRow.relId rel messages (messages.update chosen
        (fun row => { row with payload := [], tombstone := true })
        fun _ => rfl) ↔
      ∀ row ∈ messages, chosen row = true → row.relId ≠ rel →
        row.payload = [] ∧ row.tombstone = true := by
  refine Iff.trans (Table.SameBut.update_iff (fun _ => by rfl) fun _ => by rfl) ?_
  refine forall₄_congr fun row _ _ _ => ⟨fun same => ?_, fun same => ?_⟩
  · exact ⟨(congrArg MessageRow.payload same).symm, (congrArg MessageRow.tombstone same).symm⟩
  · obtain ⟨payload, tombstone⟩ := same
    rw [← payload, ← tombstone]

theorem isolated_applyDelete : Isolated rel eng.db (final ((applyDelete rel env).run eng)).db ↔
      ¬ TouchesDelete eng.db rel env := by
  unfold applyDelete TouchesDelete
  cases names : env.refId with
  | none => exact iff_of_true (.refl _ _) (by simp)
  | some target =>
    have folded : (eng.db.forMessage target).foldl (fun db row =>
        (db.deleteChunks row.headId).deleteAttachment row.headId) eng.db = eng.db.withoutHeads
            ((eng.db.forMessage target).map AttachmentRow.headId) := by
      rw [← Db.foldl_deleteHead, List.foldl_map]
    simp only [EStateM.run_bind, run_now, onDeleteTarget, run_writeDb,
      run_readDb, folded, Option.some.injEq, exists_eq_left']
    have marked : Isolated rel eng.db (eng.db.addTombstone rel target eng.clock) :=
      .addTombstone target eng.clock
    refine marked.iff_of_left.trans ?_
    refine Iff.trans isolated_tables_iff ?_
    rw [not_or, not_exists]
    refine and_congr ?_ (Iff.trans (and_congr Table.SameBut.delete_iff Table.SameBut.delete_iff) ?_)
    · refine Iff.trans sameBut_tombstoned_iff ?_
      constructor
      · rintro kept ⟨row, found, foreign, left⟩
        obtain ⟨mem, key⟩ := Table.lookup_eq_some.mp found
        obtain ⟨payload, tombstone⟩ := kept row mem (by simpa using key) foreign
        simp [payload, tombstone] at left
      · intro none row mem hit foreign
        by_contra left
        refine none ⟨row, Table.lookup_eq_some.mpr ⟨mem, by simpa using hit⟩, foreign, ?_⟩
        simpa only [not_and_or, Bool.not_eq_true] using left
    · simp only [List.contains_iff_mem]
      constructor
      · rintro ⟨attachments, chunks⟩ row ⟨mem, named, leak⟩
        have listed := (mem_heads_forMessage mem).mpr named
        obtain foreign | ⟨chunk, chunkMember, same, foreign⟩ := leak
        · exact foreign (attachments row mem listed)
        · exact foreign (chunks chunk chunkMember (same ▸ listed))
      · intro none
        refine ⟨fun row mem listed => ?_, fun chunk mem listed => ?_⟩
        · by_contra foreign
          exact none row ⟨mem, (mem_heads_forMessage mem).mp listed, .inl foreign⟩
        · by_contra foreign
          obtain ⟨row, chosen, same⟩ := List.mem_map.mp listed
          obtain ⟨rowMember, named⟩ := Table.mem_select.mp chosen
          exact none row ⟨rowMember, by simpa using named, .inr ⟨chunk, mem, same.symm, foreign⟩⟩

end SChatCore.Isolation
