import SChatCore.Isolation.Control
import SChatCore.Ledger.Retention

namespace SChatCore.Erasure

open Data Data.Action Wire Store Policy Engine

/-! The transfer and the chunks of an attachment, when its message goes. -/

structure Erased (db : Db) (head : MsgId) : Prop where
  attachments : ∀ row ∈ db.attachments, row.msgId ≠ head
  chunks : ∀ chunk ∈ db.chunks, chunk.headId ≠ head

theorem Erased.attachmentBytes (erased : Erased db head) : attachmentBytes db head = none := by
  have empty : db.chunksFor head = [] := by
    have none : (db.chunks.select fun row => row.headId = head) = [] := by
      refine List.eq_nil_iff_forall_not_mem.mpr fun chunk mem => ?_
      obtain ⟨stored, same⟩ := Table.mem_select.mp mem
      exact erased.chunks chunk stored (by simpa using same)
    unfold Db.chunksFor Db.chunkRowsFor
    rw [none]
    rfl
  unfold Engine.attachmentBytes
  cases db.attachment head with
  | none => rfl
  | some row => simp [empty]

structure SameMedia (before after : Engine) : Prop where
  attachments : after.db.attachments = before.db.attachments
  chunks : after.db.chunks = before.db.chunks

instance : IsPreorder Engine SameMedia where
  refl _ := ⟨rfl, rfl⟩
  trans _ _ _ left right := ⟨right.attachments.trans left.attachments,
    right.chunks.trans left.chunks⟩

theorem SameMedia.erased_iff (same : SameMedia before after) :
    Erased after.db head ↔ Erased before.db head := by
  constructor
  · rintro ⟨attachments, chunks⟩
    exact ⟨same.attachments ▸ attachments, same.chunks ▸ chunks⟩
  · rintro ⟨attachments, chunks⟩
    exact ⟨same.attachments ▸ attachments, same.chunks ▸ chunks⟩

theorem SameMedia.of_outbound (step : Outbound rel before after) :
    SameMedia before after :=
  ⟨(congrArg Db.attachments step.backdrop :), (congrArg Db.chunks step.backdrop :)⟩

theorem sameMedia_sendEnvelope (payload : Payload) (refId : Option MsgId) :
    Keeps SameMedia (sendEnvelope sys rel payload refId) :=
  (outbound_sendEnvelope sys payload refId).mono fun _ _ => .of_outbound

theorem staged_sameMedia : Staged sys rel SameMedia :=
  staged_of_outbound (fun _ _ => .of_outbound) (fun _ _ => ⟨rfl, rfl⟩) fun _ _ _ _ _ => ⟨rfl, rfl⟩

theorem sameMedia_replySync (state : PolicyState) : Keeps SameMedia (replySync sys rel state) := by
  refine keeps_clock fun now => ?_
  split
  · refine keeps_bind (keeps_writeDb fun _ => ⟨rfl, rfl⟩) fun _ => ?_
    exact keeps_returns (sameMedia_sendEnvelope _ _)
  · exact keeps_pure _

theorem sameMedia_of_dispatches (dispatches : Dispatches sys rel eng plain env filed) :
    SameMedia eng filed := by
  obtain ⟨attachments, chunks⟩ := staged_sameMedia.dispatches dispatches
  exact ⟨attachments, chunks⟩

theorem erased_handlePlaintext (dispatches : Dispatches sys rel eng plain env filed) :
    Erased (final ((handlePlaintext sys rel plain).run eng)).db
      head ↔ Erased (final ((dispatch sys rel env).run filed)).db
        head :=
  (staged_sameMedia.tail dispatches).erased_iff

theorem sameMedia_sendDelete (target : MsgId) : Keeps SameMedia (sendDelete sys rel target) := by
  refine keeps_bind (sameMedia_sendEnvelope _ _) fun sent => ?_
  refine keeps_clock fun now => ?_
  refine keeps_bind (keeps_writeDb fun _ => ⟨rfl, rfl⟩) fun _ => ?_
  exact keeps_returns (keeps_writeDb fun _ => ⟨rfl, rfl⟩)

theorem sameMedia_sendDeleteAll : Keeps SameMedia (sendDeleteAll sys rel) := by
  refine keeps_bind (sameMedia_sendEnvelope _ _) fun sent => ?_
  refine keeps_bind (keeps_writeDb fun _ => ⟨rfl, rfl⟩) fun _ => ?_
  exact keeps_returns (keeps_writeDb fun _ => ⟨rfl, rfl⟩)

theorem sameMedia_closeContact : Keeps SameMedia (closeContact sys rel) := by
  refine keeps_read fun db => ?_
  split
  · exact keeps_pure _
  · refine keeps_bind (keeps_read fun db => ?_) fun _ => ?_
    · refine keeps_clock fun now => ?_
      split
      · exact keeps_pure _
      · exact keeps_bind (keeps_writeDb fun _ => ⟨rfl, rfl⟩) fun _ =>
          keeps_writeDb fun _ => ⟨rfl, rfl⟩
    · refine keeps_bind (sameMedia_sendEnvelope _ _) fun cleared => ?_
      refine keeps_bind (sameMedia_sendEnvelope _ _) fun closed => ?_
      exact keeps_bind (keeps_writeDb fun _ => ⟨rfl, rfl⟩) fun _ =>
        keeps_writeDb fun _ => ⟨rfl, rfl⟩

/-! A burned relationship takes its transfers along, and their chunks. -/

structure MediaLess (burned : RelId → Prop) (before after : Db) : Prop where
  attachments : ∀ row, row ∈ after.attachments ↔ row ∈ before.attachments ∧ ¬ burned row.relId
  chunks : ∀ chunk, chunk ∈ after.chunks ↔ chunk ∈ before.chunks ∧
    ∀ row, before.attachment chunk.headId = some row → ¬ burned row.relId

theorem MediaLess.refl (db : Db) : MediaLess (fun _ => False) db db :=
  ⟨fun _ => (and_iff_left id).symm, fun _ => (and_iff_left fun _ _ => id).symm⟩

variable {burned : RelId → Prop}

theorem MediaLess.attachment (less : MediaLess burned before after)
    (head : MsgId) (row : AttachmentRow) :
    after.attachment head = some row ↔ before.attachment head = some row ∧ ¬ burned row.relId := by
  unfold Db.attachment
  rw [Table.lookup_eq_some, Table.lookup_eq_some, less.attachments]
  tauto

theorem MediaLess.trans (left : MediaLess first before middle)
    (right : MediaLess second middle after) :
    MediaLess (fun rel => first rel ∨ second rel) before after := by
  refine ⟨fun row => ?_, fun chunk => ?_⟩
  · rw [right.attachments, left.attachments]
    tauto
  · rw [right.chunks, left.chunks]
    constructor
    · rintro ⟨⟨mem, kept⟩, later⟩
      refine ⟨mem, fun row found => not_or.mpr ⟨kept row found, ?_⟩⟩
      exact later row ((left.attachment _ row).mpr ⟨found, kept row found⟩)
    · rintro ⟨mem, kept⟩
      refine ⟨⟨mem, fun row found => (not_or.mp (kept row found)).1⟩, ?_⟩
      intro row found
      exact (not_or.mp (kept row ((left.attachment _ row).mp found).1)).2

theorem MediaLess.congr (less : MediaLess burned before after)
    (same : ∀ rel, burned rel ↔ other rel) :
    MediaLess other before after :=
  funext (fun rel => propext (same rel)) ▸ less

theorem mediaLess_burn (rel : RelId) (db : Db) : MediaLess (· = rel) db (db.burn rel) := by
  refine ⟨fun row => ?_, fun chunk => ?_⟩
  · refine Table.mem_delete.trans ?_
    simp
  · refine Table.mem_delete.trans (and_congr_right fun _ => ?_)
    show ((db.attachment chunk.headId).any fun row => row.relId = rel) = false ↔ _
    cases db.attachment chunk.headId with
    | none => simp
    | some row => simp

/-- Whether the sweep burns what is closing here. -/
def settles (eng : Engine) (row : RelationshipRow) : Bool :=
  (eng.db.outbox.select fun entry => entry.relId = row.relId).isEmpty ||
    decide ((eng.db.closeStartedAt row.relId).getD row.createdAt + closeSettleSecs ≤ eng.clock)

theorem settles_burn (clock : after.clock = before.clock)
    (db : after.db = before.db.burn rel) (other : row.relId ≠ rel) :
    settles after row = settles before row := by
  have outbox : (after.db.outbox.select fun entry => entry.relId = row.relId) =
        before.db.outbox.select fun entry => entry.relId = row.relId := by
    rw [db]
    refine Table.select_delete_of_disjoint fun entry _ hit => ?_
    simp only [decide_eq_true_eq] at hit
    simp [hit, Ne.symm other]
  have started : after.db.closeStartedAt row.relId = before.db.closeStartedAt row.relId := by
    rw [db]
    refine congrArg (Option.map _) ((Table.lookup_delete_key rel row.relId).trans ?_)
    rw [if_neg other]
  unfold settles
  rw [outbox, started, clock]

theorem run_settleClosing_eq (known : eng.db.relationship row.relId = some contact) :
    ∃ events next, (settleClosing row).run eng = .ok events next ∧
      next.clock = eng.clock ∧
      next.db = if settles eng row then eng.db.burn row.relId
        else eng.db := by
  unfold settleClosing
  rw [bind_now, bind_readDb]
  simp only
  rw [show ((eng.db.outbox.select fun entry => entry.relId =
      row.relId).isEmpty || decide ((eng.db.closeStartedAt row.relId).getD
      row.createdAt + closeSettleSecs ≤ eng.clock)) = settles eng row from
      rfl]
  split
  · have burned : ∃ next, (burnRelationship row.relId).run eng =
        .ok () next ∧ next.clock = eng.clock ∧
          next.db = eng.db.burn row.relId := by
      unfold burnRelationship
      rw [bind_readDb, known]
      exact ⟨_, rfl, rfl, rfl⟩
    obtain ⟨next, ran, clock, db⟩ := burned
    rw [run_bind_ok ran]
    exact ⟨_, next, rfl, clock, db⟩
  · exact ⟨_, eng, rfl, rfl, rfl⟩

theorem mediaLess_settleAll {rows : List RelationshipRow} {eng : Engine}
    (distinct : (rows.map RelationshipRow.relId).Nodup)
    (known : ∀ row ∈ rows, (eng.db.relationship row.relId).isSome = true) :
    ∃ events next, (settleAll rows).run eng = .ok events next ∧
      MediaLess (fun rel => ∃ row ∈ rows, settles eng row = true ∧
        row.relId = rel) eng.db next.db := by
  induction rows generalizing eng with
  | nil => exact ⟨[], eng, rfl, (MediaLess.refl _).congr (by simp)⟩
  | cons row rest ih =>
    obtain ⟨contact, found⟩ := Option.isSome_iff_exists.mp (known row List.mem_cons_self)
    obtain ⟨first, middle, settled, clock, db⟩ := run_settleClosing_eq found
    have apart : ∀ other ∈ rest, other.relId ≠ row.relId := by
      intro other mem same
      exact (List.nodup_cons.mp distinct).1 (same ▸ List.mem_map_of_mem mem)
    have same : ∀ other ∈ rest, settles middle other = settles eng other ∧
        middle.db.relationship other.relId = eng.db.relationship other.relId := by
      intro other mem
      split at db
      · refine ⟨settles_burn clock db (apart other mem), ?_⟩
        rw [db]
        exact (Table.lookup_delete_key row.relId other.relId).trans (if_neg (apart other mem))
      · unfold settles
        rw [db, clock]
        exact ⟨rfl, rfl⟩
    have head : MediaLess (fun rel => settles eng row = true ∧
        row.relId = rel) eng.db middle.db := by
      rw [db]
      split
      · rename_i hit
        exact (mediaLess_burn row.relId eng.db).congr fun rel => by
          simp [hit, eq_comm]
      · rename_i kept
        exact (MediaLess.refl eng.db).congr fun rel => by simp [kept]
    obtain ⟨others, next, ran, tail⟩ := @ih middle
      (List.nodup_cons.mp distinct).2 fun other mem => by
        rw [(same other mem).2]
        exact known other (.tail _ mem)
    refine ⟨first ++ others, next, ?_, (head.trans tail).congr fun rel => ?_⟩
    · unfold settleAll
      rw [run_bind_ok settled, run_bind_ok ran]
      rfl
    · rw [List.exists_mem_cons_iff]
      refine or_congr_right (exists_congr fun other => ?_)
      exact and_congr_right fun mem => by rw [(same other mem).1]

def Settles (eng : Engine) (rel : RelId) : Prop :=
  ∃ row ∈ closingRows eng.db, settles eng row = true ∧ row.relId = rel

theorem mediaLess_sweep (eng : Engine) :
    MediaLess (Settles eng) eng.db (final (sweep.run eng)).db := by
  have known : ∀ row ∈ closingRows eng.db, (eng.db.relationship row.relId).isSome = true := by
    intro row mem
    rw [show eng.db.relationship row.relId = some row from
      Table.lookup_key (Table.mem_select.mp mem).1]
    rfl
  have distinct : ((closingRows eng.db).map RelationshipRow.relId).Nodup :=
    (List.filter_sublist.map _).nodup eng.db.relationships.nodup
  obtain ⟨closed, settled, ran, less⟩ := @mediaLess_settleAll (closingRows eng.db)
    { eng with db := eng.db.sweepExpired eng.clock } distinct known
  have swept : (final (sweep.run eng)).db =
      (pruneAllTombstones eng.clock settled.db).sweepCache eng.clock := by
    unfold sweep
    rw [bind_now, bind_writeDb, bind_readDb]
    rw [show closingRows ({ eng with
        db := eng.db.sweepExpired eng.clock } : Engine).db =
          closingRows eng.db from rfl, run_bind_ok ran]
    rfl
  have rest := pruneAllTombstones_rest eng.clock settled.db
  rw [swept]
  refine ⟨fun row => ?_, fun chunk => ?_⟩
  · refine Iff.trans (iff_of_eq ?_) (less.attachments row)
    exact (congrArg (fun db => row ∈ db.attachments) rest :)
  · refine Iff.trans (iff_of_eq ?_) (less.chunks chunk)
    exact (congrArg (fun db => chunk ∈ db.chunks) rest :)

theorem MediaLess.erased_iff (less : MediaLess burned before after) : Erased after head ↔
      (∀ row ∈ before.attachments, row.msgId = head → burned row.relId) ∧
      ∀ chunk ∈ before.chunks, chunk.headId = head →
        ∃ row, before.attachment head = some row ∧ burned row.relId := by
  constructor
  · rintro ⟨attachments, chunks⟩
    refine ⟨fun row mem same => ?_, fun chunk mem same => ?_⟩
    · by_contra kept
      exact attachments row ((less.attachments row).mpr ⟨mem, kept⟩) same
    · by_contra none
      refine chunks chunk ((less.chunks chunk).mpr ⟨mem, ?_⟩) same
      intro row found burns
      exact none ⟨row, same ▸ found, burns⟩
  · rintro ⟨attachments, chunks⟩
    refine ⟨fun row mem same => ?_, fun chunk mem same => ?_⟩
    · obtain ⟨filed, kept⟩ := (less.attachments row).mp mem
      exact kept (attachments row filed same)
    · obtain ⟨filed, kept⟩ := (less.chunks chunk).mp mem
      obtain ⟨row, found, burns⟩ := chunks chunk filed same
      exact kept row (same ▸ found) burns

end SChatCore.Erasure
