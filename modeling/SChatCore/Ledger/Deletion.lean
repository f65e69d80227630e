import SChatCore.Ledger.Retention

namespace SChatCore.Ledger

open Data Data.Action Wire Store Policy Engine

/-! Where a row on file comes from, one write back. -/

/-- An earlier row, or one that a known contact just brought about: under an id
of our own, or uncut. -/
def Origin (sys : Platform) (floor : Nat) (before : Engine) (row : MessageRow) : Prop :=
  (∃ old ∈ before.db.messages, Heir old row) ∨ (before.db.relationship row.relId).isSome = true ∧
      ((∃ index, floor ≤ index ∧ index < before.draws ∧ row.msgId = sys.randomMsgId index) ∨
        ∃ env : Envelope, row.msgId = env.msgId ∧ row.direction = .in_ ∧
          row.envType = env.envelopeType.code ∧
          isCut row.relId env before.clock before.db = false)

/-- The contact is there if it was, and broken if it was. -/
def Stays (rel : RelId) (before after : Db) : Prop :=
  ∃ assign : RelationshipRow → RelationshipRow,
    after.relationship rel = (before.relationship rel).map assign ∧
      ∀ row, row.sessionState = .broken → (assign row).sessionState = .broken

theorem stays_of_same {before after : Db} (rows : after.relationships = before.relationships) :
    Stays rel before after :=
  ⟨id, (congrArg (·.lookup rel) rows).trans Option.map_id'.symm, fun _ => id⟩

theorem stays_of_update {before after : Db} (rows : after.relationships =
      (before.updateRelationship other assign keepsKey).relationships)
    (kept : ∀ row, row.sessionState = .broken → (assign row).sessionState = .broken) :
    Stays rel before after := by
  have looked := (congrArg (·.lookup rel) rows).trans
    (Db.relationship_updateRelationship other rel assign keepsKey before)
  split at looked
  · rename_i own
    exact ⟨assign, looked.trans (own ▸ rfl), kept⟩
  · exact ⟨id, looked.trans Option.map_id'.symm, fun _ => id⟩

section

variable {guard : Book → Move → Prop} {before after : Engine}

theorem Write.origin (write : Write sys guard floor before after)
    (mem : row ∈ after.db.messages) : Origin sys floor before row := by
  obtain ⟨old, filed, heir, -⟩ | ⟨-, lasts, fresh⟩ := write.source mem
  · exact .inl ⟨old, filed, heir⟩
  · obtain ⟨contact, found, -⟩ := lasts_of_messageExpiry lasts
    exact .inr ⟨Option.isSome_iff_exists.mpr ⟨contact, found⟩, fresh⟩

theorem Write.contacts (write : Write sys guard floor before after)
    (rel : RelId) : after.db.relationship rel = none ∨ Stays rel before.db after.db := by
  cases write with
  | aside aside => exact .inr (stays_of_same (congrArg Db.relationships aside.db :))
  | note rest | media rest => exact .inr (stays_of_same (congrArg Db.relationships rest :))
  | contact _ _ kept => exact .inr (stays_of_update rfl kept)
  | raise | close => exact .inr (stays_of_update rfl fun _ => id)
  | @agree other next outcome =>
    refine .inr (@stays_of_update other (saved next) (fun _ => rfl) _ _ _ ?_ fun _ => id)
    exact (congrArg Db.relationships (clampAndErase_rest _ outcome _) :)
  | cipher _ stored =>
    obtain ⟨ciphertexts, -, rfl⟩ := storeCiphertext_eq_ok stored
    exact .inr (stays_of_same rfl)
  | post _ _ _ inserted | deliver _ _ _ inserted =>
    obtain ⟨messages, -, rfl⟩ := Db.insertMessage_eq_ok.mp inserted
    exact .inr (stays_of_same rfl)
  | enqueue _ queued =>
    obtain ⟨outbox, -, rfl⟩ := Db.enqueue_eq_ok.mp queued
    exact .inr (stays_of_same rfl)
  | @burn other =>
    have left : (before.db.burn other).relationship rel = _ := Table.lookup_delete_key other rel
    split at left
    · exact .inl left
    · exact .inr ⟨id, left.trans Option.map_id'.symm, fun _ => id⟩
  | _ => exact .inr (stays_of_same rfl)

theorem Write.relationship (write : Write sys guard floor before after)
    (absent : before.db.relationship rel = none) :
    after.db.relationship rel = none := by
  obtain gone | ⟨assign, changed, -⟩ := write.contacts rel
  · exact gone
  · rw [changed, absent]
    rfl

end

def Historic (row : MessageRow) : Prop := ∃ t, t.code = row.envType ∧ isHistoryType t = true

/-- The tombstone stands until the deadline, and what is on file of the target
is blank. -/
structure Buried (rel : RelId) (target : MsgId) (deadline : Nat) (db : Db) :
    Prop where
  marked : ∃ row ∈ db.tombstones, row.relId = rel ∧ row.refId = target ∧ deadline ≤ row.expiry
  blank : ∀ row ∈ db.messages, row.relId = rel → row.msgId = target →
    Historic row → row.tombstone = true

theorem Buried.isTombstoned {deadline now : Nat}
    (buried : Buried rel target deadline db) (early : now < deadline) :
    db.isTombstoned rel target now = true := by
  obtain ⟨row, mem, rfl, rfl, late⟩ := buried.marked
  unfold Db.isTombstoned
  rw [show db.tombstones.lookup (row.relId, row.refId) = some row from
    Table.lookup_key mem]
  exact decide_eq_true (lt_of_lt_of_le early late)

def Hidden (rel : RelId) (target : MsgId) (deadline : Nat) (db : Db) : Prop :=
  Buried rel target deadline db ∨ Gone rel db

theorem gone_write {guard : Book → Move → Prop} (gone : Gone rel before.db)
    (write : Write sys guard floor before after) :
    Gone rel after.db := by
  refine ⟨write.relationship gone.relationship, fun row mem own => ?_⟩
  rcases write.origin mem with ⟨old, filed, heir⟩ | ⟨known, -⟩
  · exact gone.messages old filed (heir.relId.trans own)
  · rw [own, gone.relationship] at known
    cases known

theorem Buried.blank_write {guard : Book → Move → Prop}
    (buried : Buried rel target deadline before.db) (early : before.clock < deadline)
    (minted : ∀ index, floor ≤ index → index < before.draws → sys.randomMsgId index ≠ target)
    (write : Write sys guard floor before after)
    (mem : row ∈ after.db.messages) (own : row.relId = rel)
    (same : row.msgId = target) (historic : Historic row) :
    row.tombstone = true := by
  rcases write.origin mem with ⟨old, filed, heir⟩ | ⟨-, fresh⟩
  · obtain ⟨t, code, history⟩ := historic
    exact heir.blank (buried.blank old filed (heir.relId.trans own)
      (heir.msgId.trans same) ⟨t, code.trans heir.envType.symm, history⟩)
  · rcases fresh with ⟨index, above, drawn, own⟩ | ⟨env, named, -, typed, uncut⟩
    · exact absurd (own.symm.trans same) (minted index above drawn)
    · obtain ⟨t, code, history⟩ := historic
      obtain rfl : t = env.envelopeType := by
        have codes := congrArg EnvelopeType.fromCode (code.trans typed)
        simpa using codes
      have tombstoned := buried.isTombstoned early
      rw [← same, named] at tombstoned
      simp [isCut, shouldDropInbound, own, history, tombstoned] at uncut

theorem mem_addTombstone {now : Nat} {db : Db} (mem : row ∈ db.tombstones) :
    row ∈ (db.addTombstone other ref now).tombstones ∨
      { row with expiry := now + Db.tombstoneTtlSec } ∈
        (db.addTombstone other ref now).tombstones := by
  unfold Db.addTombstone
  simp only
  split
  · rename_i inserted
    exact .inl ((Table.mem_insert inserted).mpr (.inl mem))
  · by_cases hit : row.relId = other ∧ row.refId = ref
    · exact .inr (Table.mem_update_of_chosen mem (by simp [hit]))
    · exact .inl (Table.mem_update_of_not_chosen mem (by simpa using hit))

theorem Write.tombstone_kept {guard : Book → Move → Prop}
    (write : Write sys guard floor before after)
    (unpruned : ∀ book other, ¬ guard book (.prune other)) (mem : row ∈ before.db.tombstones) :
    row ∈ after.db.tombstones ∨ { row with expiry := before.clock + Db.tombstoneTtlSec } ∈
        after.db.tombstones ∨ Gone row.relId after.db := by
  have same : after.db.tombstones = before.db.tombstones → row ∈ after.db.tombstones ∨
      { row with expiry := before.clock + Db.tombstoneTtlSec } ∈
        after.db.tombstones ∨ Gone row.relId after.db :=
    fun rows => .inl (rows ▸ mem)
  cases write with
  | aside aside => exact same (congrArg Db.tombstones aside.db :)
  | note rest | media rest => exact same (congrArg Db.tombstones rest :)
  | @agree other next outcome =>
    exact same (congrArg Db.tombstones
      (clampAndErase_rest other outcome (savePolicy other next _)) :)
  | tombstone => exact (mem_addTombstone mem).imp id .inl
  | prune allowed => exact absurd allowed (unpruned _ _)
  | cipher _ stored =>
    obtain ⟨ciphertexts, -, rfl⟩ := storeCiphertext_eq_ok stored
    exact same rfl
  | post _ _ _ inserted | deliver _ _ _ inserted =>
    obtain ⟨messages, -, rfl⟩ := Db.insertMessage_eq_ok.mp inserted
    exact same rfl
  | enqueue _ queued =>
    obtain ⟨outbox, -, rfl⟩ := Db.enqueue_eq_ok.mp queued
    exact same rfl
  | @burn other =>
    by_cases own : row.relId = other
    · exact .inr (.inr (own ▸ gone_burn _ _))
    · exact .inl (Table.mem_delete.mpr ⟨mem, by simpa using own⟩)
  | _ => exact same rfl

theorem Hidden.write {guard : Book → Move → Prop} (hidden : Hidden rel target deadline before.db)
    (unpruned : ∀ book other, ¬ guard book (.prune other))
    (due : deadline ≤ before.clock + Db.tombstoneTtlSec) (early : before.clock < deadline)
    (minted : ∀ index, floor ≤ index → index < before.draws → sys.randomMsgId index ≠ target)
    (write : Write sys guard floor before after) :
    Hidden rel target deadline after.db := by
  rcases hidden with buried | gone
  · obtain ⟨row, mem, rfl, rfl, late⟩ := buried.marked
    have blank : ∀ other ∈ after.db.messages, other.relId = row.relId →
        other.msgId = row.refId → Historic other → other.tombstone = true :=
      fun other => buried.blank_write early minted write
    rcases write.tombstone_kept unpruned mem with kept | renewed | gone
    · exact .inl ⟨⟨row, kept, rfl, rfl, late⟩, blank⟩
    · exact .inl ⟨⟨_, renewed, rfl, rfl, due⟩, blank⟩
    · exact .inr gone
  · exact .inr (gone_write gone write)

/-- Over a run of writes: the clock and the ids drawn only grow, so the bounds
at its end hold all along. -/
theorem Hidden.writes {guard : Book → Move → Prop} (hidden : Hidden rel target deadline before.db)
    (unpruned : ∀ book other, ¬ guard book (.prune other))
    (due : deadline ≤ before.clock + Db.tombstoneTtlSec)
    (writes : Writes sys guard floor before after) (early : after.clock < deadline)
    (minted : ∀ index, floor ≤ index → index < after.draws → sys.randomMsgId index ≠ target) :
    Hidden rel target deadline after.db ∧ before.clock ≤ after.clock := by
  induction writes with
  | refl => exact ⟨hidden, le_rfl⟩
  | tail _ write ih =>
    have earlier := lt_of_le_of_lt write.clock_le early
    have fewer := fun index above drawn =>
      minted index above (lt_of_lt_of_le drawn write.draws_le)
    obtain ⟨kept, later⟩ := ih earlier fewer
    refine ⟨kept.write unpruned ?_ earlier fewer write, later.trans write.clock_le⟩
    exact due.trans (Nat.add_le_add_right later _)

section

variable {db : Db} {now : Nat}

theorem mem_pruneTombstones (mem : row ∈ db.tombstones) (live : now < row.expiry)
    (capped : db.tombstoneCount row.relId ≤ Db.tombstoneCap) :
    row ∈ (db.pruneTombstones rel now).tombstones := by
  refine Table.mem_delete.mpr ⟨Table.mem_delete.mpr ⟨mem, ?_⟩, ?_⟩
  · simp [Nat.not_le.mpr live]
  · by_cases own : row.relId = rel
    · subst own
      rw [List.drop_eq_nil_of_le]
      · simp
      · rw [List.length_insertionSort]
        exact (Table.length_select_le (fun _ kept =>
          (Table.mem_delete.mp kept).1) _).trans capped
    · simp [own]

theorem mem_pruneAllTombstones (mem : row ∈ db.tombstones) (live : now < row.expiry)
    (capped : db.tombstoneCount row.relId ≤ Db.tombstoneCap) :
    row ∈ (pruneAllTombstones now db).tombstones := by
  have pruned : ∀ (contacts : List RelationshipRow) (db : Db),
      row ∈ db.tombstones → db.tombstoneCount row.relId ≤ Db.tombstoneCap →
      row ∈ (contacts.foldl (fun db contact =>
        db.pruneTombstones contact.relId now) db).tombstones := by
    intro contacts
    induction contacts with
    | nil => exact fun _ mem _ => mem
    | cons contact rest ih =>
      intro db mem capped
      refine ih _ (mem_pruneTombstones mem live capped) ?_
      refine (Table.length_select_le (fun other kept => ?_) _).trans capped
      exact (Table.mem_delete.mp (Table.mem_delete.mp kept).1).1
  exact pruned _ db mem capped

theorem Hidden.sweep (hidden : Hidden rel target deadline before.db)
    (capped : before.db.tombstoneCount rel ≤ Db.tombstoneCap) (early : before.clock < deadline)
    (ran : Engine.sweep.run before = .ok events after) :
    Hidden rel target deadline after.db := by
  obtain ⟨others, settled, next, swept, fewer, -, db⟩ := run_sweep before
  cases swept.symm.trans ran
  have messages : after.db.messages = settled.db.messages := by
    rw [db]
    exact messages_pruneAllTombstones _ _
  have relationship : after.db.relationship rel =
      settled.db.relationship rel := by
    rw [db]
    exact (congrArg (Db.relationship · rel) (pruneAllTombstones_rest _ _) :)
  have filed : ∀ row ∈ after.db.messages, row ∈ before.db.messages := by
    intro row mem
    rw [messages] at mem
    exact (Table.mem_delete.mp (fewer.messages row mem)).1
  rcases hidden with buried | gone
  · obtain ⟨row, mem, rfl, rfl, late⟩ := buried.marked
    rcases fewer.kept row.relId with gone | kept
    · exact .inr ⟨relationship.trans gone.relationship, fun other mem =>
        gone.messages other (messages ▸ mem)⟩
    · refine .inl ⟨⟨row, ?_, rfl, rfl, late⟩, fun other mem =>
        buried.blank other (filed other mem)⟩
      rw [db]
      refine mem_pruneAllTombstones (kept row mem rfl) (lt_of_lt_of_le early late) ?_
      exact (Table.length_select_le fewer.tombstones _).trans capped
  · exact .inr ⟨relationship.trans (fewer.contacts rel gone.relationship),
      fun other mem => gone.messages other (filed other mem)⟩

end

/-- A step with no more tombstones on file than the sweep keeps, and the
relationship not paired anew. -/
structure Afterwards (sys : Platform) (rel : RelId)
    (before after : Engine) : Prop where
  operation : Operation sys before after
  capped : before.db.tombstoneCount rel ≤ Db.tombstoneCap
  unpaired : before.db.relationship rel = none → after.db.relationship rel = none

theorem Operation.grows (step : Operation sys before after) :
    before.draws ≤ after.draws ∧ before.clock ≤ after.clock := by
  rcases step.follows with ⟨row, rfl⟩ | ⟨leave, follows, -⟩
  · obtain ⟨relationships, ran⟩ := run_insertRelationship row before
    rw [ran]
    exact ⟨le_rfl, le_rfl⟩
  · refine ⟨Writes.draws_le follows, ?_⟩
    exact @Writes.invariant _ _ _ _ _ (fun eng =>
      before.clock ≤ eng.clock) (fun _ _ write later =>
        later.trans write.clock_le) follows le_rfl

theorem grows_of_run (run : Relation.ReflTransGen (Afterwards sys rel) before after) :
    before.draws ≤ after.draws ∧ before.clock ≤ after.clock := by
  induction run with
  | refl => exact ⟨le_rfl, le_rfl⟩
  | tail _ step ih =>
    obtain ⟨draws, clock⟩ := step.operation.grows
    exact ⟨ih.1.trans draws, ih.2.trans clock⟩

theorem Hidden.afterwards (hidden : Hidden rel target deadline before.db)
    (due : deadline ≤ before.clock + Db.tombstoneTtlSec) (step : Afterwards sys rel before after)
    (drawn : floor ≤ before.draws) (early : after.clock < deadline)
    (minted : ∀ index, floor ≤ index → index < after.draws → sys.randomMsgId index ≠ target) :
    Hidden rel target deadline after.db := by
  rcases step.operation.follows with ⟨row, rfl⟩ | ⟨leave, follows, sweeps⟩
  · obtain ⟨relationships, ran⟩ := run_insertRelationship row before
    have unpaired := step.unpaired
    rw [ran] at unpaired ⊢
    rcases hidden with buried | gone
    · exact .inl ⟨buried.marked, buried.blank⟩
    · exact .inr ⟨unpaired gone.relationship, gone.messages⟩
  · by_cases prunes : leave.prunes
    · obtain ⟨events, ran⟩ := sweeps prunes
      exact hidden.sweep step.capped (lt_of_le_of_lt step.operation.grows.2 early) ran
    · refine (hidden.writes (fun book other allowed => ?_) due follows early
        fun index above => minted index (drawn.trans above)).1
      exact allowed.elim id prunes

theorem Hidden.run (hidden : Hidden rel target deadline before.db)
    (due : deadline ≤ before.clock + Db.tombstoneTtlSec)
    (run : Relation.ReflTransGen (Afterwards sys rel) before after)
    (drawn : floor ≤ before.draws) (early : after.clock < deadline)
    (minted : ∀ index, floor ≤ index → index < after.draws → sys.randomMsgId index ≠ target) :
    Hidden rel target deadline after.db := by
  induction run with
  | refl => exact hidden
  | tail earlier step ih =>
    obtain ⟨more, later⟩ := grows_of_run earlier
    obtain ⟨draws, clock⟩ := step.operation.grows
    have held := ih (lt_of_le_of_lt clock early)
      fun index above drawn => minted index above (lt_of_lt_of_le drawn draws)
    exact held.afterwards (due.trans (Nat.add_le_add_right later _)) step
      (drawn.trans more) early minted

section

variable {rel : RelId} {target : MsgId}

theorem marked_addTombstone (db : Db) (now : Nat) :
    { relId := rel, refId := target, expiry := now + Db.tombstoneTtlSec } ∈
      (db.addTombstone rel target now).tombstones := by
  unfold Db.addTombstone
  simp only
  cases inserted : db.tombstones.insert
      { relId := rel, refId := target, expiry := now + Db.tombstoneTtlSec } with
  | some tombstones => exact (Table.mem_insert inserted).mpr (.inr rfl)
  | none =>
    obtain ⟨row, found⟩ := Option.isSome_iff_exists.mp (Table.insert_eq_none.mp inserted)
    obtain ⟨mem, key⟩ := Table.lookup_eq_some.mp found
    cases key
    exact Table.mem_update_of_chosen mem (by simp)

theorem blank_markTombstoned {db : Db} (mem : row ∈ (db.markTombstoned target).messages)
    (same : row.msgId = target) : row.tombstone = true := by
  obtain ⟨old, -, rfl⟩ := List.mem_map.mp mem
  split
  · rfl
  · rename_i other
    rw [if_neg other] at same
    simp [same] at other

theorem run_applyDelete {env : Envelope} (names : env.refId = some target) :
    ∃ events next, (applyDelete rel env).run eng = .ok events next ∧
      next.clock = eng.clock ∧ next.draws = eng.draws ∧
      Buried rel target (eng.clock + Db.tombstoneTtlSec) next.db := by
  unfold applyDelete
  rw [names]
  refine ⟨_, _, rfl, rfl, rfl, ⟨_, marked_addTombstone _ _, rfl, rfl, le_rfl⟩, ?_⟩
  exact fun row mem _ same _ => blank_markTombstoned mem same

end

/-- Once a `DELETE` has been dispatched its target stays invisible for the life
of the tombstone. -/
theorem deleted_stays_invisible {sys : Platform} {rel : RelId}
    {target : MsgId} {first filed eng : Engine} {plain : Bytes} {env : Envelope}
    (dispatches : Dispatches sys rel first plain env filed)
    (deletes : env.payload = .delete) (names : env.refId = some target)
    (run : Relation.ReflTransGen (Afterwards sys rel)
      (final ((handlePlaintext sys rel plain).run first)) eng)
    (early : eng.clock < filed.clock + Db.tombstoneTtlSec)
    (minted : ∀ index, filed.draws ≤ index → index < eng.draws → sys.randomMsgId index ≠ target) :
    ∀ row ∈ eng.db.messages, row.relId = rel → row.msgId = target →
      Historic row → row.tombstone = true := by
  obtain ⟨events, next, ran, clock, draws, buried⟩ := @run_applyDelete rel target filed env names
  have dispatched : (dispatch sys rel env).run filed =
      .ok events next := by
    unfold dispatch
    rw [deletes]
    exact ran
  rw [run_handlePlaintext_of_dispatches dispatches, run_bind_ok dispatched,
    if_neg (by simp [Envelope.envelopeType, Payload.envelopeType, deletes])]
    at run
  -- what is left of the envelope is the repair of the gap before it
  have repairs : Keeps (Evolves sys fun _ _ _ => True) (do
      let repair ← closeGap sys rel (admission rel env first).gap
      return events ++ repair : Action (List EngineEvent)) :=
    keeps_returns (evolves_closeGap (permits_anything sys) _)
  have repaired := repairs next
  obtain ⟨more, later⟩ := grows_of_run run
  obtain ⟨hidden, since⟩ := Hidden.writes (.inl buried)
    (fun _ _ => id) (Nat.le_of_eq (by rw [clock])) repaired
    (lt_of_le_of_lt later early) fun index above drawn =>
      minted index (draws ▸ above) (lt_of_lt_of_le drawn more)
  have kept := hidden.run (Nat.add_le_add_right (clock ▸ since) _) run
    (draws ▸ Writes.draws_le repaired) early minted
  rcases kept with buried | gone
  · exact buried.blank
  · exact fun row mem own => absurd own (gone.messages row mem)

def strike : Envelope where
  msgId := List.Vector.replicate 16 9
  appSeq := 1
  sentAt := 0
  refId := some (List.Vector.replicate 16 2)
  payload := .delete

def strikeBytes : Bytes := (strike.encode id).toOption.getD []

def struck : Engine := final ((handlePlaintext .loopback "alice" strikeBytes).run acquainted)

def belated : Envelope where
  msgId := List.Vector.replicate 16 2
  appSeq := 2
  sentAt := 0
  refId := none
  payload := .msg { body := "hi" }

def received : Engine :=
  final ((handlePlaintext .loopback "alice" ((belated.encode id).toOption.getD [])).run struck)

def ticked : Engine := final ((Call.run .loopback (.tick 86399)).run received)

theorem belated_stays_invisible : ticked.clock = 86399 ∧ ticked.db.hasInboundSeq "alice" 2 = true ∧
    ∀ row ∈ ticked.db.messages, row.relId = "alice" →
      row.msgId = belated.msgId → Historic row → row.tombstone = true := by
  have accepts : Accepts .loopback acquainted "alice" strikeBytes strike
      (newRelationship "alice" .inviter .active "" [] false 0) := by
    refine ⟨rfl, relationship_paired _, ⟨?_, ?_, ?_, ?_, ?_⟩⟩
    all_goals decide +kernel
  obtain ⟨filed, dispatches, clock, -⟩ := dispatches_of_inviter accepts rfl rfl rfl
  have known : struck.db.relationship "alice" ≠ none ∧
      received.db.relationship "alice" ≠ none := by decide +kernel
  have first : Afterwards .loopback "alice" struck received :=
    ⟨.inbound struck "alice" _, by decide +kernel, fun absent => absurd absent known.1⟩
  have second : Afterwards .loopback "alice" received ticked :=
    ⟨.call received (.tick 86399), by decide +kernel, fun absent => absurd absent known.2⟩
  have time : ticked.clock = 86399 := by decide +kernel
  refine ⟨time, by decide +kernel, ?_⟩
  refine deleted_stays_invisible dispatches rfl rfl (.tail (.single first) second) ?_ ?_
  · rw [time, clock]
    decide
  · intro index _ drawn
    exact absurd drawn (Nat.not_lt_zero _)

end SChatCore.Ledger
