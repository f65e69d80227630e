import SChatCore.Engine.Drain

namespace SChatCore.Engine

open Data Data.Action Wire Store

/-! The periodic sweep: what is on file only gets less. -/

/-- The relationship is gone, and its messages with it. -/
structure Gone (rel : RelId) (db : Db) : Prop where
  relationship : db.relationship rel = none
  messages : ∀ row ∈ db.messages, row.relId ≠ rel

/-- No message or tombstone is new, and the tombstones of a relationship stay
as long as the relationship does. -/
structure Dwindles (before after : Engine) : Prop where
  clock : after.clock = before.clock
  messages : ∀ row ∈ after.db.messages, row ∈ before.db.messages
  tombstones : ∀ row ∈ after.db.tombstones, row ∈ before.db.tombstones
  contacts : ∀ rel, before.db.relationship rel = none → after.db.relationship rel = none
  kept : ∀ rel, Gone rel after.db ∨
    ∀ row ∈ before.db.tombstones, row.relId = rel → row ∈ after.db.tombstones

instance : IsPreorder Engine Dwindles where
  refl _ := ⟨rfl, fun _ => id, fun _ => id, fun _ => id, fun _ => .inr fun _ mem _ => mem⟩
  trans first second third left right := by
    refine ⟨right.clock.trans left.clock, fun row mem =>
      left.messages row (right.messages row mem), fun row mem =>
      left.tombstones row (right.tombstones row mem), fun rel absent =>
      right.contacts rel (left.contacts rel absent), fun rel => ?_⟩
    rcases right.kept rel with gone | later
    · exact .inl gone
    · rcases left.kept rel with gone | earlier
      · refine .inl ⟨right.contacts rel gone.relationship, ?_⟩
        exact fun row mem => gone.messages row (right.messages row mem)
      · exact .inr fun row mem own => later row (earlier row mem own) own

theorem gone_burn (rel : RelId) (db : Db) : Gone rel (db.burn rel) := by
  refine ⟨?_, fun row mem => ?_⟩
  · show (db.relationships.delete _).lookup rel = none
    rw [Table.lookup_delete]
    cases found : db.relationships.lookup rel with
    | none => rfl
    | some row => simp [(Table.lookup_eq_some.mp found).2]
  · have stays := (Table.mem_delete.mp mem).2
    simpa using stays

theorem dwindles_burn (clock : after.clock = before.clock)
    (db : after.db = before.db.burn rel) : Dwindles before after := by
  refine ⟨clock, fun row mem => ?_, fun row mem => ?_, fun other absent => ?_, fun other => ?_⟩
  · rw [db] at mem
    exact (Table.mem_delete.mp mem).1
  · rw [db] at mem
    exact (Table.mem_delete.mp mem).1
  · rw [db]
    refine (Table.lookup_delete _).trans ?_
    rw [show before.db.relationships.lookup other = none from absent]
    rfl
  · rw [db]
    by_cases same : other = rel
    · exact .inl (same ▸ gone_burn rel before.db)
    · refine .inr fun row mem own => Table.mem_delete.mpr ⟨mem, ?_⟩
      simpa [own] using same

theorem run_burnRelationship (rel : RelId) (eng : Engine) :
    ∃ next, (burnRelationship rel).run eng = .ok () next ∧
      Dwindles eng next := by
  unfold burnRelationship
  rw [bind_readDb]
  split
  · exact ⟨eng, rfl, refl_of Dwindles eng⟩
  · exact ⟨_, rfl, dwindles_burn rfl rfl⟩

theorem run_burnRelationship_of_found (found : eng.db.relationship rel = some row) :
    ∃ next, (burnRelationship rel).run eng = .ok () next ∧
      next.db = eng.db.burn rel := by
  unfold burnRelationship
  rw [bind_readDb, found]
  exact ⟨_, rfl, rfl⟩

theorem run_settleClosing (row : RelationshipRow) (eng : Engine) :
    ∃ events next, (settleClosing row).run eng = .ok events next ∧
      Dwindles eng next := by
  unfold settleClosing
  rw [bind_now, bind_readDb]
  simp only
  split
  · obtain ⟨next, burned, fewer⟩ := run_burnRelationship row.relId eng
    rw [run_bind_ok burned]
    exact ⟨_, next, rfl, fewer⟩
  · exact ⟨_, eng, rfl, refl_of Dwindles eng⟩

theorem run_settleAll (rows : List RelationshipRow) (eng : Engine) :
    ∃ events next, (settleAll rows).run eng = .ok events next ∧
      Dwindles eng next := by
  induction rows generalizing eng with
  | nil => exact ⟨[], eng, rfl, refl_of Dwindles eng⟩
  | cons row rest ih =>
    obtain ⟨first, middle, settled, fewer⟩ := run_settleClosing row eng
    obtain ⟨others, next, ran, rest⟩ := ih middle
    unfold settleAll
    rw [run_bind_ok settled, run_bind_ok ran]
    exact ⟨_, next, rfl, trans_of Dwindles fewer rest⟩

theorem keeps_settleAll {related : Engine → Engine → Prop} [IsPreorder Engine related]
    (burns : ∀ rel, Keeps related (burnRelationship rel))
    (rows : List RelationshipRow) : Keeps related (settleAll rows) := by
  induction rows with
  | nil => exact keeps_pure _
  | cons row rest ih =>
    refine keeps_bind (keeps_clock fun now => keeps_bind keeps_readDb
      fun db => ?_) fun first => keeps_returns ih
    simp only
    split
    · exact keeps_returns (burns _)
    · exact keeps_pure _

theorem pruneAllTombstones_rest (now : Nat) (db : Db) :
    { pruneAllTombstones now db with tombstones := db.tombstones } = db := by
  have pruned : ∀ (rows : List RelationshipRow) (before : Db),
      { rows.foldl (fun db row => db.pruneTombstones row.relId now) before
        with tombstones := db.tombstones } = { before with tombstones := db.tombstones } := by
    intro rows
    induction rows with
    | nil => exact fun _ => rfl
    | cons row rest ih => exact fun before => ih _
  exact pruned _ db

theorem messages_pruneAllTombstones (now : Nat) (db : Db) :
    (pruneAllTombstones now db).messages = db.messages :=
  (congrArg Db.messages (pruneAllTombstones_rest now db) :)

theorem run_sweep (eng : Engine) : ∃ events settled next, sweep.run eng = .ok events next ∧
      Dwindles { eng with db := eng.db.sweepExpired eng.clock } settled ∧
      next.clock = eng.clock ∧ next.db =
        (pruneAllTombstones eng.clock settled.db).sweepCache eng.clock := by
  unfold sweep
  rw [bind_now, bind_writeDb, bind_readDb]
  obtain ⟨closed, settled, ran, fewer⟩ := run_settleAll
    (closingRows (eng.db.sweepExpired eng.clock))
    { eng with db := eng.db.sweepExpired eng.clock }
  rw [run_bind_ok ran]
  exact ⟨_, settled, _, rfl, fewer, fewer.clock, rfl⟩

end SChatCore.Engine
