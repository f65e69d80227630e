import SChatCore.Ledger.Deletion

namespace SChatCore.Ledger

open Data Data.Action Wire Store Engine

/-! A broken session has nothing left to deliver, and stays that way for as
long as there is a contact. -/

structure Quiet (rel : RelId) (book : Book) : Prop where
  settled : ∀ msgId entry, book.entry msgId = some entry →
    entry.relId = rel → entry.direction = .out → ¬ entry.pending
  unqueued : ∀ msgId, book.queued msgId ≠ some rel

section

open Classical

variable {book : Book}

theorem not_pending_failed {entry : Entry} :
    ¬ ({ entry with state := .failed } : Entry).pending := nofun

theorem not_pending_acknowledged {entry : Entry} :
    ¬ ({ entry with state := .acknowledged } : Entry).pending := nofun

theorem Quiet.settle (quiet : Quiet rel book)
    (ends : ∀ entry, book.entry own = some entry → entry.relId = rel →
      entry.direction = .out → ¬ ({ entry with state } : Entry).pending) :
    Quiet rel (book.apply (.settle own state)) := by
  refine ⟨fun msgId entry found mine out => ?_, quiet.unqueued⟩
  obtain ⟨old, listed, changed⟩ := Option.map_eq_some_iff.mp found
  split at changed
  · rename_i same
    subst same changed
    exact ends old listed mine out
  · subst changed
    exact quiet.settled msgId old listed mine out

theorem Quiet.fail (quiet : Quiet rel book) (other : RelId) :
    Quiet rel (book.apply (.fail other)) := by
  constructor
  · intro msgId entry found mine out
    obtain ⟨old, listed, changed⟩ := Option.map_eq_some_iff.mp found
    split at changed
    · subst changed
      exact not_pending_failed
    · subst changed
      exact quiet.settled msgId old listed mine out
  · intro msgId queued
    exact quiet.unqueued msgId (Option.filter_eq_some_iff.mp queued).1

theorem quiet_fail (rel : RelId) (book : Book) : Quiet rel (book.apply (.fail rel)) := by
  constructor
  · intro msgId entry found mine out
    obtain ⟨old, -, changed⟩ := Option.map_eq_some_iff.mp found
    split at changed
    · subst changed
      exact not_pending_failed
    · rename_i kept
      subst changed
      exact fun pending => kept ⟨mine, out, pending⟩
  · intro msgId queued
    obtain ⟨-, other⟩ := Option.filter_eq_some_iff.mp queued
    exact absurd rfl (of_decide_eq_true other)

theorem Quiet.apply (quiet : Quiet rel book) (allowed : Licensed nfc said leave book move)
    (foreign : ∀ msgId entry, move = .write msgId entry →
      entry.direction = .out → entry.relId ≠ rel) :
    Quiet rel (book.apply move) := by
  cases move with
  | hear | raise | close | allocate | speak | prune => exact ⟨quiet.settled, quiet.unqueued⟩
  | write own new =>
    refine ⟨fun msgId entry found mine out => ?_, quiet.unqueued⟩
    rw [Book.entry_write] at found
    split at found
    · cases found
      exact absurd mine (foreign own new rfl out)
    · exact quiet.settled msgId entry found mine out
  | settle own state =>
    refine quiet.settle fun entry found mine out => ?_
    rcases allowed with ⟨-, known, listed, pending⟩ | rfl | ⟨rfl, -⟩
    · cases listed.symm.trans found
      exact absurd pending (quiet.settled own entry found mine out)
    · exact not_pending_failed
    · exact not_pending_acknowledged
  | enqueue own other =>
    refine ⟨quiet.settled, fun msgId queued => ?_⟩
    have before : (if msgId = own then some other else book.queued msgId) =
      some rel := queued
    split at before
    · cases before
      obtain ⟨entry, found, mine, out, pending⟩ := allowed.resolve_right id
      exact quiet.settled own entry found mine out pending
    · exact quiet.unqueued msgId before
  | dequeue gone =>
    refine ⟨quiet.settled, fun msgId queued => ?_⟩
    have before : (if msgId ∈ gone then none else book.queued msgId) =
      some rel := queued
    split at before
    · cases before
    · exact quiet.unqueued msgId before
  | fail other => exact quiet.fail other
  | erase gone =>
    refine ⟨fun msgId entry found mine out => ?_, quiet.unqueued⟩
    rw [Book.entry_erase] at found
    split at found
    · cases found
    · exact quiet.settled msgId entry found mine out
  | burn other =>
    constructor
    · intro msgId entry found mine out
      exact quiet.settled msgId entry (Option.filter_eq_some_iff.mp found).1 mine out
    · intro msgId queued
      exact quiet.unqueued msgId (Option.filter_eq_some_iff.mp queued).1

end

/-- The session is broken and nothing of the contact is on its way. -/
structure Severed (rel : RelId) (eng : Engine) : Prop where
  broken : sessionState eng.db rel = .broken
  quiet : Quiet rel (book eng)

section

variable {guard : Book → Move → Prop}

theorem sessionState_eq_broken :
    sessionState db rel = .broken ↔ ∃ row, db.relationship rel = some row ∧
      row.sessionState = .broken := by
  unfold sessionState
  split
  · rename_i absent
    simp [absent]
  · rename_i row found
    rw [found]
    split
    · rename_i broken
      simp [broken]
    · rename_i active
      simp [active]

theorem Write.broken (write : Write sys guard floor before after)
    (broken : sessionState before.db rel = .broken) :
    after.db.relationship rel = none ∨ sessionState after.db rel = .broken := by
  obtain ⟨row, found, shut⟩ := sessionState_eq_broken.mp broken
  refine (write.contacts rel).imp_right fun ⟨assign, changed, kept⟩ => ?_
  rw [found] at changed
  exact sessionState_eq_broken.mpr ⟨_, changed, kept row shut⟩

theorem Write.severed (write : Write sys (Licensed sys.nfc said leave) floor before
      after) (severed : Severed rel before) :
    after.db.relationship rel = none ∨ Severed rel after := by
  refine (write.broken severed.broken).imp_right fun broken => ⟨broken, ?_⟩
  obtain same | ⟨move, allowed, moved, posts⟩ := write.move
  · rw [same]
    exact severed.quiet
  · rw [← moved]
    refine severed.quiet.apply allowed fun msgId entry written out mine => ?_
    exact posts msgId entry written out (mine ▸ severed.broken)

/-- Whatever follows the ledger's rules leaves a broken session broken, or the
contact is gone. -/
theorem Follows.severed (follows : Follows sys said leave before after)
    (severed : Severed rel before) :
    after.db.relationship rel = none ∨ Severed rel after := by
  refine @Writes.invariant _ _ _ _ _ (fun eng =>
    eng.db.relationship rel = none ∨ Severed rel eng) ?_ follows
    (.inr severed)
  rintro before after write (absent | severed)
  · exact .inl (write.relationship absent)
  · exact write.severed severed

theorem Severed.of_same (severed : Severed rel before)
    (messages : after.db.messages = before.db.messages)
    (outbox : after.db.outbox = before.db.outbox)
    (contact : after.db.relationship rel = before.db.relationship rel) :
    Severed rel after := by
  refine ⟨?_, ?_, ?_⟩
  · rw [sessionState_eq_broken, contact]
    exact sessionState_eq_broken.mp severed.broken
  · intro msgId entry found
    unfold book Db.message at found
    rw [messages] at found
    exact severed.quiet.settled msgId entry found
  · intro msgId queued
    unfold book at queued
    rw [outbox] at queued
    exact severed.quiet.unqueued msgId queued

theorem Evolves.severed (evolves : Evolves sys said before after)
    (severed : Severed rel before) : Severed rel after := by
  refine (Follows.severed (@Evolves.follows _ _ silence _ _ evolves)
    severed).resolve_left fun absent => ?_
  obtain ⟨row, found, -⟩ := sessionState_eq_broken.mp severed.broken
  have same : (after.db.relationship rel).map contactOf =
      (before.db.relationship rel).map contactOf :=
    congrFun (Evolves.contact evolves) rel
  rw [found, absent] at same
  cases same

theorem severed_insertRelationship (row : RelationshipRow) (severed : Severed rel before) :
    Severed rel (final ((insertRelationship row).run before)) := by
  unfold insertRelationship
  rw [bind_readDb]
  split
  · exact severed
  · split
    · rename_i relationships inserted
      refine severed.of_same rfl rfl ?_
      obtain ⟨known, found, -⟩ := sessionState_eq_broken.mp severed.broken
      obtain ⟨fresh, -⟩ := Table.insert_eq_some.mp inserted
      refine (Table.lookup_insert inserted rel).trans (if_neg ?_)
      rintro rfl
      cases fresh.symm.trans found
    · exact severed

theorem severed_markBroken (known : (before.db.relationship rel).isSome) :
    Severed rel (final ((markBroken rel).run before)) := by
  obtain ⟨row, found⟩ := Option.isSome_iff_exists.mp known
  constructor
  · refine sessionState_eq_broken.mpr ⟨{ row with sessionState := .broken }, ?_, rfl⟩
    show (before.db.setBroken rel).relationship rel = _
    rw [Db.setBroken, Db.relationship_updateRelationship, if_pos rfl, found]
    rfl
  · show Quiet rel (book { before with
      db := (before.db.setBroken rel).failRelationshipOutbound rel })
    rw [@book_failRelationshipOutbound { before with
      db := before.db.setBroken rel }]
    exact quiet_fail rel _

theorem Operation.severed (operation : Operation sys before after) (severed : Severed rel before) :
    after.db.relationship rel = none ∨ Severed rel after := by
  obtain ⟨row, rfl⟩ | ⟨leave, follows, -⟩ := operation.follows
  · exact .inr (severed_insertRelationship row severed)
  · exact follows.severed severed

end

theorem run_encrypt_of_broken (sys : Platform)
    (broken : sessionState eng.db rel = .broken) (msgId : MsgId) (now : Nat) :
    (encrypt sys rel msgId plain now).run eng =
      .error (.session (if plain.length > maxEnvelopeBytes then
        .tooLarge plain.length maxEnvelopeBytes
        else relationshipBroken)) eng := by
  unfold encrypt
  rw [bind_readDb, broken]
  split
  · rfl
  · rfl

theorem run_decrypt_of_broken (sys : Platform)
    (broken : sessionState eng.db rel = .broken) (frame : Bytes) (now : Nat) :
    (decrypt sys rel frame now).run eng = .error (.session relationshipBroken) eng := by
  unfold decrypt
  rw [bind_readDb, if_pos broken]
  rfl

end SChatCore.Ledger
