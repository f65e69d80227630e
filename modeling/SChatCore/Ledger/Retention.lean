import SChatCore.Ledger.Once

namespace SChatCore.Ledger

open Data Data.Action Wire Store Policy Engine

/-! Whatever an engine is made to do. -/

inductive Operation (sys : Platform) : Engine → Engine → Prop
  | pair (eng : Engine) (row : RelationshipRow) : Operation sys eng
        (final ((insertRelationship row).run eng))
  | send (eng : Engine) (rel : RelId) (payload : Payload)
      (refId : Option MsgId) : Operation sys eng
        (final ((sendEnvelope sys rel payload refId).run eng))
  | call (eng : Engine) (call : Call) :
      Operation sys eng (final ((call.run sys).run eng))
  | inbound (eng : Engine) (rel : RelId) (plain : Bytes) :
      Operation sys eng (final ((handlePlaintext sys rel plain).run eng))
  | frame (eng : Engine) (rel : RelId) (frame : Bytes) :
      Operation sys eng (final ((receiveFrame sys rel frame).run eng))

theorem run_insertRelationship (row : RelationshipRow) (eng : Engine) :
    ∃ relationships, final ((insertRelationship row).run eng) =
      { eng with db := { eng.db with relationships } } := by
  unfold insertRelationship
  rw [bind_readDb]
  split
  · exact ⟨eng.db.relationships, rfl⟩
  · split
    · exact ⟨_, rfl⟩
    · exact ⟨eng.db.relationships, rfl⟩

theorem not_prunes_plaintextLeave (nfc : String → String) (rel : RelId)
    (plain : Bytes) : ¬ (plaintextLeave nfc rel plain).prunes := by
  unfold plaintextLeave
  split <;> exact id

theorem not_prunes_frameLeave (sys : Platform) (rel : RelId) (eng : Engine) (frame : Bytes) :
    ¬ (frameLeave sys rel eng frame).prunes := by
  unfold frameLeave
  split
  · exact not_prunes_plaintextLeave _ _ _
  · exact id

/-- Pairing is a row of its own; all else follows the ledger's rules, and only
the sweep prunes. -/
theorem Operation.follows {sys : Platform} {before after : Engine}
    (step : Operation sys before after) :
    (∃ row, after = final ((insertRelationship row).run before)) ∨
      ∃ leave, Follows sys (fun _ _ _ => True) leave before after ∧
        (leave.prunes → ∃ events, sweep.run before = .ok events after) := by
  have permits := permits_anything sys
  cases step with
  | pair row => exact .inl ⟨row, rfl⟩
  | send rel payload refId =>
    have sent : Evolves sys (fun _ _ _ => True) before (final
        ((sendEnvelope sys rel payload refId).run before)) :=
      evolves_sendEnvelope refId trivial
    exact .inr ⟨silence, sent.follows, False.elim⟩
  | call call =>
    refine .inr ⟨_, follows_call permits call, fun prunes => ?_⟩
    obtain rfl : call = .sweep := prunes
    obtain ⟨events, -, next, ran, -⟩ := run_sweep before
    refine ⟨events, ran.trans (congrArg _ ?_)⟩
    unfold Call.run
    rw [run_bind_ok ran]
    rfl
  | inbound rel plain =>
    exact .inr ⟨_, follows_handlePlaintext permits plain before,
      fun prunes => absurd prunes (not_prunes_plaintextLeave _ _ _)⟩
  | frame rel frame =>
    exact .inr ⟨_, follows_receiveFrame permits frame,
      fun prunes => absurd prunes (not_prunes_frameLeave _ _ _ _)⟩

/-- It stays what it is, and blank once blank. -/
structure Heir (old row : MessageRow) : Prop where
  msgId : old.msgId = row.msgId
  relId : old.relId = row.relId
  direction : old.direction = row.direction
  envType : old.envType = row.envType
  blank : old.tombstone = true → row.tombstone = true

theorem Heir.refl (row : MessageRow) : Heir row row := ⟨rfl, rfl, rfl, rfl, id⟩

theorem Heir.trans (left : Heir first second) (right : Heir second third) :
    Heir first third :=
  ⟨left.msgId.trans right.msgId, left.relId.trans right.relId,
    left.direction.trans right.direction, left.envType.trans right.envType,
    fun blank => right.blank (left.blank blank)⟩

theorem mem_markTombstoned {db : Db} (mem : row ∈ (db.markTombstoned msgId).messages) :
    ∃ old ∈ db.messages, Heir old row ∧ old.expiresAt = row.expiresAt := by
  obtain ⟨old, filed, rfl⟩ := List.mem_map.mp mem
  refine ⟨old, filed, ?_⟩
  split
  · exact ⟨⟨rfl, rfl, rfl, rfl, fun _ => rfl⟩, rfl⟩
  · exact ⟨Heir.refl old, rfl⟩

theorem mem_eraseAttachMessages (mem : row ∈ (eraseAttachMessages rel db).messages) :
    ∃ old ∈ db.messages, Heir old row ∧ old.expiresAt = row.expiresAt := by
  have erased : ∀ (heads : List MsgId) (db : Db), row ∈ (heads.foldl (fun db headId =>
        eraseAttachMessage headId db) db).messages →
      ∃ old ∈ db.messages, Heir old row ∧ old.expiresAt = row.expiresAt := by
    intro heads
    induction heads with
    | nil => exact fun db mem => ⟨row, mem, Heir.refl row, rfl⟩
    | cons headId rest ih =>
      intro db mem
      obtain ⟨middle, filed, heir, same⟩ := ih _ mem
      obtain ⟨old, stored, earlier, before⟩ := mem_markTombstoned filed
      exact ⟨old, stored, earlier.trans heir, before.trans same⟩
  exact erased _ _ mem

def clampedTo (limit expiresAt : Option Nat) : Option Nat :=
  match limit with
  | some limit => if expiresAt.all (limit < ·) then some limit else expiresAt
  | none => expiresAt

theorem mem_clampAndErase (mem : row ∈ (clampAndErase rel outcome db).messages) :
    ∃ old ∈ db.messages, Heir old row ∧ row.expiresAt =
      if old.relId = rel then clampedTo outcome.clampExpiryTo old.expiresAt
      else old.expiresAt := by
  obtain ⟨clamped, shape, source⟩ := clampAndErase_eq rel outcome db
  have heirs : ∀ row ∈ clamped.messages, ∃ old ∈ db.messages, Heir old row ∧ row.expiresAt =
        if old.relId = rel then clampedTo outcome.clampExpiryTo old.expiresAt
        else old.expiresAt := by
    intro row kept
    obtain ⟨limitless, same⟩ | ⟨limit, limited, rfl⟩ := source
    · exact ⟨row, same ▸ kept, Heir.refl row, by simp [limitless, clampedTo]⟩
    · rw [limited]
      obtain ⟨old, filed, rfl⟩ := List.mem_map.mp kept
      refine ⟨old, filed, ?_, ?_⟩
      · split
        · exact ⟨rfl, rfl, rfl, rfl, id⟩
        · exact Heir.refl old
      · unfold clampedTo
        by_cases own : old.relId = rel
        · by_cases late : old.expiresAt.all (limit < ·) = true
          · simp [own, late]
          · simp [own, late]
        · simp [own]
  rw [shape] at mem
  split at mem
  · obtain ⟨middle, filed, heir, same⟩ := mem_eraseAttachMessages mem
    obtain ⟨old, stored, earlier, expiry⟩ := heirs middle filed
    exact ⟨old, stored, earlier.trans heir, same ▸ expiry⟩
  · exact heirs row mem

def Lasts (ttl : UInt32) (now : Nat) (expiresAt : Option Nat) : Prop :=
  ttl ≠ ttlNever → ∃ expiry, expiresAt = some expiry ∧ expiry ≤ now + ttl.toNat

def Retained (rel : RelId) (eng : Engine) : Prop :=
  ∀ row ∈ eng.db.messages, row.relId = rel → ∃ contact, eng.db.relationship rel = some contact ∧
      Lasts contact.policyTtlSec eng.clock row.expiresAt

theorem Lasts.later {now later : Nat} (lasts : Lasts ttl now expiresAt)
    (after : now ≤ later) : Lasts ttl later expiresAt := by
  intro finite
  obtain ⟨expiry, found, bound⟩ := lasts finite
  exact ⟨expiry, found, bound.trans (Nat.add_le_add_right after _)⟩

theorem lasts_of_messageExpiry {now : Nat} (found : messageExpiry db rel now = .ok expiry) :
    ∃ contact, db.relationship rel = some contact ∧ Lasts contact.policyTtlSec now expiry := by
  unfold messageExpiry at found
  cases loaded : loadPolicy db rel with
  | error error =>
    rw [loaded] at found
    cases found
  | ok state =>
    rw [loaded] at found
    cases found
    obtain ⟨contact, held, rfl⟩ := loadPolicy_eq_ok.mp loaded
    refine ⟨contact, held, fun finite => ?_⟩
    exact ⟨_, if_neg finite, le_rfl⟩

theorem lasts_clamped {now : Nat} (lasts : Lasts old now expiresAt) :
    Lasts new now (clampedTo (horizon old new now) expiresAt) := by
  intro finite
  unfold horizon
  split
  · show ∃ expiry, (if expiresAt.all (now + new.toNat < ·) then
      some (now + new.toNat) else expiresAt) = some expiry ∧ _
    split
    · exact ⟨_, rfl, le_rfl⟩
    · rename_i early
      cases expiresAt with
      | none => exact absurd rfl early
      | some expiry =>
        refine ⟨expiry, rfl, ?_⟩
        simpa using early
  · rename_i grows
    have kept : old ≠ ttlNever ∧ ¬ new < old := not_or.mp fun shrinks => grows ⟨finite, shrinks⟩
    obtain ⟨expiry, found, bound⟩ := lasts kept.1
    have above : old.toNat ≤ new.toNat := UInt32.le_iff_toNat_le.mp (UInt32.not_lt.mp kept.2)
    exact ⟨expiry, found, bound.trans (Nat.add_le_add_left above now)⟩

/-- Where a row on file comes from, one write back: an earlier row, its expiry
cut to the horizon of the agreed TTL, or one that a known contact just brought
about, under an id of our own or uncut. -/
def Source (sys : Platform) (floor : Nat) (before after : Engine) (row : MessageRow) : Prop :=
  (∃ old ∈ before.db.messages, Heir old row ∧
    ∀ contact, before.db.relationship row.relId = some contact →
      ∃ later, after.db.relationship row.relId = some later ∧
        row.expiresAt = clampedTo (horizon contact.policyTtlSec
          later.policyTtlSec before.clock) old.expiresAt) ∨
  after.db.relationship row.relId = before.db.relationship row.relId ∧
    messageExpiry before.db row.relId before.clock = .ok row.expiresAt ∧
    ((∃ index, floor ≤ index ∧ index < before.draws ∧ row.msgId = sys.randomMsgId index) ∨
      ∃ env : Envelope, row.msgId = env.msgId ∧ row.direction = .in_ ∧
        row.envType = env.envelopeType.code ∧
        isCut row.relId env before.clock before.db = false)

section

variable {before after : Engine}

theorem source_of_heir (filed : old ∈ before.db.messages) (heir : Heir old row)
    (expiry : row.expiresAt = old.expiresAt)
    (ttl : ∀ contact, before.db.relationship row.relId = some contact →
      ∃ later, after.db.relationship row.relId = some later ∧
        later.policyTtlSec = contact.policyTtlSec) :
    Source sys floor before after row := by
  refine .inl ⟨old, filed, heir, fun contact found => ?_⟩
  obtain ⟨later, looked, agreed⟩ := ttl contact found
  refine ⟨later, looked, ?_⟩
  rw [agreed, horizon_self]
  exact expiry

theorem ttl_of_same (contacts : after.db.relationships = before.db.relationships)
    (contact : RelationshipRow) (found : before.db.relationship rel = some contact) :
    ∃ later, after.db.relationship rel = some later ∧ later.policyTtlSec = contact.policyTtlSec :=
  ⟨contact, (congrArg (·.lookup rel) contacts).trans found, rfl⟩

theorem source_of_same (rows : after.db.messages = before.db.messages)
    (contacts : after.db.relationships = before.db.relationships) (mem : row ∈ after.db.messages) :
    Source sys floor before after row :=
  source_of_heir (rows ▸ mem) (Heir.refl row) rfl (ttl_of_same contacts)

theorem source_of_update {chosen : MessageRow → Bool} {assign : MessageRow → MessageRow}
    (rows : after.db.messages.rows = before.db.messages.rows.map
      fun row => if chosen row then assign row else row)
    (contacts : after.db.relationships = before.db.relationships)
    (heirs : ∀ row, Heir row (assign row) ∧ (assign row).expiresAt = row.expiresAt)
    (mem : row ∈ after.db.messages) :
    Source sys floor before after row := by
  rw [Table.mem_def, rows] at mem
  obtain ⟨old, filed, rfl⟩ := List.mem_map.mp mem
  split
  · exact source_of_heir filed (heirs old).1 (heirs old).2 (ttl_of_same contacts)
  · exact source_of_heir filed (Heir.refl old) rfl (ttl_of_same contacts)

theorem source_of_contact (ttl : ∀ row, (assign row).policyTtlSec = row.policyTtlSec)
    (mem : row ∈ before.db.messages) :
    Source sys floor before { before with
      db := before.db.updateRelationship other assign keepsKey } row := by
  refine source_of_heir mem (Heir.refl row) rfl fun contact found => ?_
  refine ⟨if row.relId = other then assign contact else contact,
    (Db.relationship_updateRelationship ..).trans ?_, ?_⟩
  · split
    · rename_i same
      rw [← same, found]
      rfl
    · exact found
  · split
    · exact ttl contact
    · rfl

theorem source_of_insert
    (lasts : messageExpiry before.db msg.relId before.clock = .ok msg.expiresAt)
    (inserted : before.db.insertMessage before.clock msg = .ok db)
    (fresh : (∃ index, floor ≤ index ∧ index < before.draws ∧ msg.msgId = sys.randomMsgId index) ∨
      ∃ env : Envelope, msg.msgId = env.msgId ∧ msg.direction = .in_ ∧
        msg.envType = env.envelopeType.code ∧
        isCut msg.relId env before.clock before.db = false)
    (mem : row ∈ db.messages) :
    Source sys floor before { before with db } row := by
  obtain ⟨messages, stored, rfl⟩ := Db.insertMessage_eq_ok.mp inserted
  rcases (Table.mem_insert stored).mp mem with old | rfl
  · exact source_of_heir old (Heir.refl row) rfl (ttl_of_same rfl)
  · exact .inr ⟨rfl, lasts, fresh⟩

theorem source_of_agree (clamped : ∀ row, before.db.relationship other = some row →
      outcome.clampExpiryTo = horizon row.policyTtlSec next.ttlSec before.clock)
    (mem : row ∈ (clampAndErase other outcome (savePolicy other next before.db)).messages) :
    Source sys floor before { before with
      db := clampAndErase other outcome (savePolicy other next before.db) }
      row := by
  obtain ⟨old, filed, heir, expiry⟩ := mem_clampAndErase mem
  have contacts : (clampAndErase other outcome
      (savePolicy other next before.db)).relationship row.relId =
        if row.relId = other then (before.db.relationship other).map (saved next)
        else before.db.relationship row.relId := by
    refine Eq.trans ?_ (Db.relationship_updateRelationship other row.relId
      (saved next) (fun _ => rfl) before.db)
    exact congrArg (·.lookup row.relId) (congrArg Db.relationships
      (clampAndErase_rest other outcome _) :)
  refine .inl ⟨old, filed, heir, fun contact found => ?_⟩
  rw [heir.relId] at expiry
  by_cases same : row.relId = other
  · subst same
    rw [if_pos rfl, found] at contacts
    rw [if_pos rfl, clamped contact found] at expiry
    exact ⟨saved next contact, contacts, expiry⟩
  · rw [if_neg same] at contacts expiry
    refine ⟨contact, contacts.trans found, ?_⟩
    rw [horizon_self]
    exact expiry

theorem Write.clock_le {guard : Book → Move → Prop} (write : Write sys guard floor before after) :
    before.clock ≤ after.clock := by
  cases write with
  | aside aside => exact Nat.le_of_eq aside.clock.symm
  | tick => exact Nat.le_add_right _ _
  | _ => exact le_rfl

theorem Write.source {guard : Book → Move → Prop} (write : Write sys guard floor before after)
    (mem : row ∈ after.db.messages) :
    Source sys floor before after row := by
  cases write with
  | aside aside =>
    exact source_of_same (congrArg Db.messages aside.db :)
      (congrArg Db.relationships aside.db :) mem
  | note same | media same =>
    exact source_of_same (congrArg Db.messages same :) (congrArg Db.relationships same :) mem
  | contact _ ttl => exact source_of_contact ttl mem
  | raise | close => exact source_of_contact (fun _ => rfl) mem
  | agree clamped => exact source_of_agree clamped mem
  | edit | read | settle | fail =>
    exact source_of_update rfl rfl (fun _ => ⟨⟨rfl, rfl, rfl, rfl, id⟩, rfl⟩) mem
  | blank => exact source_of_update rfl rfl (fun _ => ⟨⟨rfl, rfl, rfl, rfl, fun _ => rfl⟩, rfl⟩) mem
  | cipher _ stored =>
    obtain ⟨ciphertexts, -, rfl⟩ := storeCiphertext_eq_ok stored
    exact source_of_same rfl rfl mem
  | post minted _ lasts inserted => exact source_of_insert lasts inserted (.inl minted) mem
  | deliver uncut _ lasts inserted =>
    exact source_of_insert lasts inserted (.inr ⟨_, rfl, rfl, rfl, uncut⟩) mem
  | enqueue _ queued =>
    obtain ⟨outbox, -, rfl⟩ := Db.enqueue_eq_ok.mp queued
    exact source_of_same rfl rfl mem
  | expire | forget =>
    exact source_of_heir (Table.mem_delete.mp mem).1 (Heir.refl row) rfl (ttl_of_same rfl)
  | @burn other =>
    obtain ⟨filed, kept⟩ := Table.mem_delete.mp mem
    refine source_of_heir filed (Heir.refl row) rfl fun contact found =>
      ⟨contact, (Table.lookup_delete_key other row.relId).trans ?_, rfl⟩
    rw [if_neg (by simpa using kept)]
    exact found
  | _ => exact source_of_same rfl rfl mem

end

theorem Retained.write {guard : Book → Move → Prop} (retained : Retained rel before)
    (write : Write sys guard floor before after) :
    Retained rel after := by
  rintro row mem rfl
  obtain ⟨old, filed, heir, clamped⟩ | ⟨same, lasts, -⟩ := write.source mem
  · obtain ⟨contact, found, lasts⟩ := retained old filed heir.relId
    obtain ⟨later, looked, expiry⟩ := clamped contact found
    refine ⟨later, looked, ?_⟩
    rw [expiry]
    exact (lasts_clamped lasts).later write.clock_le
  · obtain ⟨contact, found, lasts⟩ := lasts_of_messageExpiry lasts
    exact ⟨contact, same.trans found, lasts.later write.clock_le⟩

theorem Retained.pair (row : RelationshipRow) (retained : Retained rel before) : Retained rel
      (final ((insertRelationship row).run before)) := by
  unfold insertRelationship
  rw [bind_readDb]
  split
  · exact retained
  · split
    · rename_i relationships inserted
      intro message mem own
      obtain ⟨contact, found, lasts⟩ := retained message mem own
      refine ⟨contact, (Table.lookup_insert inserted rel).trans ?_, lasts⟩
      split
      · rename_i same
        have fresh := (Table.insert_eq_some.mp inserted).1
        rw [same] at fresh
        cases fresh.symm.trans found
      · exact found
    · exact retained

theorem Retained.run (retained : Retained rel before)
    (run : Relation.ReflTransGen (Operation sys) before after) :
    Retained rel after := by
  induction run with
  | refl => exact retained
  | tail _ step ih =>
    rcases step.follows with ⟨row, rfl⟩ | ⟨leave, follows, -⟩
    · exact ih.pair row
    · exact Writes.invariant (fun _ _ write retained => retained.write write) follows ih

/-- Under a finite TTL every message of the relationship expires within it, and
a sweep that much later leaves none of them. -/
theorem messages_expire_within_ttl {sys : Platform} {rel : RelId}
    {start eng : Engine} {contact : RelationshipRow}
    (fresh : ∀ row ∈ start.db.messages, row.relId ≠ rel)
    (run : Relation.ReflTransGen (Operation sys) start eng)
    (found : eng.db.relationship rel = some contact) (finite : contact.policyTtlSec ≠ ttlNever) :
    (∀ row ∈ eng.db.messages, row.relId = rel → ∃ expiry, row.expiresAt = some expiry ∧
        expiry ≤ eng.clock + contact.policyTtlSec.toNat) ∧
    ∀ seconds, contact.policyTtlSec.toNat ≤ seconds → ∃ events swept, sweep.run { eng with
          clock := eng.clock + seconds } = .ok events swept ∧
        ∀ row ∈ swept.db.messages, row.relId ≠ rel := by
  have begins : Retained rel start := fun row mem own =>
    absurd own (fresh row mem)
  have bounded : ∀ row ∈ eng.db.messages, row.relId = rel → ∃ expiry, row.expiresAt = some expiry ∧
        expiry ≤ eng.clock + contact.policyTtlSec.toNat := by
    intro row mem own
    obtain ⟨other, looked, lasts⟩ := begins.run run row mem own
    cases found.symm.trans looked
    exact lasts finite
  refine ⟨bounded, fun seconds enough => ?_⟩
  obtain ⟨events, settled, swept, ran, fewer, -, db⟩ := run_sweep
    { eng with clock := eng.clock + seconds }
  refine ⟨events, swept, ran, fun row mem own => ?_⟩
  rw [db] at mem
  have filed := fewer.messages row ((messages_pruneAllTombstones _ settled.db) ▸ mem)
  obtain ⟨stored, unexpired⟩ := Table.mem_delete.mp filed
  obtain ⟨expiry, expires, bound⟩ := bounded row stored own
  have expired : row.expired (eng.clock + seconds) = true := by
    unfold MessageRow.expired
    rw [expires]
    simp
    omega
  rw [expired] at unexpired
  cases unexpired

theorem knock_expires_within_ttl : knocked.db.messages.rows.length = 1 ∧
    (∀ row ∈ knocked.db.messages, row.relId = "alice" → ∃ expiry, row.expiresAt = some expiry ∧
        expiry ≤ knocked.clock + (86400 : UInt32).toNat) ∧
    ∃ events swept, sweep.run { knocked with clock := knocked.clock + 86400 } = .ok events swept ∧
      ∀ row ∈ swept.db.messages, row.relId ≠ "alice" := by
  have found : knocked.db.relationship "alice" =
      some (newRelationship "alice" .inviter .active "" [] false 0) := by
    decide +kernel
  obtain ⟨bounded, swept⟩ := @messages_expire_within_ttl .loopback "alice"
    acquainted knocked _ (fun _ mem => nomatch mem)
    (.single (.inbound acquainted "alice" (knockBytes 1 0))) found (by decide)
  exact ⟨by decide +kernel, bounded, swept 86400 le_rfl⟩

end SChatCore.Ledger
