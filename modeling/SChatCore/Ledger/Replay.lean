import SChatCore.Ledger.Deletion

namespace SChatCore.Ledger

open Data Data.Action Wire Store Policy Engine

/-! A frame is consumed by the session before its envelope is looked at: what
becomes of its number. -/

section

variable {sys : Platform} {leave : Leave} {rel : RelId} {frame : Bytes}

theorem Follows.heard (unburned : ¬ leave.burns) (follows : Follows sys said leave before after)
    (noted : before.db.hasInboundSeq rel seq = true) :
    after.db.hasInboundSeq rel seq = true := by
  refine @Book.invariant _ (fun book => seq ∈ book.heard rel)
    (fun book move allowed held => ?_) _ _ (Writes.book follows) noted
  cases move with
  | hear other heard =>
    rw [Book.heard_hear]
    split
    · exact Set.mem_insert_of_mem _ held
    · exact held
  | burn other => exact absurd (allowed.resolve_left id) unburned
  | _ => exact held

theorem Evolves.heard (evolves : Evolves sys said before after)
    (noted : before.db.hasInboundSeq rel seq = true) :
    after.db.hasInboundSeq rel seq = true :=
  Follows.heard id (@Evolves.follows _ _ silence _ _ evolves) noted

/-- A write leaves the replay cache as it is, adds to it, or drops what has
expired. -/
theorem Write.inboundFrames {guard : Book → Move → Prop}
    (write : Write sys guard floor before after) :
    after.db.inboundFrames = before.db.inboundFrames ∨ (∃ row, after.db.inboundFrames =
        before.db.inboundFrames.insertOrIgnore row) ∨
      (∃ gone, guard (book before) (.erase gone)) ∧
        after.db.inboundFrames = before.db.inboundFrames.delete fun row =>
          row.expiresAt ≤ before.clock := by
  cases write with
  | aside aside => exact .inl (congrArg Db.inboundFrames aside.db :)
  | note noted => exact .inl (congrArg Db.inboundFrames noted :)
  | media stored => exact .inl (congrArg Db.inboundFrames stored :)
  | agree => exact .inl (congrArg Db.inboundFrames (clampAndErase_rest _ _ _) :)
  | frame other bytes => exact .inr (.inl ⟨_, rfl⟩)
  | cipher _ stored =>
    obtain ⟨ciphertexts, -, rfl⟩ := storeCiphertext_eq_ok stored
    exact .inl rfl
  | post _ _ _ inserted | deliver _ _ _ inserted =>
    obtain ⟨messages, -, rfl⟩ := Db.insertMessage_eq_ok.mp inserted
    exact .inl rfl
  | enqueue _ queued =>
    obtain ⟨outbox, -, rfl⟩ := Db.enqueue_eq_ok.mp queued
    exact .inl rfl
  | expire allowed => exact .inr (.inr ⟨⟨_, allowed⟩, rfl⟩)
  | _ => exact .inl rfl

theorem Evolves.known {before after : Engine} (evolves : Evolves sys said before after)
    (known : isKnownInboundFrame sys before.db rel frame = true) :
    isKnownInboundFrame sys after.db rel frame = true := by
  refine @Writes.invariant _ _ _ _ _ (fun eng =>
    isKnownInboundFrame sys eng.db rel frame = true)
    (fun before after write known => ?_) evolves known
  unfold isKnownInboundFrame at known ⊢
  obtain same | ⟨row, added⟩ | ⟨⟨_, never⟩, -⟩ := write.inboundFrames
  · rw [same]
    exact known
  · rw [added]
    exact Table.isSome_lookup_insertOrIgnore.mpr (.inr known)
  · exact absurd never id

def Remembers (sys : Platform) (rel : RelId) (frame : Bytes)
    (deadline : Nat) (eng : Engine) : Prop :=
  eng.clock < deadline → ∃ row, eng.db.inboundFrames.lookup (rel, sys.sha256 frame) = some row ∧
      deadline ≤ row.expiresAt

section

variable {deadline : Nat} {before after : Engine}

theorem Remembers.known (remembers : Remembers sys rel frame deadline eng)
    (early : eng.clock < deadline) :
    isKnownInboundFrame sys eng.db rel frame = true := by
  obtain ⟨row, found, -⟩ := remembers early
  unfold isKnownInboundFrame
  rw [found]
  rfl

theorem Write.remembers {guard : Book → Move → Prop} (write : Write sys guard floor before after)
    (remembers : Remembers sys rel frame deadline before) :
    Remembers sys rel frame deadline after := by
  intro early
  have later := lt_of_le_of_lt write.clock_le early
  obtain ⟨row, found, lasts⟩ := remembers later
  refine ⟨row, ?_, lasts⟩
  obtain same | ⟨other, added⟩ | ⟨-, swept⟩ := write.inboundFrames
  · rw [same]
    exact found
  · rw [added]
    exact Table.lookup_insertOrIgnore_of_some found
  · rw [swept, Table.lookup_delete, found]
    exact Option.filter_some_pos (by simp; omega)

theorem Follows.remembers (follows : Follows sys said leave before after)
    (remembers : Remembers sys rel frame deadline before) :
    Remembers sys rel frame deadline after :=
  Writes.invariant (fun _ _ write => write.remembers) follows remembers

theorem remembers_insertRelationship (row : RelationshipRow)
    (remembers : Remembers sys rel frame deadline before) :
    Remembers sys rel frame deadline (final ((insertRelationship row).run before)) := by
  obtain ⟨relationships, same⟩ := run_insertRelationship row before
  rw [same]
  exact remembers

theorem Operation.remembers (operation : Operation sys before after)
    (remembers : Remembers sys rel frame deadline before) :
    Remembers sys rel frame deadline after := by
  obtain ⟨row, rfl⟩ | ⟨leave, follows, -⟩ := operation.follows
  · exact remembers_insertRelationship row remembers
  · exact follows.remembers remembers

end

theorem run_decrypt_of_known {now : Nat} (known : isKnownInboundFrame sys eng.db rel frame = true)
    (unbroken : sessionState eng.db rel ≠ .broken) :
    (decrypt sys rel frame now).run eng = .error (.session .duplicate) eng := by
  unfold decrypt
  rw [bind_readDb, if_neg unbroken, if_pos known]
  rfl

theorem known_of_decrypt {now : Nat} (ran : (decrypt sys rel frame now).run eng =
      .ok plain opened) :
    isKnownInboundFrame sys opened.db rel frame = true ∧ sessionState opened.db rel ≠ .broken := by
  obtain ⟨-, unbroken, -, rfl⟩ := decrypt_eq_ok ran
  refine ⟨Table.isSome_lookup_insertOrIgnore.mpr (.inl rfl), ?_⟩
  have same : sessionState (eng.db.clearIntroPending rel) rel = _ :=
    sessionState_updateRelationship _ fun _ => rfl
  exact fun broken => unbroken (same.symm.trans broken)

theorem remembers_of_decrypt {now : Nat} (ran : (decrypt sys rel frame now).run eng =
      .ok plain opened) :
    Remembers sys rel frame (now + inboundFrameTtlSecs) opened := by
  obtain ⟨-, -, unknown, rfl⟩ := decrypt_eq_ok ran
  intro _
  exact ⟨_, Table.lookup_insertOrIgnore_of_fresh (Option.not_isSome_iff_eq_none.mp unknown), le_rfl⟩

theorem staged_evolves (permits : Permits sys said) : Staged sys rel (Evolves sys said) where
  wakes := evolves_activate permits
  closes := evolves_closeGap permits
  files _ _ _ := evolves_ledgerInbound

theorem noted_of_accepts (accepts : Accepts sys eng rel plain env row)
    (stays : env.payload = .contactClose → ∀ filed, ¬ Dispatches sys rel eng plain env filed) :
    (final ((handlePlaintext sys rel plain).run eng)).db.hasInboundSeq rel env.appSeq = true := by
  have permits := permits_anything sys
  have noted := hasInboundSeq_heard rel env eng
  by_cases closes : env.payload = .contactClose
  · exact Evolves.heard ((staged_evolves permits).undispatched accepts (stays closes)) noted
  · rw [run_handlePlaintext accepts]
    exact Follows.heard closes (follows_receive permits env row.role
      (admission rel env eng) _) noted

theorem forgotten_of_closes (closes : env.payload = .contactClose)
    (dispatches : Dispatches sys rel eng plain env filed)
    (known : isKnownInboundFrame sys eng.db rel frame = true) :
    let after := final ((handlePlaintext sys rel plain).run eng)
    after.db.hasInboundSeq rel env.appSeq = false ∧
      isKnownInboundFrame sys after.db rel frame = true ∧
      sessionState after.db rel ≠ .broken := by
  have handled := run_handlePlaintext_of_dispatches dispatches
  have evolves := (staged_evolves (permits_anything sys)).dispatches dispatches
  obtain ⟨row, woken, accepts, -⟩ := dispatches
  have kept : isKnownInboundFrame sys filed.db rel frame = true := Evolves.known evolves known
  have contact : ((book filed).contact rel).isSome = true := by
    rw [Evolves.contact evolves]
    exact Option.isSome_map.trans (by
      show (eng.db.relationship rel).isSome = true
      rw [accepts.found]
      rfl)
  obtain ⟨known, found⟩ := Option.isSome_iff_exists.mp (Option.isSome_map.symm.trans contact)
  obtain ⟨burned, ran, db⟩ := run_burnRelationship_of_found found
  have closed : env.envelopeType = .contactClose := by
    unfold Envelope.envelopeType
    rw [closes]
    rfl
  have ends : final ((handlePlaintext sys rel plain).run eng) =
      burned := by
    rw [handled]
    unfold dispatch onContactClose
    rw [closes]
    simp only [closed, if_true]
    rw [EStateM.run_bind, run_bind_ok ran]
    rfl
  intro after
  have same : after = burned := ends
  rw [same, db]
  have gone := gone_burn rel filed.db
  refine ⟨?_, kept, ?_⟩
  · rw [← Bool.not_eq_true]
    intro noted
    have empty := congrArg (fun book : Book => book.heard rel) (@book_burn filed rel)
    rw [Book.heard_burn, if_pos rfl] at empty
    exact Set.notMem_empty env.appSeq (empty ▸ noted)
  · unfold sessionState
    rw [gone.relationship]
    exact nofun

theorem appSeq_of_decode (decoded : Envelope.decode nfc plain = .ok env)
    (header : Envelope.decodeRaw plain = .ok raw) :
    env.appSeq = raw.appSeq := by
  obtain ⟨other, read, formed⟩ := Envelope.decode_eq_ok.mp decoded
  cases header.symm.trans read
  obtain ⟨t, payload, -, -, rfl⟩ := Envelope.ofRaw_eq_ok formed
  rfl

/-- A consumed frame leaves its number noted or itself repeatable, exactly if
the number was noted before or the envelope is let in and does not close the
contact. While the libraries do their part, one that is let in closes it
exactly if the burst it may call for goes out. -/
theorem consumed_frame_noted_iff {now later : Nat} {opened : Engine} {raw : RawEnvelope}
    (decrypted : (decrypt sys rel frame now).run eng = .ok plain opened)
    (header : Envelope.decodeRaw plain = .ok raw) :
    (((final ((handlePlaintext sys rel plain).run opened)).db.hasInboundSeq rel raw.appSeq = true ∨
      ∀ next, (decrypt sys rel frame later).run
        (final ((handlePlaintext sys rel plain).run opened)) ≠ .error (.session .duplicate) next) ↔
    (opened.db.hasInboundSeq rel raw.appSeq = true ∨
      ∃ env row, Accepts sys opened rel plain env row ∧ (env.payload = .contactClose → ∀ filed,
          ¬ Dispatches sys rel opened plain env filed))) ∧
    ∀ env row, Accepts sys opened rel plain env row →
      env.payload = .contactClose → Healthy sys opened 6 env.msgId →
      ((∀ filed, ¬ Dispatches sys rel opened plain env filed) ↔ ¬ Activates sys opened rel) := by
  refine ⟨?_, fun env row accepts closes healthy => not_exists.symm.trans
    (not_congr (dispatches_iff_activates accepts healthy (isCut_of_closes closes)))⟩
  obtain ⟨known, unbroken⟩ := known_of_decrypt decrypted
  by_cases accepted : ∃ env row, Accepts sys opened rel plain env row
  · obtain ⟨env, row, accepts⟩ := accepted
    have number := appSeq_of_decode accepts.decoded header
    have fresh : opened.db.hasInboundSeq rel raw.appSeq = false := number ▸ accepts.admits.newSeq
    by_cases stays : env.payload = .contactClose → ∀ filed,
        ¬ Dispatches sys rel opened plain env filed
    · refine iff_of_true (.inl ?_) (.inr ⟨env, row, accepts, stays⟩)
      exact number ▸ noted_of_accepts accepts stays
    · refine iff_of_false ?_ ?_
      · push Not at stays
        obtain ⟨closes, filed, dispatches⟩ := stays
        obtain ⟨forgotten, kept, free⟩ := forgotten_of_closes closes dispatches known
        rintro (noted | repeatable)
        · rw [← number, forgotten] at noted
          cases noted
        · exact repeatable _ (run_decrypt_of_known kept free)
      · rintro (noted | ⟨other, _, again, spared⟩)
        · rw [fresh] at noted
          cases noted
        · cases accepts.decoded.symm.trans again.decoded
          exact stays spared
  · have refused : ∀ env row, ¬ Accepts sys opened rel plain env row :=
      fun env row accepts => accepted ⟨env, row, accepts⟩
    rw [final_handlePlaintext_of_not refused]
    constructor
    · rintro (noted | repeatable)
      · exact .inl noted
      · exact absurd (run_decrypt_of_known known unbroken) (repeatable _)
    · rintro (noted | ⟨env, row, accepts, -⟩)
      · exact .inl noted
      · exact absurd accepts (refused env row)

end

def sealedKnock (appSeq sentAt : UInt64) : Bytes := tagSignal :: knockBytes appSeq sentAt

def unsealed (frame : Bytes) : Engine := final ((decrypt .loopback "alice" frame 0).run acquainted)

theorem run_unsealed (went : failure ((decrypt .loopback "alice" frame 0).run acquainted) = none) :
    (decrypt .loopback "alice" frame 0).run acquainted = .ok frame.tail (unsealed frame) := by
  obtain ⟨plain, ran⟩ := eq_ok_of_failure went
  cases (decrypt_eq_ok ran).1
  exact ran

theorem knock_is_noted : (final ((handlePlaintext .loopback "alice" (knockBytes 1 0)).run
        (unsealed (sealedKnock 1 0)))).db.hasInboundSeq "alice" 1 = true ∨
      ∀ next, (decrypt .loopback "alice" (sealedKnock 1 0) 0).run
        (final ((handlePlaintext .loopback "alice" (knockBytes 1 0)).run
          (unsealed (sealedKnock 1 0)))) ≠ .error (.session .duplicate) next := by
  have accepts : Accepts .loopback (unsealed (sealedKnock 1 0)) "alice" (knockBytes 1 0) (knock 1 0)
      (newRelationship "alice" .inviter .active "" [] false 0) := by
    refine ⟨rfl, by decide +kernel, ?_, ?_, ?_, ?_, ?_⟩
    all_goals decide +kernel
  have opened : (decrypt .loopback "alice" (sealedKnock 1 0) 0).run acquainted =
      .ok (knockBytes 1 0) (unsealed (sealedKnock 1 0)) :=
    run_unsealed (by decide +kernel)
  have header : Envelope.decodeRaw (knockBytes 1 0) = .ok ((knock 1 0).raw []) := rfl
  exact (consumed_frame_noted_iff opened header).1.mpr (.inr ⟨_, _, accepts, nofun⟩)

/-- Dated too far ahead: the frame is consumed, its number is not noted, and it
cannot be sent again. -/
theorem future_frame_wedges : (decrypt .loopback "alice" (sealedKnock 1 301) 0).run acquainted =
        .ok (knockBytes 1 301) (unsealed (sealedKnock 1 301)) ∧
      Envelope.decodeRaw (knockBytes 1 301) = .ok ((knock 1 301).raw []) ∧
      (final ((handlePlaintext .loopback "alice" (knockBytes 1 301)).run
        (unsealed (sealedKnock 1 301)))).db.hasInboundSeq "alice" 1 = false ∧
      ∃ next, (decrypt .loopback "alice" (sealedKnock 1 301) 0).run
        (final ((handlePlaintext .loopback "alice" (knockBytes 1 301)).run
          (unsealed (sealedKnock 1 301)))) = .error (.session .duplicate) next :=
  ⟨run_unsealed (by decide +kernel), rfl, by decide +kernel, _,
    eq_error_of_failure (by decide +kernel)⟩

end SChatCore.Ledger
