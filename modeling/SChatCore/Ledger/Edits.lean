import SChatCore.Ledger.Once

namespace SChatCore.Ledger

open Data Data.Action Wire Store Engine

/-! Edits of a message that has arrived. -/

structure Hears (before after : Engine) : Prop where
  clock : after.clock = before.clock
  kept : ∀ row ∈ before.db.messages, row.direction = .in_ → row ∈ after.db.messages

namespace Hears

theorem refl (eng : Engine) : Hears eng eng := ⟨rfl, fun _ mem _ => mem⟩

theorem trans (left : Hears first second) (right : Hears second third) :
    Hears first third :=
  ⟨right.clock.trans left.clock, fun row mem inbound =>
    right.kept row (left.kept row mem inbound) inbound⟩

instance : IsPreorder Engine Hears where
  refl := refl
  trans _ _ _ := trans

theorem of_outbound (outbound : Outbound rel before after) :
    Hears before after := by
  refine ⟨outbound.clock, fun row mem inbound => ?_⟩
  have listed : row ∈ Engine.received before.db :=
    Table.mem_select.mpr ⟨mem, by simpa using inbound⟩
  rw [← outbound.received] at listed
  exact (Table.mem_select.mp listed).1

end Hears

theorem staged_hears : Staged sys rel Hears :=
  staged_of_outbound (fun _ _ => .of_outbound)
    (fun _ _ => ⟨rfl, fun _ mem _ => mem⟩) fun _ _ _ _ stored =>
      ⟨rfl, fun _ mem _ => (Table.mem_insert stored).mpr (.inl mem)⟩

theorem hears_heard (rel : RelId) (env : Envelope) (eng : Engine) : Hears eng (heard rel env eng) :=
  ⟨rfl, fun _ mem _ => mem⟩

theorem hears_dispatches (dispatches : Dispatches sys rel eng plain env filed) :
    Hears eng filed :=
  (hears_heard rel env eng).trans (staged_hears.dispatches dispatches)

theorem hears_of_undispatched (undispatched : ∀ env filed,
      ¬ Dispatches sys rel eng plain env filed) :
    Hears eng (final ((handlePlaintext sys rel plain).run eng)) := by
  by_cases accepted : ∃ env row, Accepts sys eng rel plain env row
  · obtain ⟨env, row, accepts⟩ := accepted
    exact (hears_heard rel env eng).trans (staged_hears.undispatched accepts (undispatched env))
  · rw [final_handlePlaintext_of_not fun env row accepts =>
      accepted ⟨env, row, accepts⟩]
    exact .refl eng

/-- At this time an edit of the row is neither out of place nor too late. -/
structure Editable (base : MessageRow) (now : Nat) : Prop where
  inbound : base.direction = .in_
  message : base.envType = EnvelopeType.msg.code
  live : base.tombstone = false
  unexpired : base.expired now = false
  recent : now < base.receivedAt.getD base.createdAt + editWindowSec

theorem Editable.mono {now later : Nat} (editable : Editable base later)
    (earlier : now ≤ later) : Editable base now := by
  refine { editable with
    unexpired := ?_
    recent := lt_of_le_of_lt earlier editable.recent }
  have unexpired := editable.unexpired
  unfold MessageRow.expired at unexpired ⊢
  cases expiry : base.expiresAt with
  | none => rfl
  | some bound =>
    rw [expiry] at unexpired
    simp only [Option.any_some, decide_eq_false_iff_not, not_le] at unexpired ⊢
    exact lt_of_le_of_lt earlier unexpired

structure EditOf (target : MsgId) (appSeq : UInt64) (env : Envelope) :
    Prop where
  names : env.refId = some target
  later : appSeq < env.appSeq
  body : ∃ edit, env.payload = .edit edit ∧ (asBytes edit.body).length ≤ maxBodyBytes

theorem EditOf.numbered (edit : EditOf target appSeq env) : 0 < env.appSeq := by
  have later := UInt64.lt_iff_toNat_lt.mp edit.later
  exact UInt64.lt_iff_toNat_lt.mpr (Nat.zero_lt_of_lt later)

structure Revised (base : MessageRow) (edits : List Envelope)
    (row : MessageRow) : Prop where
  same : { row with
    payload := base.payload
    edited := base.edited
    editCount := base.editCount
    lastEditSeq := base.lastEditSeq } = base
  count : row.editCount ≤ edits.length
  first : edits = [] → row.payload = base.payload ∧ row.lastEditSeq = 0
  highest : ∀ env ∈ edits, env.appSeq ≤ row.lastEditSeq
  latest : edits ≠ [] → ∃ env ∈ edits, env.appSeq = row.lastEditSeq ∧
    ∃ edit, env.payload = .edit edit ∧ row.payload = asBytes edit.body

theorem Revised.key (revised : Revised base edits row) :
    row.msgId = base.msgId := (congrArg MessageRow.msgId revised.same :)

theorem Revised.inbound {now : Nat} (revised : Revised base edits row)
    (editable : Editable base now) : row.direction = .in_ :=
  (congrArg MessageRow.direction revised.same :).trans editable.inbound

theorem Revised.editTarget {now bytes : Nat} (revised : Revised base edits row)
    (editable : Editable base now) (few : edits.length < editMaxEdits)
    (small : bytes ≤ maxBodyBytes) :
    editTarget row now appSeq bytes =
      if appSeq ≤ row.lastEditSeq then .dropStaleSeq else .apply := by
  have message : row.envType = base.envType := (congrArg MessageRow.envType revised.same :)
  have expiry : row.expiresAt = base.expiresAt := (congrArg MessageRow.expiresAt revised.same :)
  have arrival : row.receivedAt = base.receivedAt := (congrArg MessageRow.receivedAt revised.same :)
  have creation : row.createdAt = base.createdAt := (congrArg MessageRow.createdAt revised.same :)
  have unexpired : row.expired now = false := by
    rw [MessageRow.expired, expiry]
    exact editable.unexpired
  unfold Engine.editTarget
  rw [if_neg (not_not.mpr (revised.inbound editable)),
    if_neg (not_not.mpr (message.trans editable.message)), if_neg (by simp [unexpired]),
    if_neg (by rw [arrival, creation]; exact not_le.mpr editable.recent),
    if_neg (not_le.mpr (lt_of_le_of_lt revised.count few)), if_neg (not_lt.mpr small)]

theorem Revised.stale (revised : Revised base edits row)
    (stale : env.appSeq ≤ row.lastEditSeq) (numbered : 0 < env.appSeq) :
    Revised base (edits ++ [env]) row := by
  have some : edits ≠ [] := by
    intro none
    rw [(revised.first none).2] at stale
    exact absurd numbered (UInt64.not_lt.mpr stale)
  refine { revised with
    count := ?_
    first := fun none => absurd none (by simp)
    highest := fun other listed => ?_
    latest := fun _ => ?_ }
  · rw [List.length_append]
    exact le_trans revised.count (Nat.le_add_right _ _)
  · rw [List.mem_append, List.mem_singleton] at listed
    rcases listed with listed | rfl
    · exact revised.highest other listed
    · exact stale
  · obtain ⟨last, listed, rest⟩ := revised.latest some
    exact ⟨last, List.mem_append_left _ listed, rest⟩

theorem Revised.apply (revised : Revised base edits row)
    (edits' : env.payload = .edit edit) (fresh : row.lastEditSeq < env.appSeq) :
    Revised base (edits ++ [env]) { row with
      payload := asBytes edit.body
      edited := true
      editCount := row.editCount + 1
      lastEditSeq := env.appSeq } := by
  refine {
    same := revised.same
    count := ?_
    first := fun none => absurd none (by simp)
    highest := fun other listed => ?_
    latest := fun _ => ⟨env, by simp, rfl, edit, edits', rfl⟩ }
  · rw [List.length_append]
    exact Nat.add_le_add_right revised.count 1
  · rw [List.mem_append, List.mem_singleton] at listed
    rcases listed with listed | rfl
    · exact UInt64.le_of_lt (UInt64.lt_of_le_of_lt (revised.highest other listed) fresh)
    · exact UInt64.le_refl _

theorem mem_markEdited {db : Db} (mem : row ∈ db.messages)
    (key : row.msgId = msgId) (live : row.tombstone = false) :
    { row with
      payload
      edited := true
      editCount := row.editCount + 1
      lastEditSeq := editSeq } ∈ (db.markEdited msgId payload editSeq).messages := by
  apply Table.mem_update_of_chosen mem
  · simp [key, live]
  · exact fun _ => rfl

/-- The message is on file as these edits leave it. -/
def Shows (base : MessageRow) (edits : List Envelope) (eng : Engine) :
    Prop :=
  ∃ row ∈ eng.db.messages, Revised base edits row

theorem Shows.hears {now : Nat} (shows : Shows base edits before)
    (editable : Editable base now) (hears : Hears before after) :
    Shows base edits after := by
  obtain ⟨row, mem, revised⟩ := shows
  exact ⟨row, hears.kept row mem (revised.inbound editable), revised⟩

theorem Shows.applyEdit (shows : Shows base edits eng)
    (editable : Editable base eng.clock) (few : edits.length < editMaxEdits)
    (names : env.refId = some base.msgId) (holds : env.payload = .edit edit)
    (small : (asBytes edit.body).length ≤ maxBodyBytes) (numbered : 0 < env.appSeq)
    (uncut : isCut rel env eng.clock eng.db = false)
    (ran : (applyEdit rel env edit.body).run eng = .ok events after) :
    Shows base (edits ++ [env]) after := by
  obtain ⟨row, mem, revised⟩ := shows
  have found : eng.db.message base.msgId = some row := Table.lookup_eq_some.mpr ⟨mem, revised.key⟩
  have history : isHistoryType env.envelopeType = true := by
    simp [Envelope.envelopeType, Payload.envelopeType, holds, isHistoryType]
  unfold isCut shouldDropInbound at uncut
  rw [history, Bool.true_and, Bool.or_eq_false_iff] at uncut
  have decision : editDecision (eng.db.message base.msgId) eng.clock
      env.appSeq (asBytes edit.body).length
      (eng.db.isTombstoned rel env.msgId eng.clock)
      (eng.db.historyCut rel) = if env.appSeq ≤ row.lastEditSeq then .dropStaleSeq else .apply := by
    unfold editDecision
    rw [uncut.1, uncut.2, found]
    exact revised.editTarget editable few small
  unfold Engine.applyEdit at ran
  rw [names] at ran
  simp only [EStateM.run_bind, run_readDb, run_now, decision] at ran
  by_cases stale : env.appSeq ≤ row.lastEditSeq
  · rw [if_pos stale, if_neg (by decide)] at ran
    cases ran
    exact ⟨row, mem, revised.stale stale numbered⟩
  · rw [if_neg stale, if_pos rfl] at ran
    cases ran
    have live := (congrArg MessageRow.tombstone revised.same :).trans editable.live
    exact ⟨_, mem_markEdited mem revised.key live, revised.apply holds (UInt64.not_le.mp stale)⟩

theorem run_applyEdit (body : String) : ∃ events after,
    (applyEdit rel env body).run eng = .ok events after ∧ after.clock = eng.clock := by
  unfold applyEdit
  cases env.refId with
  | none => exact ⟨_, _, rfl, rfl⟩
  | some target =>
    simp only [EStateM.run_bind, run_readDb, run_now]
    split
    · exact ⟨_, _, rfl, rfl⟩
    · exact ⟨_, _, rfl, rfl⟩

theorem hears_of_edit (holds : env.payload = .edit edit)
    (dispatches : Dispatches sys rel eng plain env filed) :
    ∃ events after, (applyEdit rel env edit.body).run filed =
        .ok events after ∧ after.clock = eng.clock ∧
      Hears after (final ((handlePlaintext sys rel plain).run eng)) := by
  obtain ⟨events, after, ran, clock⟩ := @run_applyEdit rel env filed edit.body
  have dispatched : (dispatch sys rel env).run filed =
      .ok events after := by
    unfold dispatch
    rw [holds]
    exact ran
  refine ⟨events, after, ran, clock.trans (hears_dispatches dispatches).clock, ?_⟩
  have tail := staged_hears.tail dispatches
  rwa [dispatched] at tail

theorem uncut_of_dispatches (dispatches : Dispatches sys rel eng plain env filed) :
    isCut rel env filed.clock filed.db = false := by
  obtain ⟨row, woken, accepts, activated, uncut, ledgered⟩ := dispatches
  obtain ⟨current, known⟩ := (poised_of_activate activated).known accepts.found
  obtain ⟨-, rfl⟩ | ⟨-, -, messages, -, rfl⟩ := ledgerInbound_eq_ok accepts.decoded known ledgered
  · exact uncut
  · exact uncut

theorem Shows.deliver (shows : Shows base edits eng)
    (editable : Editable base eng.clock) (few : edits.length < editMaxEdits)
    (dispatches : Dispatches sys rel eng plain env filed) (edit : EditOf base.msgId appSeq env) :
    Shows base (edits ++ [env]) (final ((handlePlaintext sys rel plain).run eng)) := by
  have filing := hears_dispatches dispatches
  obtain ⟨text, holds, small⟩ := edit.body
  obtain ⟨events, after, ran, clock, hears⟩ := hears_of_edit holds dispatches
  have shown : Shows base (edits ++ [env]) after :=
    (shows.hears editable filing).applyEdit (filing.clock ▸ editable) few
      edit.names holds small edit.numbered (uncut_of_dispatches dispatches) ran
  exact shown.hears editable hears

/-- Plaintexts handed in one after another, time passing between them. The list
is of the envelopes that came as far as their handlers. -/
inductive Arrives (sys : Platform) (rel : RelId) (first : Engine) :
    List Envelope → Engine → Prop
  | start : Arrives sys rel first [] first
  | wait {envs : List Envelope} {last : Engine} {clock : Nat} :
      Arrives sys rel first envs last → last.clock ≤ clock →
        Arrives sys rel first envs { last with clock }
  | deliver {envs : List Envelope} {last filed : Engine} {plain : Bytes}
      {env : Envelope} :
      Arrives sys rel first envs last → Dispatches sys rel last plain env filed →
        Arrives sys rel first (envs ++ [env]) (final ((handlePlaintext sys rel plain).run last))
  | drop {envs : List Envelope} {last : Engine} {plain : Bytes} :
      Arrives sys rel first envs last → (∀ env filed, ¬ Dispatches sys rel last plain env filed) →
        Arrives sys rel first envs (final ((handlePlaintext sys rel plain).run last))

/-- What the edits make of the message, in whatever order they come. -/
theorem Shows.arrives (shows : Shows base [] first) (arrives : Arrives sys rel first later last)
    (edit : ∀ env ∈ later, EditOf base.msgId appSeq env)
    (few : later.length ≤ editMaxEdits) (editable : Editable base last.clock) :
    Shows base later last := by
  induction arrives with
  | start => exact shows
  | wait arrives waits ih => exact ih edit few (editable.mono waits)
  | deliver arrives dispatches ih =>
    have last := edit _ (List.mem_append_right _ List.mem_cons_self)
    obtain ⟨text, holds, -⟩ := last.body
    obtain ⟨-, after, -, clock, hears⟩ := hears_of_edit holds dispatches
    rw [hears.clock, clock] at editable
    rw [List.length_append] at few
    have before := ih (fun env listed => edit env (by simp [listed]))
      (Nat.le_of_succ_le few) editable
    exact before.deliver editable few dispatches last
  | drop arrives undispatched ih =>
    have hears := hears_of_undispatched undispatched
    exact (ih edit few (hears.clock ▸ editable)).hears editable hears

theorem filed_message (dispatches : Dispatches sys rel eng plain m filed)
    (holds : m.payload = .msg msg) :
    ∃ base, filed.db.message m.msgId = some base ∧ base.msgId = m.msgId ∧
      base.direction = .in_ ∧ base.envType = EnvelopeType.msg.code ∧
      base.tombstone = false ∧ base.receivedAt = some eng.clock ∧
      base.payload = asBytes msg.body ∧ Revised base [] base := by
  have clock := (hears_dispatches dispatches).clock
  obtain ⟨row, woken, accepts, activated, uncut, ledgered⟩ := dispatches
  obtain ⟨current, known⟩ := (poised_of_activate activated).known accepts.found
  have stored : isEphemeral m.envelopeType = false := by
    simp [Envelope.envelopeType, Payload.envelopeType, holds, isEphemeral]
  obtain ⟨ephemeral, -⟩ | ⟨-, -, messages, inserted, rfl⟩ :=
    ledgerInbound_eq_ok accepts.decoded known ledgered
  · cases stored.symm.trans ephemeral
  obtain ⟨bytes, encoded⟩ := Envelope.payload_reencodes accepts.decoded
  have text : (m.payload.encode sys.nfc).toOption.getD [] = asBytes msg.body := by
    rw [holds] at encoded ⊢
    have written : encodeBody "msg.body" msg.body = .ok bytes := encoded
    rw [encoded]
    unfold encodeBody at written
    split at written
    · cases written
    · cases written
      rfl
  refine ⟨_, (Table.lookup_insert inserted _).trans (if_pos rfl), rfl, rfl, ?_,
    rfl, congrArg some clock, text, ⟨rfl, le_rfl, fun _ => ⟨rfl, rfl⟩, ?_, ?_⟩⟩
  · show m.envelopeType.code = _
    simp [Envelope.envelopeType, Payload.envelopeType, holds]
  · simp
  · simp

theorem hears_of_message (dispatches : Dispatches sys rel eng plain m filed)
    (holds : m.payload = .msg msg) :
    Hears filed (final ((handlePlaintext sys rel plain).run eng)) := by
  have fetches : Keeps Hears (dispatch sys rel m) := by
    unfold dispatch
    rw [holds]
    exact keeps_returns (((outbound_respects sys).obliges.fetchMissingEmoji _).mono
        fun _ _ => .of_outbound)
  exact (fetches filed).trans (staged_hears.tail dispatches)

/-- Whatever came before the message, the edits that come after it leave it with
the text of the one numbered highest. -/
theorem latest_edit_shown {sys : Platform} {rel : RelId} {m : Envelope}
    {msg : Msg} {eng filed last : Engine} {plain : Bytes} {later : List Envelope}
    (dispatches : Dispatches sys rel eng plain m filed) (holds : m.payload = .msg msg)
    (arrives : Arrives sys rel (final ((handlePlaintext sys rel plain).run eng)) later last)
    (edits : ∀ env ∈ later, EditOf m.msgId m.appSeq env)
    (distinct : (later.map Envelope.appSeq).Nodup) (few : later.length ≤ editMaxEdits)
    (recent : last.clock < eng.clock + editWindowSec)
    (unexpired : ∀ row, filed.db.message m.msgId = some row → row.expired last.clock = false) :
    ∃ row, last.db.message m.msgId = some row ∧ (later = [] → row.payload = asBytes msg.body) ∧
      ∀ env ∈ later, (∀ other ∈ later, other.appSeq ≤ env.appSeq) →
        ∀ edit, env.payload = .edit edit → row.payload = asBytes edit.body := by
  obtain ⟨base, found, key, inbound, type, live, arrival, text, original⟩ :=
    filed_message dispatches holds
  have editable : Editable base last.clock := by
    refine ⟨inbound, type, live, unexpired base found, ?_⟩
    rw [arrival]
    exact recent
  have onFile : Shows base [] filed := ⟨base, (Table.lookup_eq_some.mp found).1, original⟩
  rw [← key] at edits ⊢
  obtain ⟨row, mem, revised⟩ := (onFile.hears editable
    (hears_of_message dispatches holds)).arrives arrives edits few editable
  refine ⟨row, Table.lookup_eq_some.mpr ⟨mem, revised.key⟩, ?_, ?_⟩
  · exact fun none => (revised.first none).1.trans text
  · intro env listed highest edit payload
    obtain ⟨latest, listed', seq, edit', payload', shown⟩ :=
      revised.latest (List.ne_nil_of_mem listed)
    have same : env.appSeq = latest.appSeq := by
      apply UInt64.le_antisymm
      · rw [seq]
        exact revised.highest env listed
      · exact highest latest listed'
    obtain rfl := List.inj_on_of_nodup_map distinct listed listed' same
    cases payload.symm.trans payload'
    exact shown

/-! Two edits that overtake each other, and one that overtakes its message. -/

def note : Envelope where
  msgId := List.Vector.replicate 16 1
  appSeq := 1
  sentAt := 0
  refId := none
  payload := .msg { body := "a" }

def rewrite (appSeq : UInt64) (body : String) : Envelope where
  msgId := List.Vector.replicate 16 appSeq.toUInt8
  appSeq := appSeq
  sentAt := 0
  refId := some note.msgId
  payload := .edit { body }

def handed (env : Envelope) (eng : Engine) : Engine :=
  final ((handlePlaintext .loopback "alice" ((env.encode id).toOption.getD [])).run eng)

theorem dispatches_handed
    (decoded : Envelope.decode id ((env.encode id).toOption.getD []) = .ok env)
    (found : eng.db.relationship "alice" =
      some (newRelationship "alice" .inviter .active "" [] false 0))
    (admits : Admits eng "alice" env) (stored : isEphemeral env.envelopeType = false)
    (uncut : isCut "alice" env eng.clock eng.db = false) :
    ∃ filed, Dispatches .loopback "alice" eng ((env.encode id).toOption.getD []) env filed := by
  obtain ⟨filed, dispatches, -⟩ := @dispatches_of_inviter .loopback "alice"
    env eng _ _ ⟨decoded, found, admits⟩ rfl stored uncut
  exact ⟨filed, dispatches⟩

theorem later_edit_overtaking : ∃ row, (handed (rewrite 2 "b") (handed (rewrite 3 "c")
        (handed note acquainted))).db.message note.msgId = some row ∧
      row.payload = asBytes "c" := by
  obtain ⟨filed, dispatches⟩ : ∃ filed, Dispatches .loopback "alice" acquainted
      ((note.encode id).toOption.getD []) note filed := by
    refine dispatches_handed rfl ?_ ⟨?_, ?_, ?_, ?_, ?_⟩ rfl ?_
    all_goals decide +kernel
  obtain ⟨_, third⟩ : ∃ filed, Dispatches .loopback "alice" (handed note acquainted)
      (((rewrite 3 "c").encode id).toOption.getD []) (rewrite 3 "c") filed := by
    refine dispatches_handed rfl ?_ ⟨?_, ?_, ?_, ?_, ?_⟩ rfl ?_
    all_goals decide +kernel
  obtain ⟨_, second⟩ : ∃ filed, Dispatches .loopback "alice"
      (handed (rewrite 3 "c") (handed note acquainted))
      (((rewrite 2 "b").encode id).toOption.getD []) (rewrite 2 "b") filed := by
    refine dispatches_handed rfl ?_ ⟨?_, ?_, ?_, ?_, ?_⟩ rfl ?_
    all_goals decide +kernel
  have edit : ∀ env ∈ [rewrite 3 "c", rewrite 2 "b"], EditOf note.msgId note.appSeq env := by
    intro env listed
    simp only [List.mem_cons, List.not_mem_nil, or_false] at listed
    rcases listed with rfl | rfl
    · exact ⟨rfl, by decide, _, rfl, by decide +kernel⟩
    · exact ⟨rfl, by decide, _, rfl, by decide +kernel⟩
  have lasting : ∀ row ∈ (handed note acquainted).db.messages.rows,
      row.direction = .in_ → row.expired 0 = false := by decide +kernel
  have clock : (handed (rewrite 2 "b") (handed (rewrite 3 "c")
      (handed note acquainted))).clock = 0 := by decide +kernel
  have unexpired : ∀ row, filed.db.message note.msgId = some row →
      row.expired (handed (rewrite 2 "b") (handed (rewrite 3 "c")
        (handed note acquainted))).clock = false := by
    intro row found
    obtain ⟨base, found', -, inbound, -⟩ := filed_message dispatches rfl
    cases found.symm.trans found'
    rw [clock]
    exact lasting row ((hears_of_message dispatches rfl).kept row
      (Table.lookup_eq_some.mp found).1 inbound) inbound
  obtain ⟨row, found, -, latest⟩ := latest_edit_shown dispatches rfl
    (.deliver (.deliver .start third) second) edit (by decide +kernel)
    (by decide) (lt_of_eq_of_lt clock (by decide +kernel)) unexpired
  refine ⟨row, found, latest (rewrite 3 "c") (by simp) ?_ _ rfl⟩
  decide +kernel

/-- An edit that comes before its message is lost. -/
theorem early_edit_lost : EditOf note.msgId note.appSeq (rewrite 2 "b") ∧
      (∃ filed, Dispatches .loopback "alice" acquainted
        (((rewrite 2 "b").encode id).toOption.getD []) (rewrite 2 "b") filed) ∧
      (∃ filed, Dispatches .loopback "alice" (handed (rewrite 2 "b") acquainted)
        ((note.encode id).toOption.getD []) note filed) ∧
      ((handed note (handed (rewrite 2 "b") acquainted)).db.message
        note.msgId).map MessageRow.payload = some (asBytes "a") := by
  refine ⟨⟨rfl, by decide, _, rfl, by decide +kernel⟩, ?_, ?_, by decide +kernel⟩
  · refine dispatches_handed rfl ?_ ⟨?_, ?_, ?_, ?_, ?_⟩ rfl ?_
    all_goals decide +kernel
  · refine dispatches_handed rfl ?_ ⟨?_, ?_, ?_, ?_, ?_⟩ rfl ?_
    all_goals decide +kernel

end SChatCore.Ledger
