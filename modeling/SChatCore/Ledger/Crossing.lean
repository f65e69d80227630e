import SChatCore.Ledger.Deletion
import SChatCore.Ledger.Edits

namespace SChatCore.Ledger

open Data Data.Action Wire Store Policy Engine

/-! A message and a `DELETE_ALL` of the same peer, delivered in either order. -/

/-- The engine will not come upon the id as one of its own. -/
def Unminted (sys : Platform) (eng : Engine) (msgId : MsgId) : Prop :=
  ∀ index, eng.draws ≤ index → sys.randomMsgId index ≠ msgId

theorem Unminted.mono (unminted : Unminted sys before msgId)
    (draws : before.draws ≤ after.draws) : Unminted sys after msgId :=
  fun index above => unminted index (draws.trans above)

theorem Writes.inbound {guard : Book → Move → Prop}
    (minted : ∀ index, floor ≤ index → sys.randomMsgId index ≠ target)
    (writes : Writes sys guard floor before after)
    (start : ∀ row ∈ before.db.messages, row.msgId = target → row.direction = .in_) :
    ∀ row ∈ after.db.messages, row.msgId = target → row.direction = .in_ := by
  refine @Writes.invariant _ _ _ _ _ (fun eng => ∀ row ∈ eng.db.messages,
    row.msgId = target → row.direction = .in_) (fun before after write held row
    mem same => ?_) writes start
  rcases write.origin mem with ⟨old, filed, heir⟩ | ⟨-, fresh⟩
  · exact heir.direction.symm.trans (held old filed (heir.msgId.trans same))
  · rcases fresh with ⟨index, above, -, own⟩ | ⟨env, -, inbound, -⟩
    · exact absurd (own.symm.trans same) (minted index above)
    · exact inbound

/-- What the engine sends of its own accord when something comes in. -/
structure Murmurs (sys : Platform) (rel : RelId)
    (before after : Engine) : Prop where
  outbound : Outbound rel before after
  evolves : Evolves sys (fun _ _ _ => True) before after

instance : IsPreorder Engine (Murmurs sys rel) where
  refl eng := ⟨.refl rel eng, refl_of (Evolves sys _) eng⟩
  trans _ _ _ left right := ⟨left.outbound.trans right.outbound,
    trans_of (Evolves sys _) left.evolves right.evolves⟩

theorem murmurs_of (outbound : Keeps (Outbound rel) action)
    (evolves : Keeps (Evolves sys fun _ _ _ => True) action) :
    Keeps (Murmurs sys rel) action :=
  fun eng => ⟨outbound eng, evolves eng⟩

theorem murmurs_closeGap (gap : Bool) : Keeps (Murmurs sys rel) (closeGap sys rel gap) := by
  exact murmurs_of (keeps_closeGap sys (outbound_maybeRequestResync sys) gap)
    (evolves_closeGap (permits_anything sys) gap)

theorem murmurs_onMsg (msgId : MsgId) (body : String) :
    Keeps (Murmurs sys rel) (onMsg sys rel msgId body) :=
  keeps_returns (murmurs_of ((outbound_respects sys).obliges.fetchMissingEmoji body)
      ((evolves_respects (permits_anything sys)).obliges.fetchMissingEmoji body))

theorem Murmurs.draws (murmurs : Murmurs sys rel before after) :
    before.draws ≤ after.draws := Writes.draws_le murmurs.evolves

theorem Murmurs.kept (murmurs : Murmurs sys rel before after)
    (mem : row ∈ before.db.messages) (inbound : row.direction = .in_) :
    row ∈ after.db.messages :=
  (Hears.of_outbound murmurs.outbound).kept row mem inbound

theorem Murmurs.absent {msgId : MsgId} (murmurs : Murmurs sys rel before after)
    (unminted : Unminted sys before msgId) (absent : before.db.message msgId = none) :
    after.db.message msgId = none := by
  have inbound := Writes.inbound unminted murmurs.evolves fun row mem same =>
      absurd same (Table.lookup_eq_none.mp absent row mem)
  refine Table.lookup_eq_none.mpr fun row mem same => ?_
  have listed : row ∈ Engine.received after.db :=
    Table.mem_select.mpr ⟨mem, by simpa using inbound row mem same⟩
  rw [murmurs.outbound.received] at listed
  exact Table.lookup_eq_none.mp absent row (Table.mem_select.mp listed).1 same

theorem Murmurs.historyCut (murmurs : Murmurs sys rel before after) :
    after.db.historyCut rel = before.db.historyCut rel := by
  have same := congrArg (Option.map fun pair => pair.1.historyCutSeq) murmurs.outbound.standing
  simp only [Option.map_map] at same
  exact congrArg (Option.getD · 0) same

theorem Murmurs.isCut (murmurs : Murmurs sys rel before after)
    (env : Envelope) : isCut rel env after.clock after.db =
      isCut rel env before.clock before.db := by
  unfold Engine.isCut Db.isTombstoned
  rw [murmurs.historyCut, murmurs.outbound.clock, murmurs.outbound.tombstones]

def gateColumns (row : RelationshipRow) : Role × UInt32 × Option CloseState :=
  (row.role, row.peerCaps, row.closeState)

structure Unmoved (rel : RelId) (appSeq : UInt64) (before after : Engine) :
    Prop where
  clock : after.clock = before.clock
  tombstones : after.db.tombstones = before.db.tombstones
  columns : (after.db.relationship rel).map gateColumns =
    (before.db.relationship rel).map gateColumns
  seq : after.db.hasInboundSeq rel appSeq = before.db.hasInboundSeq rel appSeq

def Heeds (rel : RelId) (eng : Engine) (env : Envelope) : Prop :=
  (eng.db.relationship rel).isSome = true ∧ Admits eng rel env

def Awake (rel : RelId) (eng : Engine) : Prop :=
  ∀ row, eng.db.relationship rel = some row → row.role = .accepter →
    eng.db.activationSent rel = true

/-- The burst that is due when the envelope comes, if there is one, goes out. -/
def Wakes (sys : Platform) (rel : RelId) (eng : Engine) (env : Envelope) : Prop :=
  ∀ row, eng.db.relationship rel = some row →
    ∃ woken, (activate sys rel row.role).run (heard rel env eng) = .ok () woken

section

variable {sys : Platform} {rel : RelId} {eng before after : Engine}

theorem Unmoved.trans (left : Unmoved rel appSeq first second)
    (right : Unmoved rel appSeq second third) :
    Unmoved rel appSeq first third :=
  ⟨right.clock.trans left.clock, right.tombstones.trans left.tombstones,
    right.columns.trans left.columns, right.seq.trans left.seq⟩

theorem Murmurs.unmoved (murmurs : Murmurs sys rel before after) :
    Unmoved rel appSeq before after := by
  have same := congrArg (Option.map fun pair =>
    (pair.1.role, pair.1.peerCaps, pair.1.closeState)) murmurs.outbound.standing
  simp only [Option.map_map] at same
  refine ⟨murmurs.outbound.clock, murmurs.outbound.tombstones, same, ?_⟩
  exact (congrArg (fun db => db.hasInboundSeq rel appSeq) murmurs.outbound.backdrop :)

theorem unmoved_begun (other : appSeq ≠ env.appSeq) : Unmoved rel appSeq eng
      (begun rel role (heard rel env eng)) := by
  obtain ⟨settings, began⟩ := begun_eq rel role (heard rel env eng)
  rw [began]
  refine ⟨rfl, rfl, rfl, ?_⟩
  have noted := eng.db.hasInboundSeq_noteInboundSeq rel rel env.appSeq appSeq
  simp only [other, and_false, false_or] at noted
  exact Bool.eq_iff_iff.mpr noted

theorem Unmoved.heeds (unmoved : Unmoved rel env.appSeq before after)
    (fresh : before.db.message env.msgId = none) (still : after.db.message env.msgId = none) :
    Heeds rel after env ↔ Heeds rel before env := by
  have known := congrArg Option.isSome unmoved.columns
  simp only [Option.isSome_map] at known
  have caps : after.db.peerCaps rel = before.db.peerCaps rel := by
    have same := congrArg (Option.map fun columns => columns.2.1) unmoved.columns
    simp only [Option.map_map] at same
    exact congrArg (Option.getD · 0) same
  have closes : after.db.closeState rel = before.db.closeState rel := by
    have same := congrArg (Option.bind · fun columns => columns.2.2) unmoved.columns
    simp only [Option.bind_map] at same
    exact same
  unfold Heeds
  rw [known]
  refine and_congr_right fun _ => ⟨fun admits => ?_, fun admits => ?_⟩
  · exact ⟨caps ▸ admits.allowed, closes ▸ admits.unclosed,
      unmoved.clock ▸ admits.timely, fresh, unmoved.seq ▸ admits.newSeq⟩
  · exact ⟨caps.symm ▸ admits.allowed, closes.symm ▸ admits.unclosed,
      unmoved.clock.symm ▸ admits.timely, still,
      unmoved.seq.symm ▸ admits.newSeq⟩

theorem awake_begun (found : eng.db.relationship rel = some row) :
    Awake rel (begun rel row.role eng) := by
  intro other known accepter
  unfold begun at known ⊢
  split at known
  · rename_i due
    rw [if_pos due]
    simp [Db.activationSent, Db.setActivationSent, Table.lookup_upsert]
  · rename_i idle
    cases found.symm.trans known
    rw [if_neg idle]
    by_contra unsent
    exact idle ⟨accepter, unsent⟩

theorem Murmurs.awake (murmurs : Murmurs sys rel before after)
    (awake : Awake rel before) : Awake rel after := by
  intro row found accepter
  have same := congrArg (Option.map fun pair => pair.1.role) murmurs.outbound.standing
  simp only [Option.map_map, found, Option.map_some] at same
  obtain ⟨old, known, role⟩ := Option.map_eq_some_iff.mp same.symm
  have sent := awake old known (role.trans accepter)
  have settings : after.db.settings.activationSent =
      before.db.settings.activationSent :=
    (congrArg (fun db => db.settings.activationSent) murmurs.outbound.backdrop :)
  unfold Db.activationSent at sent ⊢
  rw [settings]
  exact sent

theorem Awake.wakes (awake : Awake rel eng) :
    Wakes sys rel eng env := by
  intro row found
  rw [run_activate_eq, if_neg]
  · exact ⟨_, rfl⟩
  · exact fun due => due.2 (awake row found due.1)

theorem murmurs_activate : Murmurs sys rel (begun rel role eng)
      (final ((activate sys rel role).run eng)) := by
  rw [run_activate_eq]
  split
  · exact murmurs_of (outbound_onRelationshipActive sys)
      (evolves_onRelationshipActive (permits_anything sys)) _
  · rename_i idle
    rw [begun, if_neg idle]
    exact refl_of (Murmurs sys rel) eng

end

def cleared (rel : RelId) (env : Envelope) (eng : Engine) : Engine :=
  { eng with
    db := (eng.db.raiseHistoryCut rel env.appSeq).eraseHistory rel [env.msgId] }

def Plain (env : Envelope) : Prop := (∃ msg, env.payload = .msg msg) ∨ env.payload = .deleteAll

def carriedOut (rel : RelId) (env : Envelope) (filed : Engine) : Engine :=
  match env.payload with
  | .deleteAll => cleared rel env filed
  | _ => filed

def given (sys : Platform) (rel : RelId) (plain : Bytes) (eng : Engine) : Engine :=
  final ((handlePlaintext sys rel plain).run eng)

def Files (sys : Platform) (rel : RelId) (eng : Engine) (env : Envelope) : Prop :=
  Wakes sys rel eng env ∧ isCut rel env eng.clock eng.db = false

/-- How the delivery of an envelope that is heeded goes. -/
inductive Course (sys : Platform) (rel : RelId) (eng : Engine)
    (env : Envelope) (after : Engine) : Prop
  | lost (found : eng.db.relationship rel = some row)
      (fails : ¬ Files sys rel eng env)
      (murmurs : Murmurs sys rel (begun rel row.role (heard rel env eng)) after)
  | filed (found : eng.db.relationship rel = some row)
      (files : Files sys rel eng env)
      (woke : Murmurs sys rel (begun rel row.role (heard rel env eng)) woken)
      (known : woken.db.relationship rel = some current)
      (inserted : woken.db.messages.insert (inboundRow sys.nfc rel env
        (admission rel env eng).sentAt woken.clock current) = some messages)
      (murmurs : Murmurs sys rel (carriedOut rel env
        { woken with db := { woken.db with messages } }) after)

theorem unheeded (decoded : Envelope.decode sys.nfc plain = .ok env)
    (refused : ¬ Heeds rel eng env) :
    given sys rel plain eng = eng := by
  have none : ∀ other row, ¬ Accepts sys eng rel plain other row := by
    intro other row accepts
    cases decoded.symm.trans accepts.decoded
    exact refused ⟨by rw [accepts.found]; rfl, accepts.admits⟩
  exact final_handlePlaintext_of_not none

theorem murmurs_of_lost (accepts : Accepts sys eng rel plain env row)
    (fails : ¬ Files sys rel eng env) :
    Murmurs sys rel (begun rel row.role (heard rel env eng)) (given sys rel plain eng) := by
  unfold given
  rw [run_handlePlaintext accepts]
  have woke := @murmurs_activate sys rel (heard rel env eng) row.role
  cases activated : (activate sys rel row.role).run (heard rel env eng) with
  | error error woken =>
    unfold receive
    rw [run_bind_error activated]
    rwa [activated] at woke
  | ok _ woken =>
    rw [activated] at woke
    have wakes : Wakes sys rel eng env := by
      intro other found
      cases accepts.found.symm.trans found
      exact ⟨woken, activated⟩
    have cut : isCut rel env woken.clock woken.db = true := by
      obtain ⟨settings, began⟩ := begun_eq rel row.role (heard rel env eng)
      rw [final_ok, began] at woke
      refine (woke.isCut env).trans ?_
      show isCut rel env eng.clock eng.db = true
      by_contra uncut
      exact fails ⟨wakes, by simpa using uncut⟩
    rw [run_receive activated, if_pos cut]
    exact trans_of (Murmurs sys rel) woke (murmurs_closeGap _ woken)

theorem murmurs_of_dispatches (simple : Plain env)
    (dispatches : Dispatches sys rel eng plain env filed) :
    Murmurs sys rel (carriedOut rel env filed) (given sys rel plain eng) := by
  refine trans_of (Murmurs sys rel) ?_ (tail_of_dispatches murmurs_closeGap dispatches)
  unfold dispatch carriedOut
  rcases simple with ⟨msg, holds⟩ | holds
  · rw [holds]
    exact murmurs_onMsg env.msgId msg.body filed
  · rw [holds]
    exact refl_of (Murmurs sys rel) _

theorem course_given (simple : Plain env) (decoded : Envelope.decode sys.nfc plain = .ok env)
    (unminted : Unminted sys eng env.msgId) (heeds : Heeds rel eng env) :
    Course sys rel eng env (given sys rel plain eng) := by
  obtain ⟨row, found⟩ := Option.isSome_iff_exists.mp heeds.1
  have accepts : Accepts sys eng rel plain env row := ⟨decoded, found, heeds.2⟩
  by_cases files : Files sys rel eng env
  · have stored : isEphemeral env.envelopeType = false := by
      rcases simple with ⟨msg, holds⟩ | holds <;>
        simp [Envelope.envelopeType, Payload.envelopeType, holds, isEphemeral]
    obtain ⟨woken, activated⟩ := files.1 row found
    have woke := @murmurs_activate sys rel (heard rel env eng) row.role
    rw [activated, final_ok] at woke
    obtain ⟨settings, began⟩ := begun_eq rel row.role (heard rel env eng)
    have late := woke
    rw [began] at late
    obtain ⟨current, known⟩ := (poised_of_activate activated).known found
    obtain ⟨messages, inserted, ledgered⟩ := @run_ledgerInbound sys rel
      env woken current plain (admission rel env eng).sentAt decoded
      known stored (late.absent unminted heeds.2.newId)
    exact .filed found files woke known inserted (murmurs_of_dispatches simple
      ⟨row, woken, accepts, activated, (late.isCut env).trans files.2, ledgered⟩)
  · exact .lost found files (murmurs_of_lost accepts files)

/-- What passes leaves the way open for another envelope. -/
structure Bypasses (sys : Platform) (rel : RelId) (other : Envelope)
    (before after : Engine) : Prop where
  unmoved : Unmoved rel other.appSeq before after
  draws : before.draws ≤ after.draws
  absent : Unminted sys before other.msgId →
    before.db.message other.msgId = none → after.db.message other.msgId = none

theorem Bypasses.trans (left : Bypasses sys rel other first second)
    (right : Bypasses sys rel other second third) :
    Bypasses sys rel other first third :=
  ⟨left.unmoved.trans right.unmoved, left.draws.trans right.draws,
    fun unminted absent => right.absent (unminted.mono left.draws) (left.absent unminted absent)⟩

theorem Murmurs.bypasses (murmurs : Murmurs sys rel before after) :
    Bypasses sys rel other before after :=
  ⟨murmurs.unmoved, murmurs.draws, murmurs.absent⟩

theorem bypasses_begun (seqs : other.appSeq ≠ env.appSeq) : Bypasses sys rel other eng
      (begun rel role (heard rel env eng)) := by
  refine ⟨unmoved_begun seqs, ?_, ?_⟩
  · obtain ⟨settings, began⟩ := begun_eq rel role (heard rel env eng)
    rw [began]
    exact le_rfl
  · obtain ⟨settings, began⟩ := begun_eq rel role (heard rel env eng)
    rw [began]
    exact fun _ absent => absent

theorem bypasses_insert {row : MessageRow} (inserted : eng.db.messages.insert row = some messages)
    (ids : other.msgId ≠ row.msgId) :
    Bypasses sys rel other eng { eng with db := { eng.db with messages } } := by
  refine ⟨⟨rfl, rfl, rfl, rfl⟩, le_rfl, fun _ absent => ?_⟩
  exact (Table.lookup_insert inserted other.msgId).trans ((if_neg ids.symm).trans absent)

theorem relationship_cleared : (cleared rel env eng).db.relationship rel =
    (eng.db.relationship rel).map fun row =>
      { row with historyCutSeq := Db.raisedCut row.historyCutSeq env.appSeq } := by
  show (eng.db.raiseHistoryCut rel env.appSeq).relationship rel = _
  unfold Db.raiseHistoryCut
  rw [Db.relationship_updateRelationship, if_pos rfl]

theorem historyCut_cleared (known : eng.db.relationship rel = some row) :
    (cleared rel env eng).db.historyCut rel = Db.raisedCut (eng.db.historyCut rel) env.appSeq := by
  unfold Db.historyCut
  rw [relationship_cleared, known]
  rfl

theorem bypasses_carriedOut : Bypasses sys rel other eng (carriedOut rel env eng) := by
  unfold carriedOut
  split
  · refine ⟨⟨rfl, rfl, ?_, rfl⟩, le_rfl, fun _ absent => ?_⟩
    · rw [relationship_cleared, Option.map_map]
      rfl
    · refine Table.lookup_eq_none.mpr fun row mem => ?_
      exact Table.lookup_eq_none.mp absent row (Table.mem_delete.mp mem).1
  · exact ⟨⟨rfl, rfl, rfl, rfl⟩, le_rfl, fun _ absent => absent⟩

theorem awake_carriedOut (awake : Awake rel eng) : Awake rel (carriedOut rel env eng) := by
  unfold carriedOut
  split
  · intro row known accepter
    rw [relationship_cleared] at known
    obtain ⟨old, known', rfl⟩ := Option.map_eq_some_iff.mp known
    exact awake old known' accepter
  · exact awake

def Alive (msgId : MsgId) (eng : Engine) : Prop :=
  ∃ row, eng.db.message msgId = some row ∧ row.tombstone = false

theorem not_alive_of_absent (absent : eng.db.message msgId = none) : ¬ Alive msgId eng := by
  rintro ⟨row, found, -⟩
  cases absent.symm.trans found

section

variable {rel : RelId} {eng : Engine} {env other : Envelope}
  {plain : Bytes}
  (decoded : Envelope.decode sys.nfc plain = .ok env)
  (unminted : Unminted sys eng env.msgId)

include decoded unminted

theorem bypasses_given (simple : Plain env) (ids : other.msgId ≠ env.msgId)
    (seqs : other.appSeq ≠ env.appSeq) :
    Bypasses sys rel other eng (given sys rel plain eng) := by
  by_cases heeds : Heeds rel eng env
  · cases course_given simple decoded unminted heeds with
    | lost found fails murmurs => exact (bypasses_begun seqs).trans murmurs.bypasses
    | filed found files woke known inserted murmurs =>
      exact (bypasses_begun seqs).trans (woke.bypasses.trans ((bypasses_insert inserted ids).trans
          (bypasses_carriedOut.trans murmurs.bypasses)))
  · rw [unheeded decoded heeds]
    exact ⟨⟨rfl, rfl, rfl, rfl⟩, le_rfl, fun _ absent => absent⟩

theorem message_filed (holds : env.payload = .msg msg)
    (heeds : Heeds rel eng env) (files : Files sys rel eng env) :
    ∃ row, (given sys rel plain eng).db.message env.msgId =
        some row ∧ row.tombstone = false ∧ row.relId = rel ∧
      row.direction = .in_ := by
  cases course_given (.inl ⟨msg, holds⟩) decoded unminted heeds with
  | lost found fails murmurs => exact absurd files fails
  | filed found files woke known inserted murmurs =>
    have filed := (Table.lookup_insert inserted env.msgId).trans (if_pos rfl)
    rw [carriedOut, holds] at murmurs
    have kept := murmurs.kept (Table.lookup_eq_some.mp filed).1 rfl
    exact ⟨_, Table.lookup_eq_some.mpr ⟨kept, rfl⟩, rfl, rfl, rfl⟩

theorem absent_of_lost (simple : Plain env) (fresh : eng.db.message env.msgId = none)
    (lost : ¬ (Heeds rel eng env ∧ Files sys rel eng env)) :
    (given sys rel plain eng).db.message env.msgId = none := by
  by_cases heeds : Heeds rel eng env
  · cases course_given simple decoded unminted heeds with
    | @lost row found fails murmurs =>
      obtain ⟨settings, began⟩ := begun_eq rel row.role (heard rel env eng)
      rw [began] at murmurs
      exact murmurs.absent unminted fresh
    | filed found files => exact absurd ⟨heeds, files⟩ lost
  · rw [unheeded decoded heeds]
    exact fresh

theorem alive_given_iff {msg : Msg} (holds : env.payload = .msg msg)
    (fresh : eng.db.message env.msgId = none) :
    Alive env.msgId (given sys rel plain eng) ↔ Heeds rel eng env ∧ Files sys rel eng env := by
  constructor
  · intro live
    by_contra lost
    exact not_alive_of_absent (absent_of_lost decoded unminted (.inl ⟨msg, holds⟩) fresh lost) live
  · rintro ⟨heeds, files⟩
    obtain ⟨row, found, live, -⟩ := message_filed decoded unminted holds heeds files
    exact ⟨row, found, live⟩

theorem awake_given (simple : Plain env) (heeds : Heeds rel eng env) :
    Awake rel (given sys rel plain eng) := by
  cases course_given simple decoded unminted heeds with
  | lost found fails murmurs => exact murmurs.awake (awake_begun found)
  | filed found files woke known inserted murmurs =>
    exact murmurs.awake (awake_carriedOut (woke.awake (awake_begun found)))

theorem historyCut_given (holds : env.payload = .deleteAll) (heeds : Heeds rel eng env) :
    (Wakes sys rel eng env ∧ (given sys rel plain eng).db.historyCut rel =
        Db.raisedCut (eng.db.historyCut rel) env.appSeq) ∨
    (¬ Wakes sys rel eng env ∧ (given sys rel plain eng).db.historyCut rel =
        eng.db.historyCut rel) := by
  have start : ∀ role, (begun rel role (heard rel env eng)).db.historyCut
      rel = eng.db.historyCut rel := by
    intro role
    obtain ⟨settings, began⟩ := begun_eq rel role (heard rel env eng)
    rw [began]
    rfl
  cases course_given (.inr holds) decoded unminted heeds with
  | lost found fails murmurs =>
    refine .inr ⟨fun wakes => fails ⟨wakes, ?_⟩, murmurs.historyCut.trans (start _)⟩
    simp [isCut, shouldDropInbound, Envelope.envelopeType, Payload.envelopeType,
      holds, isHistoryType]
  | filed found files woke known inserted murmurs =>
    rw [carriedOut, holds] at murmurs
    refine .inl ⟨files.1, murmurs.historyCut.trans ((historyCut_cleared known).trans ?_)⟩
    exact congrArg (Db.raisedCut · env.appSeq) (woke.historyCut.trans (start _))

theorem erased_given (holds : env.payload = .deleteAll)
    (own : Unminted sys eng msgId) (ids : msgId ≠ env.msgId)
    (heeds : Heeds rel eng env) (wakes : Wakes sys rel eng env)
    (ours : ∀ row, eng.db.message msgId = some row → row.relId = rel ∧ row.direction = .in_) :
    (given sys rel plain eng).db.message msgId = none := by
  cases course_given (.inr holds) decoded unminted heeds with
  | lost found fails murmurs =>
    refine absurd ⟨wakes, ?_⟩ fails
    simp [isCut, shouldDropInbound, Envelope.envelopeType, Payload.envelopeType,
      holds, isHistoryType]
  | @filed contact woken current messages found files woke known inserted
      murmurs =>
    rw [carriedOut, holds] at murmurs
    obtain ⟨settings, began⟩ := begun_eq rel contact.role (heard rel env eng)
    rw [began] at woke
    have ours' : ∀ row ∈ woken.db.messages, row.msgId = msgId → row.relId = rel := by
      intro row mem key
      cases earlier : eng.db.message msgId with
      | none =>
        have absent := woke.absent own earlier
        exact absurd key (Table.lookup_eq_none.mp absent row mem)
      | some old =>
        obtain ⟨same, inbound⟩ := ours old earlier
        obtain ⟨member', key'⟩ := Table.lookup_eq_some.mp earlier
        have kept := woke.kept member' inbound
        obtain rfl := Table.eq_of_key_eq mem kept (key.trans key'.symm)
        exact same
    have draws : eng.draws ≤ woken.draws := woke.draws
    refine murmurs.absent (own.mono draws) (Table.lookup_eq_none.mpr fun row mem key => ?_)
    obtain ⟨filed, spared⟩ := Table.mem_delete.mp mem
    rcases (Table.mem_insert inserted).mp filed with old | rfl
    · have same := ours' row old key
      simp [same, key, ids] at spared
    · exact ids key.symm

end

/-- Two envelopes of one peer, new to the engine and numbered differently. -/
structure Crosses (sys : Platform) (rel : RelId) (eng : Engine)
    (text clear : Bytes) (m d : Envelope) : Prop where
  message : Envelope.decode sys.nfc text = .ok m
  deletion : Envelope.decode sys.nfc clear = .ok d
  telling : ∃ msg, m.payload = .msg msg
  clears : d.payload = .deleteAll
  ids : m.msgId ≠ d.msgId
  seqs : m.appSeq ≠ d.appSeq
  newMessage : eng.db.message m.msgId = none
  newDeletion : eng.db.message d.msgId = none
  ownMessage : Unminted sys eng m.msgId
  ownDeletion : Unminted sys eng d.msgId

/-- In either order the message ends up on view exactly if it is numbered
higher. -/
def Commutes (sys : Platform) (rel : RelId) (eng : Engine)
    (text clear : Bytes) (m d : Envelope) : Prop :=
  (Alive m.msgId (given sys rel clear (given sys rel text eng)) ↔ d.appSeq < m.appSeq) ∧
    (Alive m.msgId (given sys rel text (given sys rel clear eng)) ↔ d.appSeq < m.appSeq)

/-- Where both are let in, the message is numbered lower and falls below the cut
that the deletion leaves; where only the message is, it is on view exactly if
numbered higher; where it is not let in, it is numbered lower. -/
def Separates (sys : Platform) (rel : RelId) (eng : Engine) (m d : Envelope) : Prop :=
  (¬ Heeds rel eng m ∧ m.appSeq < d.appSeq) ∨
  (Heeds rel eng m ∧ ¬ Heeds rel eng d ∧ (Wakes sys rel eng m ∧
      isCut rel m eng.clock eng.db = false ↔ d.appSeq < m.appSeq)) ∨
  (Heeds rel eng m ∧ Heeds rel eng d ∧ m.appSeq < d.appSeq ∧ ∃ cut, (Wakes sys rel eng d ∧
          cut = Db.raisedCut (eng.db.historyCut rel) d.appSeq ∨
        ¬ Wakes sys rel eng d ∧ cut = eng.db.historyCut rel) ∧
      shouldDropInbound m.envelopeType m.appSeq cut
        (eng.db.isTombstoned rel m.msgId eng.clock) = true)

section

variable {m d : Envelope}

theorem lt_iff_not_lt (seqs : m.appSeq ≠ d.appSeq) :
    m.appSeq < d.appSeq ↔ ¬ d.appSeq < m.appSeq := by
  rw [UInt64.not_lt, UInt64.le_iff_lt_or_eq]
  exact (or_iff_left seqs).symm

theorem Crosses.pastClear (crosses : Crosses sys rel eng text clear m d) :
    Bypasses sys rel m eng (given sys rel clear eng) :=
  bypasses_given crosses.deletion crosses.ownDeletion (.inr crosses.clears) crosses.ids crosses.seqs

theorem Crosses.pastText (crosses : Crosses sys rel eng text clear m d) :
    Bypasses sys rel d eng (given sys rel text eng) :=
  bypasses_given crosses.message crosses.ownMessage (.inl crosses.telling)
    crosses.ids.symm crosses.seqs.symm

theorem commutes_of_unheeded (crosses : Crosses sys rel eng text clear m d)
    (refused : ¬ Heeds rel eng m) :
    Commutes sys rel eng text clear m d ↔ m.appSeq < d.appSeq := by
  have passes := crosses.pastClear
  have absent := passes.absent crosses.ownMessage crosses.newMessage
  have first : given sys rel text eng = eng := unheeded crosses.message refused
  have second : given sys rel text (given sys rel clear eng) =
      given sys rel clear eng := by
    refine unheeded crosses.message fun heeds => refused ?_
    exact (passes.unmoved.heeds crosses.newMessage absent).mp heeds
  unfold Commutes
  rw [first, second, and_self, lt_iff_not_lt crosses.seqs]
  have gone := not_alive_of_absent absent
  exact ⟨fun same => mt same.mpr gone, fun lower => iff_of_false gone lower⟩

theorem commutes_of_undeleted (crosses : Crosses sys rel eng text clear m d)
    (heeds : Heeds rel eng m) (refused : ¬ Heeds rel eng d) :
    Commutes sys rel eng text clear m d ↔ (Wakes sys rel eng m ∧
        isCut rel m eng.clock eng.db = false ↔ d.appSeq < m.appSeq) := by
  obtain ⟨msg, holds⟩ := crosses.telling
  have passes := crosses.pastText
  have absent := passes.absent crosses.ownDeletion crosses.newDeletion
  have first : given sys rel clear eng = eng := unheeded crosses.deletion refused
  have second : given sys rel clear (given sys rel text eng) =
      given sys rel text eng := by
    refine unheeded crosses.deletion fun heeds => refused ?_
    exact (passes.unmoved.heeds crosses.newDeletion absent).mp heeds
  unfold Commutes
  rw [first, second, and_self, alive_given_iff crosses.message
    crosses.ownMessage holds crosses.newMessage, and_iff_right heeds, Files]

theorem commutes_of_heeded (crosses : Crosses sys rel eng text clear m d)
    (heeds : Heeds rel eng m) (deletes : Heeds rel eng d) :
    Commutes sys rel eng text clear m d ↔ m.appSeq < d.appSeq ∧ isCut rel m
        (given sys rel clear eng).clock
        (given sys rel clear eng).db = true := by
  obtain ⟨msg, holds⟩ := crosses.telling
  -- the message first: whatever becomes of it, the deletion erases it
  have passes := crosses.pastText
  have still := passes.absent crosses.ownDeletion crosses.newDeletion
  have awake := awake_given crosses.message crosses.ownMessage (.inl crosses.telling) heeds
  have ours : ∀ row, (given sys rel text eng).db.message m.msgId =
      some row → row.relId = rel ∧ row.direction = .in_ := by
    intro row found
    by_cases files : Files sys rel eng m
    · obtain ⟨filed, found', -, own, inbound⟩ := message_filed
        crosses.message crosses.ownMessage holds heeds files
      cases found.symm.trans found'
      exact ⟨own, inbound⟩
    · have absent := absent_of_lost crosses.message crosses.ownMessage
        (.inl crosses.telling) crosses.newMessage fun all => files all.2
      cases absent.symm.trans found
  have erased := erased_given crosses.deletion
    (crosses.ownDeletion.mono passes.draws) crosses.clears
    (crosses.ownMessage.mono passes.draws) crosses.ids
    ((passes.unmoved.heeds crosses.newDeletion still).mpr deletes) awake.wakes
    ours
  -- the deletion first: the message meets the cut it has left
  have passes' := crosses.pastClear
  have fresh := passes'.absent crosses.ownMessage crosses.newMessage
  have awake' := awake_given crosses.deletion crosses.ownDeletion (.inr crosses.clears) deletes
  have met := @alive_given_iff sys rel _ _ _ crosses.message
    (crosses.ownMessage.mono passes'.draws) _ holds fresh
  rw [and_iff_right ((passes'.unmoved.heeds crosses.newMessage fresh).mpr heeds),
    Files, and_iff_right awake'.wakes] at met
  have gone := not_alive_of_absent erased
  unfold Commutes
  rw [met, lt_iff_not_lt crosses.seqs, ← Bool.not_eq_true]
  constructor
  · rintro ⟨first, second⟩
    have lower := mt first.mpr gone
    exact ⟨lower, not_not.mp (mt second.mp lower)⟩
  · rintro ⟨lower, cut⟩
    exact ⟨iff_of_false gone lower, iff_of_false (not_not.mpr cut) lower⟩

end

/-- A message and a deletion of everything before it commute only where the
message goes either way. -/
theorem deleteAll_commutes_iff {sys : Platform} {rel : RelId}
    {eng : Engine} {text clear : Bytes} {m d : Envelope}
    (crosses : Crosses sys rel eng text clear m d) :
    Commutes sys rel eng text clear m d ↔
      Separates sys rel eng m d := by
  by_cases heeds : Heeds rel eng m
  · by_cases deletes : Heeds rel eng d
    · have passes := crosses.pastClear
      have cut : isCut rel m (given sys rel clear eng).clock (given sys rel clear eng).db =
            shouldDropInbound m.envelopeType m.appSeq ((given sys rel clear eng).db.historyCut rel)
              (eng.db.isTombstoned rel m.msgId eng.clock) := by
        unfold isCut Db.isTombstoned
        rw [passes.unmoved.clock, passes.unmoved.tombstones]
      rw [commutes_of_heeded crosses heeds deletes, cut]
      unfold Separates
      simp only [heeds, deletes, not_true_eq_false, false_and, true_and, false_or]
      refine and_congr_right fun _ => ?_
      obtain ⟨wakes, raised⟩ | ⟨fails, same⟩ := historyCut_given
        crosses.deletion crosses.ownDeletion crosses.clears deletes
      · rw [raised]
        simp [wakes]
      · rw [same]
        simp [fails]
    · rw [commutes_of_undeleted crosses heeds deletes]
      unfold Separates
      simp [heeds, deletes]
  · rw [commutes_of_unheeded crosses heeds]
    unfold Separates
    simp [heeds]

/-! A message numbered after the deletion that comes before it. -/

def wipe : Envelope where
  msgId := List.Vector.replicate 16 2
  appSeq := 2
  sentAt := 0
  refId := none
  payload := .deleteAll

def reply : Envelope where
  msgId := List.Vector.replicate 16 3
  appSeq := 3
  sentAt := 0
  refId := none
  payload := .msg { body := "b" }

def sent (env : Envelope) : Bytes := (env.encode id).toOption.getD []

def unnamed : Platform := { Platform.loopback with
  randomMsgId := fun _ => List.Vector.replicate 16 0 }

theorem crosses_wipe (decoded : Envelope.decode id (sent m) = .ok m)
    (telling : ∃ msg, m.payload = .msg msg) (ids : m.msgId ≠ wipe.msgId)
    (seqs : m.appSeq ≠ wipe.appSeq) (named : List.Vector.replicate 16 0 ≠ m.msgId) :
    Crosses unnamed "alice" acquainted (sent m) (sent wipe) m wipe :=
  ⟨decoded, rfl, telling, rfl, ids, seqs, rfl, rfl, fun _ _ => named,
    fun _ _ => (by decide : List.Vector.replicate 16 0 ≠ wipe.msgId)⟩

theorem note_separates : Separates unnamed "alice" acquainted note wipe := by
  have awake : Awake "alice" acquainted := by
    intro row found accepter
    cases (relationship_paired _).symm.trans found
    cases accepter
  refine .inr (.inr ⟨⟨rfl, ?_, ?_, ?_, ?_, ?_⟩, ⟨rfl, ?_, ?_, ?_, ?_, ?_⟩, ?_, _,
    .inl ⟨awake.wakes, rfl⟩, ?_⟩)
  all_goals decide +kernel

theorem note_commutes : Commutes unnamed "alice" acquainted (sent note) (sent wipe) note wipe :=
  (deleteAll_commutes_iff (crosses_wipe rfl ⟨_, rfl⟩ (by decide)
    (by decide) (by decide))).mpr note_separates

/-- Delivered first, a message numbered after the deletion goes with it. -/
theorem later_message_erased :
    Crosses unnamed "alice" acquainted (sent reply) (sent wipe) reply wipe ∧
      wipe.appSeq < reply.appSeq ∧
      ¬ Alive reply.msgId (given unnamed "alice" (sent wipe)
        (given unnamed "alice" (sent reply) acquainted)) ∧
      Alive reply.msgId (given unnamed "alice" (sent reply)
        (given unnamed "alice" (sent wipe) acquainted)) := by
  have gone : (given unnamed "alice" (sent wipe) (given unnamed "alice"
      (sent reply) acquainted)).db.message reply.msgId = none := by
    decide +kernel
  have stays : ((given unnamed "alice" (sent reply) (given unnamed "alice"
      (sent wipe) acquainted)).db.message reply.msgId).map MessageRow.tombstone = some false := by
    decide +kernel
  obtain ⟨row, found, live⟩ := Option.map_eq_some_iff.mp stays
  exact ⟨crosses_wipe rfl ⟨_, rfl⟩ (by decide) (by decide) (by decide),
    by decide, not_alive_of_absent gone, row, found, live⟩

end SChatCore.Ledger
