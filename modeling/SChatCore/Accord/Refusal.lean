import SChatCore.Accord.Conduct

namespace SChatCore.Accord

open Data Data.Action Wire Store Policy Engine

/-! What a policy call that fails leaves behind. The columns are stored and
the rows on file changed before the letter is sent. -/

/-- The policy of every relationship, the expiry of every message on file and
the attachments are as they were. -/
structure Unaltered (before after : Db) : Prop where
  policy : ∀ rel, (after.relationship rel).map ofRow = (before.relationship rel).map ofRow
  expiry : ∀ msgId row, before.message msgId = some row →
    (after.message msgId).map MessageRow.expiresAt = some row.expiresAt
  attachments : after.attachments = before.attachments

def Atomic (action : Action α) (eng : Engine) : Prop :=
  ∀ error after, action.run eng = .error error after → Unaltered eng.db after.db

/-- The rules on offer offered again, under the same id. -/
def Repeats (state : PolicyState) (proposeId : MsgId) : Deed → Prop
  | .propose ttlSec screenshot attachDownload =>
    state.pending = some {
      ttlSec, screenshot, attachDownload, inbound := false, proposeId }
  | _ => False

def Leaves (before after : Engine) : Prop := Unaltered before.db after.db

instance : IsPreorder Engine Leaves where
  refl _ := ⟨fun _ => rfl, fun _ _ found => by rw [found]; rfl, rfl⟩
  trans _ _ _ left right := {
    policy := fun rel => (right.policy rel).trans (left.policy rel)
    expiry := fun msgId row found => by
      have first := left.expiry msgId row found
      obtain ⟨kept, filed, same⟩ := Option.map_eq_some_iff.mp first
      rw [right.expiry msgId kept filed, same]
    attachments := right.attachments.trans left.attachments }

theorem leaves_of_tables (relationships : after.db.relationships = eng.db.relationships)
    (messages : after.db.messages = eng.db.messages)
    (attachments : after.db.attachments = eng.db.attachments) :
    Leaves eng after where
  policy other := by
    unfold Db.relationship
    rw [relationships]
  expiry msgId row found := by
    rw [Db.message, messages, show Table.lookup _ msgId = some row from found]
    rfl
  attachments := attachments

theorem leaves_updateRelationship (kept : ∀ row, eng.db.relationship rel = some row →
      ofRow (assign row) = ofRow row) :
    Leaves eng { eng with
      db := eng.db.updateRelationship rel assign keepsKey } where
  policy other := by
    rw [Db.relationship_updateRelationship]
    split
    · rename_i same
      subst same
      cases found : eng.db.relationship other with
      | none => rfl
      | some row => exact congrArg some (kept row found)
    · rfl
  expiry msgId row found := by
    show Option.map _ (eng.db.message msgId) = _
    rw [found]
    rfl
  attachments := rfl

theorem leaves_updateMessages {db : Db} {chosen : MessageRow → Bool}
    {assign : MessageRow → MessageRow} (keepsKey : ∀ row, (assign row).msgId = row.msgId)
    (messages : db.messages = eng.db.messages.update chosen assign keepsKey)
    (kept : ∀ row, (assign row).expiresAt = row.expiresAt)
    (relationships : db.relationships = eng.db.relationships)
    (attachments : db.attachments = eng.db.attachments) :
    Leaves eng { eng with db } where
  policy other := by
    unfold Db.relationship
    rw [relationships]
  expiry msgId row found := by
    show Option.map _ (Table.lookup db.messages msgId) = _
    rw [messages, Table.lookup_update,
      show Table.lookup eng.db.messages msgId = some row from found]
    simp only [Option.map_some]
    split
    · rw [kept]
    · rfl
  attachments := attachments

theorem leaves_insertMessage {now : Nat} (inserted : eng.db.insertMessage now msg = .ok db) :
    Leaves eng { eng with db } := by
  obtain ⟨messages, stored, rfl⟩ := Db.insertMessage_eq_ok.mp inserted
  refine ⟨fun _ => rfl, fun msgId row found => ?_, rfl⟩
  have fresh := (Table.insert_eq_some.mp stored).1
  have differs : msg.msgId ≠ msgId := by
    rintro rfl
    cases fresh.symm.trans found
  show Option.map _ (Table.lookup messages msgId) = _
  rw [(Table.lookup_insert stored msgId).trans (if_neg differs),
    show Table.lookup eng.db.messages msgId = some row from found]
  rfl

theorem leaves_sends : SendSteps rel Leaves where
  allocate _ := leaves_of_tables rfl rfl rfl
  log _ _ _ _ := leaves_of_tables rfl rfl rfl
  break_ eng := by
    have broken : Leaves eng { eng with
        db := eng.db.setBroken rel } :=
      leaves_updateRelationship fun _ _ => rfl
    refine trans_of Leaves broken ?_
    exact @leaves_updateMessages { eng with
      db := eng.db.setBroken rel } _ _ _ (fun _ => by rfl) rfl
      (fun _ => rfl) rfl rfl
  cache _ _ := leaves_of_tables rfl rfl rfl
  file _ _ _ _ inserted _ _ := leaves_insertMessage inserted
  queue _ _ _ _ _ _ queued := by
    obtain ⟨outbox, -, rfl⟩ := Db.enqueue_eq_ok.mp queued
    exact leaves_of_tables rfl rfl rfl
  unqueue _ _ _ := leaves_of_tables rfl rfl rfl
  deliver _ _ _ := leaves_updateMessages (fun _ => by rfl) rfl (fun _ => rfl) rfl rfl

theorem leaves_post (policy : Option ChatPolicy) : Keeps Leaves (post sys rel policy) := by
  cases policy with
  | none => exact keeps_pure _
  | some policy => exact keeps_returns (leaves_sends.sendEnvelope sys _ none)

/-! The letter goes out after the change exactly if it would have gone out
before it. -/

/-- A row but for what the effects of a change write. -/
def outline (row : MessageRow) : MessageRow :=
  { row with payload := [], expiresAt := none, tombstone := false }

def outlines (db : Db) : List MessageRow := db.messages.rows.map outline

theorem outlines_update {chosen : MessageRow → Bool} {assign : MessageRow → MessageRow}
    (updated : after.messages.rows = before.messages.rows.map fun row =>
      if chosen row then assign row else row)
    (kept : ∀ row, outline (assign row) = outline row) :
    outlines after = outlines before := by
  unfold outlines
  rw [updated, List.map_map]
  refine List.map_congr_left fun row _ => ?_
  simp only [Function.comp_apply]
  split
  · exact kept row
  · rfl

theorem outlines_eraseAll (headIds : List MsgId) (db : Db) :
    outlines (headIds.foldl (fun db headId => eraseAttachMessage headId db) db) = outlines db := by
  induction headIds generalizing db with
  | nil => rfl
  | cons headId rest ih =>
    have first : outlines (eraseAttachMessage headId db) = outlines db :=
      outlines_update rfl fun _ => rfl
    exact (ih _).trans first

theorem outlines_clampAndErase (rel : RelId) (outcome : ApplyOutcome)
    (db : Db) : outlines (clampAndErase rel outcome db) = outlines db := by
  obtain ⟨clamped, shape, source⟩ := clampAndErase_eq rel outcome db
  have same : outlines clamped = outlines db := by
    obtain ⟨-, rfl⟩ | ⟨limit, -, rfl⟩ := source
    · rfl
    · exact outlines_update rfl fun _ => rfl
  rw [shape]
  split
  · exact (outlines_eraseAll _ _).trans same
  · exact same

theorem message_eq_none_of_outlines (same : outlines after = outlines before) :
    after.message msgId = none ↔ before.message msgId = none := by
  have listed : ∀ db : Db, db.message msgId = none ↔ ∀ row ∈ outlines db, row.msgId ≠ msgId := by
    intro db
    unfold outlines
    rw [List.forall_mem_map]
    exact Table.lookup_eq_none
  rw [listed, listed, same]

theorem maxOutSeq_of_outlines (rel : RelId) (same : outlines after = outlines before) :
    after.maxOutSeq rel = before.maxOutSeq rel := by
  have listed : ∀ db : Db, db.maxOutSeq rel = Db.largestSigned (((outlines db).filter fun row =>
        row.relId = rel && row.direction = .out).map MessageRow.appSeq) := by
    intro db
    unfold outlines
    rw [List.filter_map, List.map_map]
    rfl
  rw [listed, listed, same]

section

variable {sys : Platform} {rel : RelId} {eng : Engine}
  {next : PolicyState}

theorem passes_chatPolicy_iff : Passes db rel .chatPolicy ↔
      ∃ row, db.relationship rel = some row ∧ row.sessionState ≠ .broken ∧
        ¬ (row.role = .inviter ∧ row.state = .request) ∧
        row.closeState = none ∧ allows row.peerCaps .chatPolicy = true := by
  rw [passes_iff]
  simp [settlesClose, policyDenies]

theorem passes_enacted : Passes (enacted rel next outcome eng).db rel .chatPolicy ↔
      Passes eng.db rel .chatPolicy := by
  have stored : (enacted rel next outcome eng).db.relationship rel =
      (eng.db.relationship rel).map (saved next) := by
    have kept : (enacted rel next outcome eng).db.relationships =
        (savePolicy rel next eng.db).relationships :=
      (congrArg Db.relationships (clampAndErase_rest rel outcome _) :)
    unfold Db.relationship
    rw [kept]
    exact (Db.relationship_updateRelationship rel rel (saved next)
      (fun _ => rfl) eng.db).trans (if_pos rfl)
  rw [passes_chatPolicy_iff, passes_chatPolicy_iff, stored]
  cases eng.db.relationship rel with
  | none => simp
  | some row => simp [saved]

theorem transmits_enacted (policy : ChatPolicy) : Transmits sys (enacted rel next outcome eng) rel
        (.chatPolicy policy) none ↔
      Transmits sys eng rel (.chatPolicy policy) none := by
  have rest := clampAndErase_rest rel outcome (savePolicy rel next eng.db)
  have outbox : (enacted rel next outcome eng).db.outbox =
      eng.db.outbox := (congrArg Db.outbox rest :)
  have ciphertexts : (enacted rel next outcome eng).db.ciphertexts =
      eng.db.ciphertexts := (congrArg Db.ciphertexts rest :)
  have settings : (enacted rel next outcome eng).db.settings =
      eng.db.settings := (congrArg Db.settings rest :)
  have same : outlines (enacted rel next outcome eng).db = outlines eng.db :=
    outlines_clampAndErase rel outcome (savePolicy rel next eng.db)
  have number : ((enacted rel next outcome eng).db.nextOutSeq rel).1 =
      (eng.db.nextOutSeq rel).1 := by
    unfold Db.nextOutSeq Db.outSeqFloor
    rw [maxOutSeq_of_outlines rel same, settings]
  have envelope : envelopeFor sys (enacted rel next outcome eng) rel (.chatPolicy policy) none =
        envelopeFor sys eng rel (.chatPolicy policy) none := by
    unfold envelopeFor
    rw [number]
    rfl
  have framed : ∀ msgId plain frame, Framed sys (enacted rel next outcome eng) rel msgId plain
        frame = Framed sys eng rel msgId plain frame := by
    intro msgId plain frame
    unfold Framed
    rw [ciphertexts]
    rfl
  constructor
  · rintro ⟨passes, sealing, newMessage, newEntry⟩
    rw [envelope] at sealing
    simp only [framed] at sealing
    rw [outbox] at newEntry
    exact ⟨passes_enacted.mp passes, sealing,
      (message_eq_none_of_outlines same).mp newMessage, newEntry⟩
  · rintro ⟨passes, sealing, newMessage, newEntry⟩
    refine ⟨passes_enacted.mpr passes, ?_, (message_eq_none_of_outlines same).mpr newMessage, ?_⟩
    · rw [envelope]
      simp only [framed]
      exact sealing
    · rw [outbox]
      exact newEntry

end

/-! Every other call that builds a letter changes the columns. -/

theorem repeats_of_unmoved {now : Nat} (built : deed.build state proposeId now =
      some (next, some policy, outcome)) (unmoved : calm next = calm state) :
    Repeats state proposeId deed := by
  have pending : next.pending = state.pending := (congrArg PolicyState.pending unmoved :)
  have wanted : next.localWant = state.localWant := (congrArg PolicyState.localWant unmoved :)
  cases deed with
  | propose ttlSec screenshot attachDownload =>
    obtain ⟨-, rfl, -⟩ := propose_of_build built
    exact pending.symm
  | accept =>
    obtain ⟨theirs, open_, -, rfl, -⟩ := accept_of_build built
    rw [open_] at pending
    cases pending
  | decline => cases built
  | setCapability capId on =>
    obtain ⟨known, moved, rfl, -⟩ := capSet_of_build built
    cases on with
    | true =>
      refine moved (Eq.symm (decide_eq_true ?_))
      rw [Flags.and_of_or wanted]
      exact known
    | false =>
      refine moved (Eq.symm (decide_eq_false (not_not.mpr ?_)))
      exact Flags.apart_of_andNot wanted

section

variable {deed : Deed}

theorem run_deed_of_unknown (unknown : eng.db.relationship rel = none) :
    final ((deed.run sys rel).run eng) = eng := by
  have loads : ∃ error, (store (loadPolicy eng.db rel)).run eng = .error error eng := by
    unfold loadPolicy
    rw [unknown]
    exact ⟨_, rfl⟩
  obtain ⟨error, fails⟩ := loads
  cases deed with
  | propose ttlSec screenshot attachDownload =>
    unfold Deed.run proposeRules
    rw [bind_readDb, run_bind_error fails]
    rfl
  | accept =>
    unfold Deed.run acceptRules
    simp only [bind_assoc]
    rw [bind_readDb, run_bind_error fails]
    rfl
  | decline =>
    unfold Deed.run declineRules
    rw [bind_readDb, run_bind_error fails]
    rfl
  | setCapability capId on =>
    unfold Deed.run Engine.setCapability
    simp only [bind_assoc]
    rw [bind_readDb, run_bind_error fails]
    rfl

theorem leaves_drawn (deed : Deed) (eng : Engine) : Leaves eng (deed.drawn eng) := by
  cases deed <;> exact leaves_of_tables rfl rfl rfl

/-- The letter of a call that was built goes out exactly if the engine could
send it before the call. -/
theorem run_post_isOk_iff : (∃ after, (post sys rel (some policy)).run
        (enacted rel next outcome eng) = .ok () after) ↔
      Transmits sys eng rel (.chatPolicy policy) none := by
  rw [← @transmits_enacted sys rel eng next outcome, ← run_sendEnvelope_isOk_iff]
  constructor
  · rintro ⟨after, ran⟩
    obtain ⟨sent, middle, sends, -⟩ := run_bind_eq_ok ran
    exact ⟨sent, middle, sends⟩
  · rintro ⟨sent, middle, sends⟩
    exact ⟨middle, run_bind_ok sends⟩

theorem atomic_of_repeats (found : eng.db.relationship rel = some row)
    (built : deed.build (ofRow row) (sys.randomMsgId eng.draws)
      eng.clock = some (next, some policy, outcome))
    (repeats : Repeats (ofRow row) (sys.randomMsgId eng.draws) deed) :
    Leaves eng (final ((deed.run sys rel).run eng)) := by
  rw [run_deed_of_built found built]
  refine trans_of Leaves ?_ (leaves_post _ _)
  cases deed with
  | propose ttlSec screenshot attachDownload =>
    simp only [Deed.build, buildPropose] at built
    split at built
    · cases built
    · cases built
      refine leaves_updateRelationship fun other looked => ?_
      cases found.symm.trans looked
      have offered : (ofRow row).pending = some {
          ttlSec, screenshot, attachDownload, inbound := false
          proposeId := sys.randomMsgId eng.draws } := repeats
      have fits := fits_ofRow row
      rw [← offered]
      exact ofRow_saved row fits.1 fits.2
  | accept => cases repeats
  | decline => cases repeats
  | setCapability capId on => cases repeats

end

/-- A policy call that returns an error leaves the policy, the expiries and
the attachments alone exactly if it is turned down by the machine, or the
engine could have sent the letter before the call, or the call offers the
rules on offer again. -/
theorem policy_call_atomic_iff (sys : Platform) (rel : RelId) (eng : Engine) (deed : Deed) :
    Atomic (deed.run sys rel) eng ↔ ∀ row next policy outcome, eng.db.relationship rel = some row →
        deed.build (ofRow row) (sys.randomMsgId eng.draws)
          eng.clock = some (next, some policy, outcome) →
        Transmits sys (deed.drawn eng) rel (.chatPolicy policy) none ∨
          Repeats (ofRow row) (sys.randomMsgId eng.draws) deed := by
  constructor
  · intro atomic row next policy outcome found built
    by_contra neither
    obtain ⟨stuck, changes⟩ := not_or.mp neither
    have drawn : (deed.drawn eng).db.relationship rel = some row := by
      rw [← found]
      cases deed <;> rfl
    have stored : columns rel (final ((deed.run sys rel).run eng)) = some (calm next) := by
      rw [run_deed_of_built found built, columns_post]
      exact columns_enacted outcome drawn (fits_build (fits_ofRow row) built)
    cases ran : (deed.run sys rel).run eng with
    | ok done after =>
      rw [run_deed_of_built found built] at ran
      exact stuck (run_post_isOk_iff.mp ⟨after, ran⟩)
    | error error after =>
      have kept := (atomic error after ran).policy rel
      rw [found, Option.map_some] at kept
      have same : columns rel after = some (calm (ofRow row)) := by
        have calmed := congrArg (Option.map calm) kept
        rw [Option.map_map] at calmed
        exact calmed
      rw [ran, final_error, same] at stored
      exact changes (repeats_of_unmoved built (Option.some.inj stored).symm)
  · intro covered error after ran
    have ends : final ((deed.run sys rel).run eng) = after := by
      rw [ran]
      rfl
    cases found : eng.db.relationship rel with
    | none =>
      rw [← ends, run_deed_of_unknown found]
      exact refl_of Leaves eng
    | some row =>
      cases built : deed.build (ofRow row) (sys.randomMsgId eng.draws) eng.clock with
      | none =>
        rw [← ends, run_deed_of_unbuilt found built]
        exact leaves_drawn deed eng
      | some made =>
        obtain ⟨next, _ | policy, outcome⟩ := made
        · rw [run_deed_of_built found built] at ran
          cases ran
        obtain sends | repeats := covered row next policy outcome found built
        · obtain ⟨last, sent⟩ := run_post_isOk_iff.mpr sends
          rw [run_deed_of_built found built, sent] at ran
          cases ran
        · rw [← ends]
          exact atomic_of_repeats found built repeats

/-! A peer that does not speak policy: switching attachments off is refused
and takes effect. -/

def newlyPaired : Engine :=
  Engine.new (paired (newRelationship "alice" .inviter .active "" [] false 0)) 0

theorem refused_takes_effect :
    ¬ Atomic (setCapability .loopback "alice" ChatPolicy.capIdAttach false)
      newlyPaired := by
  intro atomic
  have refused : (setCapability .loopback "alice" ChatPolicy.capIdAttach
      false).run newlyPaired = .error (.capGated .chatPolicy) _ :=
    eq_error_of_failure (by decide +kernel)
  have kept := (atomic _ _ refused).policy "alice"
  exact absurd kept (by decide +kernel)

end SChatCore.Accord
