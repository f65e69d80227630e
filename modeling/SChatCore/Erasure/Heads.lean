import SChatCore.Erasure.Media

namespace SChatCore.Erasure

open Data Data.Action Wire Store Policy Engine Ledger Isolation

/-! Every way the message of an attachment can go, and what goes with it. -/

section

variable {guard : Book → Move → Prop}

theorem heads_of_clamped {outcome : ApplyOutcome}
    (source : outcome.clampExpiryTo = none ∧ clamped = db ∨
      ∃ limit, outcome.clampExpiryTo = some limit ∧ clamped = clampMessageExpiry rel limit db) :
    clamped.attachments = db.attachments ∧ ∀ head, head ∈ liveAttachHeads clamped rel ↔
        head ∈ liveAttachHeads db rel := by
  obtain ⟨-, rfl⟩ | ⟨limit, -, rfl⟩ := source
  · exact ⟨rfl, fun _ => Iff.rfl⟩
  · exact ⟨rfl, fun _ => mem_liveAttachHeads_clamp⟩

theorem mem_attachments_clampAndErase (mem : row ∈ (clampAndErase rel outcome db).attachments) :
    row ∈ db.attachments ∧ (outcome.eraseAttachments = true →
      row.headId ∉ liveAttachHeads db rel) := by
  obtain ⟨clamped, shape, source⟩ := clampAndErase_eq rel outcome db
  obtain ⟨attachments, heads⟩ := heads_of_clamped source
  rw [shape, eraseAttachMessages, foldl_eraseAttachMessage] at mem
  split at mem
  · obtain ⟨stored, spared⟩ := Table.mem_delete.mp mem
    refine ⟨attachments ▸ stored, fun _ live => ?_⟩
    exact Bool.false_ne_true (spared.symm.trans (List.contains_iff_mem.mpr ((heads _).mpr live)))
  · rename_i kept
    exact ⟨attachments ▸ mem, fun erases => absurd erases kept⟩

theorem mem_chunks_clampAndErase {outcome : ApplyOutcome} (erases : outcome.eraseAttachments = true)
    (mem : chunk ∈ (clampAndErase rel outcome db).chunks) :
    chunk.headId ∉ liveAttachHeads db rel := by
  intro live
  obtain ⟨clamped, shape, source⟩ := clampAndErase_eq rel outcome db
  rw [shape, if_pos erases, eraseAttachMessages, foldl_eraseAttachMessage]
    at mem
  have spared := (Table.mem_delete.mp mem).2
  exact Bool.false_ne_true (spared.symm.trans
    (List.contains_iff_mem.mpr (((heads_of_clamped source).2 _).mpr live)))

theorem named_write (named : Named before.db)
    (write : Write sys guard floor before after) : Named after.db := by
  have same : after.db.attachments = before.db.attachments → Named after.db := by
    intro rows row mem
    exact named row (rows ▸ mem)
  cases write with
  | aside aside => exact same (congrArg Db.attachments aside.db :)
  | note rest => exact same (congrArg Db.attachments rest :)
  | media _ kept => exact kept named
  | agree => exact fun row mem => named row (mem_attachments_clampAndErase mem).1
  | cipher _ stored =>
    obtain ⟨ciphertexts, -, rfl⟩ := storeCiphertext_eq_ok stored
    exact same rfl
  | post _ _ _ inserted | deliver _ _ _ inserted =>
    obtain ⟨messages, -, rfl⟩ := Db.insertMessage_eq_ok.mp inserted
    exact same rfl
  | enqueue _ queued =>
    obtain ⟨outbox, -, rfl⟩ := Db.enqueue_eq_ok.mp queued
    exact same rfl
  | burn => exact fun row mem => named row (Table.mem_delete.mp mem).1
  | _ => exact same rfl

theorem named_of_run (named : Named before.db)
    (run : Relation.ReflTransGen (Operation sys) before after) :
    Named after.db := by
  induction run with
  | refl => exact named
  | tail _ step ih =>
    rcases step.follows with ⟨row, rfl⟩ | ⟨leave, follows, -⟩
    · obtain ⟨relationships, ran⟩ := run_insertRelationship row _
      rw [ran]
      exact ih
    · exact @Writes.invariant _ _ _ _ _ (fun eng => Named eng.db)
        (fun _ _ write named => named_write named write) follows ih

end

theorem media_applyDelete (names : env.refId = some head) :
    (final ((applyDelete rel env).run eng)).db = ((eng.db.withoutHeads ((eng.db.forMessage head).map
        AttachmentRow.headId)).addTombstone rel head eng.clock).markTombstoned head := by
  rw [← Db.foldl_deleteHead, List.foldl_map]
  unfold applyDelete
  rw [names]
  rfl

theorem mem_heads {db : Db} (other : MsgId) :
    ((db.forMessage head).map AttachmentRow.headId).contains other = true ↔
      ∃ row ∈ db.attachments, row.msgId = head ∧ row.headId = other := by
  rw [List.contains_iff_mem]
  simp only [List.mem_map, Db.forMessage, Table.mem_select, decide_eq_true_eq, and_assoc]

theorem chunks_applyDelete {env : Envelope} (names : env.refId = some head) (named : Named eng.db) :
    (∀ chunk ∈ (final ((applyDelete rel env).run eng)).db.chunks, chunk.headId ≠ head) ↔
      ∀ chunk ∈ eng.db.chunks, chunk.headId = head → (eng.db.attachment head).isSome = true := by
  rw [media_applyDelete names]
  constructor
  · intro erased chunk mem same
    by_contra none
    refine erased chunk (Table.mem_delete.mpr ⟨mem, ?_⟩) same
    refine Bool.eq_false_iff.mpr fun hit => none ?_
    obtain ⟨row, stored, own, key⟩ := (mem_heads _).mp hit
    exact Table.lookup_isSome.mpr ⟨row, stored, key.trans same⟩
  · intro kept chunk mem same
    obtain ⟨stored, spared⟩ := Table.mem_delete.mp mem
    obtain ⟨row, found⟩ := Option.isSome_iff_exists.mp (kept chunk stored same)
    obtain ⟨filed, key⟩ := Table.lookup_eq_some.mp found
    rw [(mem_heads chunk.headId).mpr ⟨row, filed, (named row filed).trans key,
      key.trans same.symm⟩] at spared
    cases spared

theorem erased_applyDelete {env : Envelope} (names : env.refId = some head) (named : Named eng.db) :
    Erased (final ((applyDelete rel env).run eng)).db head ↔
      ∀ chunk ∈ eng.db.chunks, chunk.headId = head → (eng.db.attachment head).isSome = true := by
  refine Iff.trans ⟨Erased.chunks, fun chunks => ⟨fun row mem same => ?_,
    chunks⟩⟩ (chunks_applyDelete names named)
  rw [media_applyDelete names] at mem
  obtain ⟨stored, spared⟩ := Table.mem_delete.mp mem
  rw [(mem_heads row.headId).mpr ⟨row, stored, same, rfl⟩] at spared
  cases spared

theorem erased_clampAndErase {outcome : ApplyOutcome} {db : Db}
    (erases : outcome.eraseAttachments = true)
    (live : head ∈ liveAttachHeads db rel) (named : Named db) :
    Erased (clampAndErase rel outcome db) head := by
  refine ⟨fun row mem same => ?_, fun chunk mem same => ?_⟩
  · obtain ⟨stored, gone⟩ := mem_attachments_clampAndErase mem
    exact gone erases ((named row stored).symm.trans same ▸ live)
  · exact mem_chunks_clampAndErase erases mem (same ▸ live)

theorem erased_agreed {outcome : ApplyOutcome} {rest : List EngineEvent → Action α}
    (erases : outcome.eraseAttachments = true)
    (live : head ∈ liveAttachHeads eng.db rel) (named : Named eng.db)
    (kept : ∀ events, Keeps SameMedia (rest events)) :
    Erased (final ((writeDb (savePolicy rel next) >>= fun _ =>
      applyOutcome rel outcome >>= rest).run eng)).db head := by
  rw [bind_writeDb]
  refine SameMedia.erased_iff (tail_bind kept) |>.mpr ?_
  exact @erased_clampAndErase rel head outcome (savePolicy rel next eng.db) erases live named

theorem erased_applyChatPolicy (loaded : loadPolicy eng.db rel = .ok state)
    (stepped : policyStep state policy env.msgId eng.clock =
      some (next, outcome, respond)) (erases : outcome.eraseAttachments = true)
    (live : head ∈ liveAttachHeads eng.db rel) (named : Named eng.db) :
    Erased (final ((applyChatPolicy sys rel env policy).run eng)).db
      head := by
  unfold applyChatPolicy
  rw [bind_readDb]
  simp only [store, loaded]
  rw [run_bind_ok (run_ofExcept_ok _ state eng), bind_now, stepped]
  exact erased_agreed erases live named fun _ =>
    keeps_returns (keeps_onlyIf _ (sameMedia_replySync _))

theorem erased_setCapability (loaded : loadPolicy eng.db rel = .ok state)
    (built : buildCapSet state capId on = some (next, policy, outcome))
    (erases : outcome.eraseAttachments = true)
    (live : head ∈ liveAttachHeads eng.db rel) (named : Named eng.db) :
    Erased (final ((setCapability sys rel capId on).run eng)).db
      head := by
  unfold setCapability
  rw [bind_readDb]
  simp only [store, loaded]
  rw [run_bind_ok (run_ofExcept_ok _ state eng), built]
  exact erased_agreed erases live named fun _ => keeps_returns (sameMedia_sendEnvelope _ _)

inductive Removal
  | sweep
  | delete (rel : RelId) (plain : Bytes)
  | deleteAll (rel : RelId) (plain : Bytes)
  | policy (rel : RelId) (plain : Bytes)
  | sendDelete (rel : RelId) (target : MsgId)
  | sendDeleteAll (rel : RelId)
  | closeContact (rel : RelId)
  | capability (rel : RelId) (capId : UInt8) (on : Bool)

namespace Removal

def after (sys : Platform) (eng : Engine) : Removal → Engine
  | .sweep => final (Engine.sweep.run eng)
  | .delete rel plain | .deleteAll rel plain
  | .policy rel plain => final ((handlePlaintext sys rel plain).run eng)
  | .sendDelete rel target => final ((Engine.sendDelete sys rel target).run eng)
  | .sendDeleteAll rel => final ((Engine.sendDeleteAll sys rel).run eng)
  | .closeContact rel => final ((Engine.closeContact sys rel).run eng)
  | .capability rel capId on => final ((setCapability sys rel capId on).run eng)

/-- The attachment is among those whose message the operation is to take. -/
def Takes (sys : Platform) (eng : Engine) (head : MsgId) : Removal → Prop
  | .sweep => ∃ row, eng.db.message head = some row ∧
      row.envType = EnvelopeType.attachHead.code ∧
      row.expired eng.clock = true
  | .delete rel plain => ∃ env filed,
      Dispatches sys rel eng plain env filed ∧
      env.payload = .delete ∧ env.refId = some head
  | .deleteAll rel plain => ∃ env filed row,
      Dispatches sys rel eng plain env filed ∧
      env.payload = .deleteAll ∧ eng.db.message head = some row ∧
      row.relId = rel
  | .policy rel plain => ∃ env filed policy state next outcome respond,
      Dispatches sys rel eng plain env filed ∧
      env.payload = .chatPolicy policy ∧
      loadPolicy filed.db rel = .ok state ∧
      policyStep state policy env.msgId filed.clock = some (next, outcome, respond) ∧
      outcome.eraseAttachments = true ∧ head ∈ liveAttachHeads filed.db rel
  | .sendDelete _ target => target = head
  | .sendDeleteAll rel | .closeContact rel =>
    ∃ row, eng.db.message head = some row ∧ row.relId = rel
  | .capability rel capId on => ∃ state next policy outcome,
      loadPolicy eng.db rel = .ok state ∧
      buildCapSet state capId on = some (next, policy, outcome) ∧
      outcome.eraseAttachments = true ∧ head ∈ liveAttachHeads eng.db rel

/-- What has to be the case before for the media to go as well. -/
def Clears (eng : Engine) (head : MsgId) : Removal → Prop
  | .sweep =>
    (∀ row ∈ eng.db.attachments, row.msgId = head → Settles eng row.relId) ∧
    ∀ chunk ∈ eng.db.chunks, chunk.headId = head →
      ∃ row, eng.db.attachment head = some row ∧ Settles eng row.relId
  | .delete _ _ => ∀ chunk ∈ eng.db.chunks, chunk.headId = head →
      (eng.db.attachment head).isSome = true
  | .policy _ _ | .capability _ _ _ => True
  | .deleteAll _ _ | .sendDelete _ _ | .sendDeleteAll _ | .closeContact _ => Erased eng.db head

end Removal

/-- With the message of an attachment its media goes if, and only if, the
operation is one that looks for it, or there is none. -/
theorem media_erased_iff {sys : Platform} {start eng : Engine}
    {op : Removal} {head : MsgId} (fresh : start.db.attachments = .empty)
    (run : Relation.ReflTransGen (Operation sys) start eng) (takes : op.Takes sys eng head) :
    (Erased (op.after sys eng).db head ∧ attachmentBytes (op.after sys eng).db head = none) ↔
        op.Clears eng head := by
  have begins : Named start.db := by
    intro row mem
    rw [fresh] at mem
    cases mem
  have named := named_of_run begins run
  refine (and_iff_left_of_imp Erased.attachmentBytes).trans ?_
  cases op with
  | sweep => exact (mediaLess_sweep eng).erased_iff
  | delete rel plain =>
    obtain ⟨env, filed, dispatches, deletes, names⟩ := takes
    have same := sameMedia_of_dispatches dispatches
    have held : Named filed.db := fun row mem =>
      named row (same.attachments ▸ mem)
    refine (erased_handlePlaintext dispatches).trans ?_
    have handler : dispatch sys rel env = applyDelete rel env := by
      unfold dispatch
      rw [deletes]
    rw [handler]
    refine (erased_applyDelete names held).trans ?_
    unfold Db.attachment
    rw [same.chunks, same.attachments]
    exact Iff.rfl
  | deleteAll rel plain =>
    obtain ⟨env, filed, row, dispatches, deletes, -⟩ := takes
    refine (erased_handlePlaintext dispatches).trans ?_
    have handled : SameMedia filed (final ((dispatch sys rel env).run filed)) := by
      unfold dispatch
      rw [deletes]
      exact ⟨rfl, rfl⟩
    exact (trans_of SameMedia (sameMedia_of_dispatches dispatches) handled).erased_iff
  | policy rel plain =>
    obtain ⟨env, filed, policy, state, next, outcome, respond, dispatches,
      changes, loaded, stepped, erases, live⟩ := takes
    have same := sameMedia_of_dispatches dispatches
    have held : Named filed.db := fun row mem =>
      named row (same.attachments ▸ mem)
    refine iff_of_true ((erased_handlePlaintext dispatches).mpr ?_) trivial
    have handler : dispatch sys rel env =
        applyChatPolicy sys rel env policy := by
      unfold dispatch
      rw [changes]
    rw [handler]
    exact erased_applyChatPolicy loaded stepped erases live held
  | sendDelete rel target => exact (sameMedia_sendDelete _ _).erased_iff
  | sendDeleteAll rel => exact (sameMedia_sendDeleteAll _).erased_iff
  | closeContact rel => exact (sameMedia_closeContact _).erased_iff
  | capability rel capId on =>
    obtain ⟨state, next, policy, outcome, loaded, built, erases, live⟩ := takes
    exact iff_of_true (erased_setCapability loaded built erases live named) trivial

/-! A clip of our own: withdrawn with the capability, and at its expiry. -/

def clip : AttachmentSpec where
  mediaClass := classVideo
  mimeHint := ""
  origExt := ""
  bytes := [7]
  caption := ""
  viewOnce := false

def sentClip : Engine := final ((Call.run .loopback (.sendAttachment "alice" clip)).run acquainted)

def clipId : MsgId := Platform.loopback.randomMsgId 0

theorem run_sentClip : Relation.ReflTransGen (Operation .loopback) acquainted sentClip :=
  .single (.call acquainted (.sendAttachment "alice" clip))

theorem clip_withdrawn : attachmentBytes sentClip.db clipId = some [7] ∧
      Erased ((Removal.capability "alice" ChatPolicy.capIdAttach false).after
        .loopback sentClip).db clipId ∧
      attachmentBytes ((Removal.capability "alice" ChatPolicy.capIdAttach
        false).after .loopback sentClip).db clipId = none := by
  have live : clipId ∈ liveAttachHeads sentClip.db "alice" := by decide +kernel
  have loaded : ∃ state, loadPolicy sentClip.db "alice" = .ok state ∧
      ∃ next policy outcome, buildCapSet state ChatPolicy.capIdAttach false =
        some (next, policy, outcome) ∧ outcome.eraseAttachments = true := by
    have found : sentClip.db.relationship "alice" =
        some (newRelationship "alice" .inviter .active "" [] false 0) := by
      decide +kernel
    exact ⟨_, loadPolicy_eq_ok.mpr ⟨_, found, rfl⟩, _, _, _, rfl, by decide⟩
  obtain ⟨state, loaded, next, policy, outcome, built, erases⟩ := loaded
  refine ⟨by decide +kernel, (@media_erased_iff .loopback acquainted sentClip
    (.capability "alice" ChatPolicy.capIdAttach false) clipId rfl run_sentClip
    ⟨state, next, policy, outcome, loaded, built, erases, live⟩).mpr trivial⟩

def expiring : Engine := final ((Call.run .loopback (.tick 86400)).run sentClip)

theorem clip_outlives_message : Relation.ReflTransGen (Operation .loopback) acquainted expiring ∧
      ((expiring.db.message clipId).any fun row =>
        row.envType = EnvelopeType.attachHead.code && row.expired expiring.clock) = true ∧
      (Removal.sweep.after .loopback expiring).db.message clipId = none ∧
      attachmentBytes (Removal.sweep.after .loopback expiring).db clipId = some [7] := by
  refine ⟨run_sentClip.tail (.call sentClip (.tick 86400)), ?_, ?_, ?_⟩
  all_goals decide +kernel

end SChatCore.Erasure
