import SChatCore.Accord.Columns
import SChatCore.Engine.Transmit
import SChatCore.Engine.Burst

namespace SChatCore.Accord

open Data Wire Store Policy Engine Data.Action

/-! The policy letters an engine has sent, as its ledger has them. -/

def letterOf (rel : RelId) (row : MessageRow) : Option Letter :=
  if row.relId = rel ∧ row.direction = .out ∧ row.envType = EnvelopeType.chatPolicy.code then
    (ChatPolicy.decodePayload row.payload).toOption.map fun policy =>
      (row.msgId, policy)
  else none

def posted (rel : RelId) (eng : Engine) : List Letter :=
  eng.db.messages.rows.filterMap (letterOf rel)

def SamePosted (rel : RelId) (before after : Engine) : Prop := posted rel after = posted rel before

instance (rel : RelId) : IsPreorder Engine (SamePosted rel) where
  refl _ := rfl
  trans _ _ _ left right := Eq.trans right left

section

variable {rel : RelId} {eng : Engine}

theorem samePosted_update {db : Db} {chosen : MessageRow → Bool} {assign : MessageRow → MessageRow}
    (updated : db.messages.rows = eng.db.messages.rows.map fun row =>
      if chosen row then assign row else row)
    (kept : ∀ row ∈ eng.db.messages, chosen row = true →
      letterOf rel (assign row) = letterOf rel row) :
    SamePosted rel eng { eng with db } := by
  unfold SamePosted posted
  rw [updated, List.filterMap_map]
  refine List.filterMap_congr fun row mem => ?_
  simp only [Function.comp_apply]
  split
  · rename_i hit
    exact kept row mem hit
  · rfl

def Heads (db : Db) (headIds : List MsgId) : Prop :=
  ∀ headId ∈ headIds, ∀ row ∈ db.messages, row.msgId = headId →
    row.envType = EnvelopeType.attachHead.code

theorem heads_liveAttachHeads (db : Db) (other : RelId) : Heads db (liveAttachHeads db other) := by
  intro headId mem row stored same
  obtain ⟨head, live, rfl⟩ := List.mem_map.mp mem
  obtain ⟨held, chosen⟩ := Table.mem_select.mp live
  simp only [Bool.and_eq_true, decide_eq_true_eq] at chosen
  rw [Table.eq_of_key_eq stored held same]
  exact chosen.1.2

theorem samePosted_eraseAttachMessage (head : ∀ row ∈ eng.db.messages, row.msgId = headId →
      row.envType = EnvelopeType.attachHead.code) :
    SamePosted rel eng { eng with db := eraseAttachMessage headId eng.db } := by
  refine samePosted_update rfl fun row mem hit => ?_
  have kind := head row mem (of_decide_eq_true hit)
  have other : ¬ (row.relId = rel ∧ row.direction = .out ∧
      row.envType = EnvelopeType.chatPolicy.code) := by
    rw [kind]
    rintro ⟨-, -, same⟩
    exact absurd same (by decide)
  rw [letterOf, if_neg other, letterOf, if_neg other]

theorem samePosted_eraseAll (heads : Heads db headIds) : SamePosted rel { eng with db } { eng with
      db := headIds.foldl (fun db headId => eraseAttachMessage headId db) db } := by
  induction headIds generalizing db with
  | nil => exact refl_of (SamePosted rel) _
  | cons headId rest ih =>
    have first : SamePosted rel { eng with db } { eng with db := eraseAttachMessage headId db } :=
      samePosted_eraseAttachMessage (heads headId List.mem_cons_self)
    refine trans_of (SamePosted rel) first (ih ?_)
    intro other mem row stored same
    obtain ⟨before, held, kept⟩ := List.mem_map.mp stored
    have kind := heads other (List.mem_cons_of_mem _ mem) before held
    rw [← kept] at same ⊢
    split at same
    · rw [if_pos ‹_›]
      exact kind same
    · rw [if_neg ‹_›]
      exact kind same

theorem samePosted_enacted (next : PolicyState) (outcome : ApplyOutcome) (other : RelId) :
    SamePosted rel eng (enacted other next outcome eng) := by
  have stored : SamePosted rel eng { eng with
      db := savePolicy other next eng.db } := rfl
  have clamped : ∀ before db, SamePosted rel { eng with db } { eng with
      db := clampMessageExpiry other before db } := fun before db =>
    @samePosted_update rel { eng with db } _ _ _ rfl fun _ _ _ => rfl
  unfold enacted clampAndErase
  simp only
  split
  · refine trans_of (SamePosted rel) ?_ (samePosted_eraseAll (heads_liveAttachHeads _ other))
    split
    · exact clamped _ _
    · exact refl_of (SamePosted rel) _
  · split
    · exact clamped _ _
    · exact refl_of (SamePosted rel) _

end

theorem posted_sendEnvelope (ran : (sendEnvelope sys rel (.chatPolicy policy) none).run eng =
      .ok sent after) :
    posted rel after = posted rel eng ++ [(sent.msgId, policy)] := by
  obtain ⟨_, _, _, _, _, rfl, rfl, -, -, ⟨payload, expiry, state, encoded,
    inserted⟩, -⟩ := sendEnvelope_eq_ok ran
  have read : ChatPolicy.decodePayload payload = .ok policy :=
    ChatPolicy.decodePayload_of_encodePayload encoded
  unfold posted
  rw [(Table.insert_eq_some.mp inserted).2, List.filterMap_append]
  refine congrArg _ (List.filterMap_cons_some ?_)
  unfold letterOf
  simp only [NewMessage.row, outboundMessage, read]
  rfl

/-! What the engine's policy calls and its handler of policy envelopes amount
to: the moves of a party. -/

section

variable (sys : Platform) (rel : RelId)

def Deed.run : Deed → Action Unit
  | .propose ttlSec screenshot attachDownload =>
    proposeRules sys rel ttlSec screenshot attachDownload
  | .accept => do let _ ← acceptRules sys rel
  | .decline => declineRules rel
  | .setCapability capId on => do
    let _ ← Engine.setCapability sys rel capId on

def Deed.drawn : Deed → Engine → Engine
  | .propose _ _ _, eng => { eng with draws := eng.draws + 1 }
  | _, eng => eng

def post : Option ChatPolicy → Action Unit
  | none => pure ()
  | some policy => do
    let _ ← sendEnvelope sys rel (.chatPolicy policy) none

end

section

variable {deed : Deed}

theorem run_load (found : eng.db.relationship rel = some row) :
    (store (loadPolicy eng.db rel)).run eng = .ok (ofRow row) eng := by
  unfold loadPolicy
  rw [found]
  rfl

theorem run_enact (rest : List EngineEvent → Action α) : (do
      writeDb (savePolicy rel next)
      let events ← applyOutcome rel outcome
      rest events).run eng =
      (rest (if outcome.changed then [.policyChanged rel] else [])).run
        (enacted rel next outcome eng) :=
  rfl

theorem run_deed_of_built (found : eng.db.relationship rel = some row)
    (built : deed.build (ofRow row) (sys.randomMsgId eng.draws)
      eng.clock = some (next, policy, outcome)) :
    (deed.run sys rel).run eng = (post sys rel policy).run
        (enacted rel next outcome (deed.drawn eng)) := by
  cases deed with
  | propose ttlSec screenshot attachDownload =>
    obtain ⟨⟨next, policy⟩, made, same⟩ := Option.map_eq_some_iff.mp built
    cases same
    unfold Deed.run proposeRules
    rw [bind_readDb, run_bind_ok (run_load found), run_bind_ok (run_randomMsgId sys eng), made]
    rfl
  | accept =>
    obtain ⟨⟨next, policy, outcome⟩, made, same⟩ := Option.map_eq_some_iff.mp built
    cases same
    unfold Deed.run acceptRules
    simp only [bind_assoc]
    rw [bind_readDb, run_bind_ok (run_load found), bind_now, made]
    simp only [bind_assoc, pure_bind]
    exact run_enact _
  | decline =>
    cases built
    unfold Deed.run declineRules
    rw [bind_readDb, run_bind_ok (run_load found)]
    rfl
  | setCapability capId on =>
    obtain ⟨⟨next, policy, outcome⟩, made, same⟩ := Option.map_eq_some_iff.mp built
    cases same
    unfold Deed.run Engine.setCapability
    simp only [bind_assoc]
    rw [bind_readDb, run_bind_ok (run_load found), made]
    simp only [bind_assoc, pure_bind]
    exact run_enact _

theorem run_deed_of_unbuilt (found : eng.db.relationship rel = some row)
    (unbuilt : deed.build (ofRow row) (sys.randomMsgId eng.draws) eng.clock = none) :
    final ((deed.run sys rel).run eng) = deed.drawn eng := by
  cases deed with
  | propose ttlSec screenshot attachDownload =>
    have made := Option.map_eq_none_iff.mp unbuilt
    unfold Deed.run proposeRules
    rw [bind_readDb, run_bind_ok (run_load found), run_bind_ok (run_randomMsgId sys eng), made]
    rfl
  | accept =>
    have made := Option.map_eq_none_iff.mp unbuilt
    unfold Deed.run acceptRules
    simp only [bind_assoc]
    rw [bind_readDb, run_bind_ok (run_load found), bind_now, made]
    rfl
  | decline => cases unbuilt
  | setCapability capId on =>
    have made := Option.map_eq_none_iff.mp unbuilt
    unfold Deed.run Engine.setCapability
    simp only [bind_assoc]
    rw [bind_readDb, run_bind_ok (run_load found), made]
    rfl

end

variable {sys : Platform} {rel : RelId} {eng : Engine}

def SameColumns (rel : RelId) (before after : Engine) : Prop :=
  columns rel after = columns rel before

instance (rel : RelId) : IsPreorder Engine (SameColumns rel) where
  refl _ := rfl
  trans _ _ _ left right := Eq.trans right left

theorem columns_of_outbound (outbound : Outbound rel eng after) :
    columns rel after = columns rel eng :=
  columns_of_standing outbound.standing

theorem columns_post (policy : Option ChatPolicy) :
    columns rel (final ((post sys rel policy).run eng)) =
      columns rel eng := by
  cases policy with
  | none => rfl
  | some policy =>
    have sends : Keeps (Outbound rel) (post sys rel (some policy)) :=
      keeps_returns (outbound_sendEnvelope sys _ none)
    exact columns_of_outbound (sends eng)

theorem exists_row (known : columns rel eng = some state) :
    ∃ row, eng.db.relationship rel = some row ∧ calm (ofRow row) = state :=
  Option.map_eq_some_iff.mp known

theorem columns_deed (deed : Deed) (known : columns rel eng = some state) :
    (deed.build state (sys.randomMsgId eng.draws) eng.clock = none ∧
        columns rel (final ((deed.run sys rel).run eng)) = some state) ∨
      ∃ next policy outcome, deed.build state (sys.randomMsgId eng.draws) eng.clock =
          some (next, policy, outcome) ∧
        columns rel (final ((deed.run sys rel).run eng)) =
          some next := by
  obtain ⟨row, found, rfl⟩ := exists_row known
  rw [build_calm]
  cases built : deed.build (ofRow row) (sys.randomMsgId eng.draws) eng.clock with
  | none =>
    refine .inl ⟨rfl, ?_⟩
    rw [run_deed_of_unbuilt found built, ← known]
    cases deed <;> rfl
  | some made =>
    obtain ⟨next, policy, outcome⟩ := made
    refine .inr ⟨calm next, policy, outcome, rfl, ?_⟩
    have drawn : (deed.drawn eng).db.relationship rel = some row := by
      rw [← found]
      cases deed <;> rfl
    rw [run_deed_of_built found built, columns_post]
    exact columns_enacted outcome drawn (fits_build (fits_ofRow row) built)

theorem moves_of_call (known : columns rel eng = some state)
    (ran : (deed.run sys rel).run eng = .ok done after) (mail : List Letter) :
    ∃ next letters, columns rel after = some next ∧ posted rel after = posted rel eng ++ letters ∧
      Moves ⟨state, mail⟩ (.call deed (sys.randomMsgId eng.draws)) ⟨next, mail⟩ letters := by
  have ends : final ((deed.run sys rel).run eng) = after := by
    rw [ran]
    rfl
  obtain ⟨row, found, rfl⟩ := exists_row known
  have reached := @columns_deed sys rel eng _ deed known
  rw [ends, build_calm] at reached
  cases built : deed.build (ofRow row) (sys.randomMsgId eng.draws) eng.clock with
  | none =>
    rw [built] at reached
    obtain ⟨-, kept⟩ | ⟨_, _, _, impossible, -⟩ := reached
    · refine ⟨_, [], kept, ?_, .idle deed _⟩
      rw [← ends, run_deed_of_unbuilt found built, List.append_nil]
      cases deed <;> rfl
    · cases impossible
  | some made =>
    obtain ⟨next, policy, outcome⟩ := made
    rw [built] at reached
    obtain ⟨impossible, -⟩ | ⟨_, _, _, same, stored⟩ := reached
    · cases impossible
    cases same
    rw [run_deed_of_built found built] at ran
    have before : SamePosted rel eng (enacted rel next outcome (deed.drawn eng)) := by
      have drawn : SamePosted rel eng (deed.drawn eng) := by
        cases deed <;> rfl
      exact trans_of (SamePosted rel) drawn (samePosted_enacted next outcome rel)
    have built : deed.build (calm (ofRow row)) (sys.randomMsgId eng.draws) eng.clock =
          some (calm next, policy, outcome) := by
      rw [build_calm, built]
      rfl
    cases policy with
    | none =>
      cases ran
      refine ⟨_, [], stored, ?_, @Moves.call ⟨_, mail⟩ _ _ _ _ none _ noProposeId built⟩
      rw [List.append_nil]
      exact before
    | some policy =>
      obtain ⟨sent, middle, sends, finished⟩ := run_bind_eq_ok ran
      cases finished
      refine ⟨_, [(sent.msgId, policy)], stored, ?_,
        @Moves.call ⟨_, mail⟩ _ _ _ _ (some policy) _ sent.msgId built⟩
      rw [posted_sendEnvelope sends]
      exact congrArg (· ++ _) before

theorem current_of_columns (known : columns rel eng = some (calm state))
    (row : RelationshipRow) (found : eng.db.relationship rel = some row) :
    { state with lastSyncAt := 0 } = { ofRow row with lastSyncAt := 0 } := by
  obtain ⟨other, looked, same⟩ := exists_row known
  cases found.symm.trans looked
  exact same.symm

theorem columns_replySync (known : columns rel eng = some (calm state)) :
    columns rel (final ((replySync sys rel state).run eng)) = some (calm state) := by
  rw [← known]
  exact columns_of_outbound (outbound_replySync sys (current_of_columns known))

theorem posted_replySync (ran : (replySync sys rel state).run eng = .ok done after) :
    posted rel after = posted rel eng ∨ ∃ msgId, posted rel after =
        posted rel eng ++ [(msgId, syncOf state)] := by
  unfold replySync at ran
  rw [bind_now] at ran
  split at ran
  · obtain ⟨_, stored, saves, ran⟩ := run_bind_eq_ok ran
    cases saves
    obtain ⟨sent, middle, sends, finished⟩ := run_bind_eq_ok ran
    cases finished
    have added := posted_sendEnvelope sends
    exact .inr ⟨sent.msgId, added⟩
  · cases ran
    exact .inl rfl

theorem run_applyChatPolicy (env : Envelope) (policy : ChatPolicy)
    (found : eng.db.relationship rel = some row) :
    (applyChatPolicy sys rel env policy).run eng =
      match policyStep (ofRow row) policy env.msgId eng.clock with
      | none => .ok [] eng
      | some (next, outcome, respond) =>
        (do
          onlyIf respond (replySync sys rel next)
          return if outcome.changed then [.policyChanged rel]
            else [] : Action (List EngineEvent)).run
          (enacted rel next outcome eng) := by
  unfold applyChatPolicy
  rw [bind_readDb, run_bind_ok (run_load found), bind_now]
  cases policyStep (ofRow row) policy env.msgId eng.clock with
  | none => rfl
  | some made => exact run_enact _

theorem policyStep_eq_some {now : Nat} (stepped : policyStep (ofRow row) policy msgId now =
      some (next, outcome, respond)) :
    next = hear (ofRow row) (msgId, policy) ∧
      (respond = true → policy.op = ChatPolicy.opSync) := by
  constructor
  · unfold hear
    rw [← policyStep_clock _ _ _ now, stepped]
    rfl
  · rintro rfl
    unfold policyStep at stepped
    split at stepped
    · cases stepped
    split at stepped
    · obtain ⟨⟨_, _⟩, -, same⟩ := Option.map_eq_some_iff.mp stepped
      cases same
    split at stepped
    · cases stepped
    split at stepped
    · assumption
    · cases stepped

theorem columns_applyChatPolicy (env : Envelope) (policy : ChatPolicy)
    (known : columns rel eng = some state) :
    columns rel (final ((applyChatPolicy sys rel env policy).run
      eng)) = some (hear state (env.msgId, policy)) := by
  obtain ⟨row, found, rfl⟩ := exists_row known
  rw [hear_calm, run_applyChatPolicy env policy found]
  cases stepped : policyStep (ofRow row) policy env.msgId eng.clock with
  | none =>
    have same : hear (ofRow row) (env.msgId, policy) = ofRow row := by
      unfold hear
      rw [← policyStep_clock _ _ _ eng.clock, stepped]
      rfl
    rw [same]
    exact known
  | some made =>
    obtain ⟨next, outcome, respond⟩ := made
    obtain ⟨rfl, -⟩ := policyStep_eq_some stepped
    have stored := columns_enacted outcome found (fits_hear (fits_ofRow row) (env.msgId, policy))
    cases respond with
    | false => exact stored
    | true =>
      have answered : SameColumns rel
          (enacted rel (hear (ofRow row) (env.msgId, policy)) outcome eng)
          (final ((replySync sys rel (hear (ofRow row) (env.msgId, policy))).run
              (enacted rel (hear (ofRow row) (env.msgId, policy)) outcome eng))) :=
        (columns_replySync stored).trans stored.symm
      exact (related_bind answered fun _ => keeps_pure _).trans stored

theorem moves_of_read (known : columns rel eng = some state) (named : env.msgId = letter.1)
    (ran : (applyChatPolicy sys rel env letter.2).run eng = .ok events after) (rest : List Letter) :
    ∃ next letters, columns rel after = some next ∧ posted rel after = posted rel eng ++ letters ∧
      Moves ⟨state, letter :: rest⟩ .read ⟨next, rest⟩ letters := by
  have reached := @columns_applyChatPolicy sys rel eng state env letter.2 known
  rw [ran, named] at reached
  have silent : posted rel after = posted rel eng → ∃ next letters, columns rel after = some next ∧
        posted rel after = posted rel eng ++ letters ∧
        Moves ⟨state, letter :: rest⟩ .read ⟨next, rest⟩ letters := fun same =>
    ⟨_, [], reached, by rw [same, List.append_nil], .read letter rest⟩
  obtain ⟨row, found, rfl⟩ := exists_row known
  rw [run_applyChatPolicy env letter.2 found] at ran
  split at ran
  · cases ran
    exact silent rfl
  · rename_i next outcome respond stepped
    obtain ⟨rfl, syncs⟩ := policyStep_eq_some stepped
    have stored := @samePosted_enacted rel eng (hear (ofRow row) (env.msgId, letter.2)) outcome rel
    obtain ⟨_, middle, replies, finished⟩ := run_bind_eq_ok ran
    cases finished
    cases respond with
    | false =>
      cases replies
      exact silent stored
    | true =>
      obtain same | ⟨msgId, added⟩ := posted_replySync replies
      · exact silent (same.trans stored)
      · refine ⟨_, [(msgId, syncOf (hear (calm (ofRow row)) letter))],
          reached, ?_, .reply rest msgId (syncs rfl)⟩
        rw [added, hear_calm, ← Prod.mk.eta (p := letter), ← named]
        exact congrArg (· ++ _) stored

theorem moves_of_offer (known : columns rel eng = some state)
    (ran : (offerSync sys rel).run eng = .ok done after) (mail : List Letter) :
    ∃ next letters, columns rel after = some next ∧ posted rel after = posted rel eng ++ letters ∧
      Moves ⟨state, mail⟩ .offer ⟨next, mail⟩ letters := by
  have reached : columns rel after = some state := by
    have kept : columns rel _ = columns rel eng := columns_of_outbound (outbound_offerSync sys eng)
    rw [ran] at kept
    exact kept.trans known
  obtain ⟨row, found, rfl⟩ := exists_row known
  unfold offerSync at ran
  rw [bind_readDb, run_bind_ok (run_load found), bind_now] at ran
  obtain ⟨result, middle, attempts, finished⟩ := run_bind_eq_ok ran
  rw [run_attempt] at attempts
  split at attempts
  · rename_i sent sentEngine sends
    cases attempts
    cases finished
    have added := posted_sendEnvelope sends
    exact ⟨_, [(sent.msgId, syncOf (ofRow row))], reached, added, .offer _ sent.msgId⟩
  · rename_i error sentEngine sends
    cases attempts
    cases error with
    | capGated t =>
      cases finished
      obtain ⟨other, looked, gate⟩ := gate_of_capGated sends
      rw [run_sendEnvelope_of_gate looked gate] at sends
      cases sends
      exact ⟨_, [], reached, (List.append_nil _).symm, .withhold _⟩
    | _ => cases finished

end SChatCore.Accord
