import SChatCore.Ledger.Numbers

namespace SChatCore.Ledger

open Data Data.Action Wire Store Engine

/-! What was heard is not processed again. -/

/-- As long as the contact is there, what was heard of it stays heard. -/
def Recalls (rel : RelId) (before after : Book) : Prop :=
  (after.contact rel).isSome = true → (before.contact rel).isSome = true ∧
      before.heard rel ⊆ after.heard rel

theorem Recalls.refl (rel : RelId) (book : Book) : Recalls rel book book :=
  fun known => ⟨known, subset_rfl⟩

theorem Recalls.trans (left : Recalls rel first second) (right : Recalls rel second third) :
    Recalls rel first third := by
  intro known
  obtain ⟨between, later⟩ := right known
  obtain ⟨start, sooner⟩ := left between
  exact ⟨start, sooner.trans later⟩

theorem recalls_apply (rel : RelId) (book : Book) (move : Move) :
    Recalls rel book (book.apply move) := by
  intro known
  cases move with
  | hear other seq =>
    refine ⟨known, ?_⟩
    rw [Book.heard_hear]
    split
    · exact Set.subset_insert _ _
    · exact subset_rfl
  | burn other =>
    rw [Book.contact_burn] at known
    rw [Book.heard_burn]
    split at known
    · cases known
    · rename_i apart
      rw [if_neg apart]
      exact ⟨known, subset_rfl⟩
  | raise other seq | close other => exact ⟨Option.isSome_map.symm.trans known, subset_rfl⟩
  | _ => exact ⟨known, subset_rfl⟩

theorem Follows.recalls (follows : Follows sys said leave before after) :
    Recalls rel (book before) (book after) := by
  refine Book.invariant (fun current move _ held => ?_) (Writes.book follows)
    (Recalls.refl rel (book before))
  exact held.trans (recalls_apply rel current move)

theorem recalls_of_same (contacts : (book after).contact = (book before).contact)
    (heard : (book after).heard = (book before).heard) :
    Recalls rel (book before) (book after) := by
  intro known
  rw [contacts] at known
  exact ⟨known, (congrFun heard rel).symm.subset⟩

theorem Numbering.recalls (step : Numbering sys before after) :
    Recalls rel (book before) (book after) := by
  have permits := permits_anything sys
  cases step with
  | insert inserted =>
    obtain ⟨messages, -, rfl⟩ := Db.insertMessage_eq_ok.mp inserted
    exact recalls_of_same rfl rfl
  | send other payload refId =>
    have sent : Evolves sys (fun _ _ _ => True) before (final
        ((sendEnvelope sys other payload refId).run before)) :=
      evolves_sendEnvelope refId trivial
    exact (@Evolves.follows _ _ silence _ _ sent).recalls
  | call call => exact (follows_call permits call).recalls
  | inbound other plain => exact (follows_handlePlaintext permits plain before).recalls
  | frame other frame => exact (follows_receiveFrame permits frame).recalls
  | _ => exact recalls_of_same rfl rfl

theorem recalls_of_run (run : Relation.ReflTransGen (Numbering sys) before after) :
    Recalls rel (book before) (book after) := by
  induction run with
  | refl => exact .refl rel _
  | tail _ step ih => exact ih.trans step.recalls

def Processes (sys : Platform) (rel : RelId) (eng : Engine)
    (plain : Bytes) (env : Envelope) : Prop :=
  ∃ row woken, Accepts sys eng rel plain env row ∧
    (activate sys rel row.role).run (heard rel env eng) = .ok () woken ∧
    isCut rel env woken.clock woken.db = false

theorem hasInboundSeq_heard (rel : RelId) (env : Envelope) (eng : Engine) :
    (heard rel env eng).db.hasInboundSeq rel env.appSeq = true :=
  (Db.hasInboundSeq_noteInboundSeq eng.db rel rel env.appSeq env.appSeq).mpr (.inl ⟨rfl, rfl⟩)

theorem heard_of_accepts (accepts : Accepts sys eng rel plain env row) (known : ((book (final
      ((handlePlaintext sys rel plain).run eng))).contact rel).isSome = true) :
    env.appSeq ∈ (book (final ((handlePlaintext sys rel plain).run eng))).heard rel := by
  rw [run_handlePlaintext accepts] at known ⊢
  have follows := @follows_receive _ _ rel (permits_anything sys) env
    row.role (admission rel env eng) (heard rel env eng)
  exact (follows.recalls known).2 (hasInboundSeq_heard rel env eng)

/-- The gate for the date, which stands before the one for what was heard,
refuses the envelope. -/
def Untimely (eng : Engine) (rel : RelId) (env : Envelope) : Prop :=
  allows (eng.db.peerCaps rel) env.envelopeType = true ∧ ((eng.db.closeState rel).isSome = true →
      env.envelopeType = .resyncReq) ∧
    eng.clock + maxFutureSkewSecs < env.sentAt.toNat

instance (eng : Engine) (rel : RelId) (env : Envelope) : Decidable (Untimely eng rel env) :=
  inferInstanceAs (Decidable (_ ∧ _))

theorem run_handlePlaintext_of_noted {plain : Bytes} {env : Envelope}
    {row : RelationshipRow} (found : eng.db.relationship rel = some row)
    (decoded : Envelope.decode sys.nfc plain = .ok env)
    (noted : eng.db.hasInboundSeq rel env.appSeq = true) :
    (handlePlaintext sys rel plain).run eng = if Untimely eng rel env then
        .error (.sync (.futureTimestamp env.sentAt.toNat eng.clock)) eng
      else .ok [] eng := by
  have passed : (passGates rel env).run eng = if Untimely eng rel env then
        .error (.sync (.futureTimestamp env.sentAt.toNat eng.clock)) eng
      else .ok none eng := by
    unfold passGates
    simp only [EStateM.run_bind, run_readDb]
    by_cases allowed : allows (eng.db.peerCaps rel) env.envelopeType = true
    · rw [if_neg (not_not.mpr allowed)]
      simp only [EStateM.run_bind, run_writeDb, run_readDb, noteImpliedCap_of_allows allowed]
      by_cases closed : (eng.db.closeState rel).isSome = true ∧ env.envelopeType ≠ .resyncReq
      · rw [if_pos closed, if_neg fun late => closed.2 (late.2.1 closed.1)]
        rfl
      · have open_ : (eng.db.closeState rel).isSome = true → env.envelopeType = .resyncReq :=
          fun closing => by_contra fun other => closed ⟨closing, other⟩
        rw [if_neg closed]
        simp only [EStateM.run_bind, run_now, clampSentAt]
        by_cases late : eng.clock + maxFutureSkewSecs < env.sentAt.toNat
        · rw [if_pos late, if_pos ⟨allowed, open_, late⟩]
          rfl
        · rw [if_neg late, if_neg fun both => late both.2.2]
          simp only [run_ofExcept_ok]
          rw [if_pos (.inr noted)]
          rfl
    · rw [if_pos allowed, if_neg fun late => allowed late.1]
      rfl
  unfold handlePlaintext
  simp only [EStateM.run_bind, wire, decoded, run_ofExcept_ok, run_loadRelationship, found]
  rw [passed]
  by_cases late : Untimely eng rel env
  · rw [if_pos late, if_pos late]
  · rw [if_neg late, if_neg late]
    rfl

/-- A number is processed once, whatever happens in between as long as the
contact is not burned; what comes again with it changes nothing. -/
theorem processes_at_most_once (sys : Platform) (rel : RelId) :
    (∀ first later plain again env other, Processes sys rel first plain env →
      Relation.ReflTransGen (Numbering sys)
        (final ((handlePlaintext sys rel plain).run first)) later →
      Processes sys rel later again other →
      other.appSeq ≠ env.appSeq) ∧
    ∀ eng row plain env, eng.db.relationship rel = some row →
      Envelope.decode sys.nfc plain = .ok env →
      eng.db.hasInboundSeq rel env.appSeq = true →
      (handlePlaintext sys rel plain).run eng = if Untimely eng rel env then
          .error (.sync (.futureTimestamp env.sentAt.toNat eng.clock)) eng
        else .ok [] eng := by
  constructor
  · rintro first later plain again env other ⟨row, woken, accepts, -, -⟩ run
      ⟨row', woken', repeats, -, -⟩ same
    have known : ((book later).contact rel).isSome = true := by
      show ((later.db.relationship rel).map contactOf).isSome = true
      rw [repeats.found]
      rfl
    obtain ⟨between, recalled⟩ := recalls_of_run run known
    have noted : later.db.hasInboundSeq rel env.appSeq = true :=
      recalled (heard_of_accepts accepts between)
    rw [← same, repeats.admits.newSeq] at noted
    cases noted
  · intro eng row plain env found decoded noted
    exact run_handlePlaintext_of_noted found decoded noted

/-! A profile request that comes twice, the second time dated too far ahead. -/

def knock (appSeq sentAt : UInt64) : Envelope where
  msgId := List.Vector.replicate 16 appSeq.toUInt8
  appSeq := appSeq
  sentAt := sentAt
  refId := none
  payload := .profileReq

def knockBytes (appSeq sentAt : UInt64) : Bytes :=
  ((knock appSeq sentAt).encode id).toOption.getD []

def acquainted : Engine :=
  Engine.new (paired (newRelationship "alice" .inviter .active "" [] false 0)) 0

def knocked : Engine := final ((handlePlaintext .loopback "alice" (knockBytes 1 0)).run acquainted)

theorem processes_knock (decoded : Envelope.decode id (knockBytes appSeq 0) = .ok (knock appSeq 0))
    (found : eng.db.relationship "alice" = some row) (inviter : row.role = .inviter)
    (admits : Admits eng "alice" (knock appSeq 0)) :
    Processes .loopback "alice" eng (knockBytes appSeq 0) (knock appSeq 0) := by
  refine ⟨row, heard "alice" (knock appSeq 0) eng, ⟨decoded, found, admits⟩, ?_, rfl⟩
  rw [run_activate_eq, inviter]
  rfl

theorem processes_two_knocks : (knock 2 0).appSeq ≠ (knock 1 0).appSeq ∧
      (handlePlaintext .loopback "alice" (knockBytes 1 0)).run knocked = .ok [] knocked := by
  obtain ⟨once, again⟩ := processes_at_most_once .loopback "alice"
  have row : ∃ row, knocked.db.relationship "alice" = some row ∧ row.role = .inviter := by
    refine ⟨newRelationship "alice" .inviter .active "" [] false 0, ?_, rfl⟩
    decide +kernel
  obtain ⟨row, found, inviter⟩ := row
  have first : Processes .loopback "alice" acquainted (knockBytes 1 0) (knock 1 0) := by
    refine processes_knock rfl (relationship_paired _) rfl ⟨?_, ?_, ?_, ?_, ?_⟩
    all_goals decide +kernel
  have second : Processes .loopback "alice" knocked (knockBytes 2 0) (knock 2 0) := by
    refine processes_knock rfl found inviter ⟨?_, ?_, ?_, ?_, ?_⟩
    all_goals decide +kernel
  refine ⟨once _ _ _ _ _ _ first .refl second, ?_⟩
  exact (again knocked row (knockBytes 1 0) (knock 1 0) found rfl
    (by decide +kernel)).trans (if_neg (by decide +kernel))

theorem repeat_ahead_of_time : Envelope.decode id (knockBytes 1 301) = .ok (knock 1 301) ∧
      knocked.db.hasInboundSeq "alice" (knock 1 301).appSeq = true ∧
      (handlePlaintext .loopback "alice" (knockBytes 1 301)).run knocked =
        .error (.sync (.futureTimestamp 301 0)) knocked := by
  have noted : knocked.db.hasInboundSeq "alice" (knock 1 301).appSeq = true := by decide +kernel
  have found : knocked.db.relationship "alice" =
      some (newRelationship "alice" .inviter .active "" [] false 0) := by
    decide +kernel
  refine ⟨rfl, noted, ?_⟩
  have ran := @run_handlePlaintext_of_noted .loopback "alice" knocked
    (knockBytes 1 301) (knock 1 301) _ found rfl noted
  have clock : knocked.clock = 0 := by decide +kernel
  rw [if_pos (by decide +kernel), clock] at ran
  exact ran

end SChatCore.Ledger
