import SChatCore.Accord.Conduct
import SChatCore.Engine.Stages

namespace SChatCore.Accord

open Data Data.Action Wire Store Policy Engine

/-! One engine against any peer: the rules change by its user's consent
only. -/

inductive Move
  | call (deed : Deed)
  | peer (plain : Bytes)

section

variable (sys : Platform) (rel : RelId)

/-- The engine after a call or an envelope at the given time, whatever came of
it. -/
def perform (eng : Engine) (move : Nat × Move) : Engine :=
  match move.2 with
  | .call deed => final ((deed.run sys rel).run { eng with clock := move.1 })
  | .peer plain => final ((handlePlaintext sys rel plain).run { eng with clock := move.1 })

def performAll (eng : Engine) (moves : List (Nat × Move)) : Engine :=
  moves.foldl (perform sys rel) eng

/-- What the user consents to by a call: the rules proposed, or the peer's
proposal that is pending when it is accepted. -/
def granted (state : Option PolicyState) : Move → List Rules
  | .call (.propose ttlSec screenshot attachDownload) => [(ttlSec, screenshot, attachDownload)]
  | .call .accept =>
    ((state.bind PolicyState.pending).filter PendingProposal.inbound).toList.map proposed
  | _ => []

def consents (eng : Engine) : List (Nat × Move) → List Rules
  | [] => []
  | move :: rest => granted (columns rel eng) move.2 ++ consents (perform sys rel eng move) rest

def initial (state : PolicyState) : List Rules :=
  rulesOf state :: (state.pending.filter fun own => !own.inbound).toList.map proposed

def PolicyOnly (sys : Platform) (moves : List (Nat × Move)) : Prop :=
  ∀ clock plain, (clock, .peer plain) ∈ moves → ∀ env, Envelope.decode sys.nfc plain = .ok env →
      ∃ policy, env.payload = .chatPolicy policy

end

section

variable {sys : Platform} {rel : RelId} {eng : Engine}

theorem staged_sameColumns : Staged sys rel (SameColumns rel) :=
  staged_of_outbound (fun _ _ => columns_of_outbound) (fun _ _ => rfl) fun _ _ _ _ _ => rfl

/-- The columns are as they were, or as the letter leaves them. -/
def Heard (rel : RelId) (state : PolicyState) (letter : Letter) (eng : Engine) : Prop :=
  columns rel eng = some state ∨ columns rel eng = some (hear state letter)

theorem heard_handlePlaintext {plain : Bytes} {env : Envelope} {policy : ChatPolicy}
    (decoded : Envelope.decode sys.nfc plain = .ok env) (carried : env.payload = .chatPolicy policy)
    (known : columns rel eng = some state) :
    Heard rel state (env.msgId, policy) (final ((handlePlaintext sys rel plain).run eng)) := by
  by_cases accepts : ∃ row, Accepts sys eng rel plain env row
  · obtain ⟨row, accepts⟩ := accepts
    by_cases dispatched : ∃ filed, Dispatches sys rel eng plain env filed
    · obtain ⟨filed, dispatches⟩ := dispatched
      have heard := @columns_applyChatPolicy sys rel filed state env
        policy ((staged_sameColumns.dispatches dispatches).trans known)
      have tail := staged_sameColumns.tail dispatches
      unfold dispatch at tail
      rw [carried] at tail
      exact .inr (tail.trans heard)
    · exact .inl ((staged_sameColumns.undispatched accepts fun filed dispatches =>
        dispatched ⟨filed, dispatches⟩).trans known)
  · left
    rw [final_handlePlaintext_of_not]
    · exact known
    · intro other row accepted
      cases decoded.symm.trans accepted.decoded
      exact accepts ⟨row, accepted⟩

theorem columns_undecoded {plain : Bytes}
    (garbled : ∀ env, Envelope.decode sys.nfc plain ≠ .ok env) :
    columns rel (final ((handlePlaintext sys rel plain).run eng)) = columns rel eng := by
  rw [final_handlePlaintext_of_not fun env _ accepted =>
    garbled env accepted.decoded]

end

/-- The rules in force and our own open proposal are consented to, and no TTL
is out of range. -/
structure Consented (agreed : List Rules) (state : PolicyState) : Prop where
  rules : rulesOf state ∈ agreed
  own : ∀ own, state.pending = some own → own.inbound = false → proposed own ∈ agreed
  ttl : isAllowedTtl state.ttlSec = true
  pendingTtl : ∀ pending, state.pending = some pending → isAllowedTtl pending.ttlSec = true

theorem Consented.mono (consented : Consented agreed state)
    (within : ∀ rules ∈ agreed, rules ∈ more) : Consented more state where
  rules := within _ consented.rules
  own own open_ outbound := within _ (consented.own own open_ outbound)
  ttl := consented.ttl
  pendingTtl := consented.pendingTtl

theorem Consented.congr (consented : Consented agreed state) (rules : rulesOf next = rulesOf state)
    (pending : next.pending = state.pending) : Consented agreed next where
  rules := rules ▸ consented.rules
  own := pending ▸ consented.own
  ttl := by
    have same : next.ttlSec = state.ttlSec := congrArg Prod.fst rules
    rw [same]
    exact consented.ttl
  pendingTtl := pending ▸ consented.pendingTtl

/-- No letter takes effect on the rules but the acceptance of our own
proposal. -/
theorem Consented.hear (consented : Consented agreed state)
    (valid : letter.2.op = ChatPolicy.opRulePropose → isAllowedTtl letter.2.ttlSec = true) :
    Consented agreed (hear state letter) := by
  by_cases propose : letter.2.op = ChatPolicy.opRulePropose
  · rw [hear_propose propose]
    refine ⟨consented.rules, ?_, consented.ttl, ?_⟩
    · rintro _ ⟨⟩ outbound
      cases outbound
    · rintro _ ⟨⟩
      exact valid propose
  by_cases accept : letter.2.op = ChatPolicy.opRuleAccept
  · by_cases awaits : Awaits state letter.2
    · obtain ⟨own, open_, outbound, same⟩ := awaits
      rw [hear_accept_of_awaits accept open_ outbound same]
      exact ⟨consented.own own open_ outbound, by rintro _ ⟨⟩,
        consented.pendingTtl own open_, by rintro _ ⟨⟩⟩
    · rw [hear_accept_of_not accept awaits]
      exact consented
  · obtain ⟨rules, pending⟩ := @hear_capability letter state propose accept
    exact consented.congr rules pending

theorem Consented.build (consented : Consented agreed state) {now : Nat}
    (built : deed.build state proposeId now = some (next, policy, outcome)) :
    Consented (agreed ++ granted (some state) (.call deed)) next := by
  have kept : ∀ rules ∈ agreed, rules ∈ agreed ++ granted (some state) (.call deed) :=
    fun rules mem => List.mem_append_left _ mem
  cases deed with
  | propose ttlSec screenshot attachDownload =>
    obtain ⟨allowed, rfl, -⟩ := propose_of_build built
    refine ⟨kept _ consented.rules, ?_, consented.ttl, ?_⟩
    · rintro _ ⟨⟩ -
      exact List.mem_append_right _ (List.mem_singleton_self _)
    · rintro _ ⟨⟩
      exact allowed
  | accept =>
    obtain ⟨theirs, held, inbound, rfl, -⟩ := accept_of_build built
    refine ⟨List.mem_append_right _ ?_, by rintro _ ⟨⟩,
      consented.pendingTtl theirs held, by rintro _ ⟨⟩⟩
    simp only [granted, Option.bind_some, held, Option.filter_some, inbound,
      if_true, Option.toList_some, List.map_cons]
    exact List.mem_singleton_self _
  | decline =>
    cases built
    exact ⟨kept _ consented.rules, by rintro _ ⟨⟩, consented.ttl, by rintro _ ⟨⟩⟩
  | setCapability capId on =>
    obtain ⟨-, -, rfl, -⟩ := capSet_of_build built
    refine (consented.mono kept).congr ?_ ?_
    · split <;> rfl
    · split <;> rfl

theorem localWant_hear (state : PolicyState) (letter : Letter) (bit : UInt32)
    (off : state.localWant &&& bit = 0) :
    (hear state letter).localWant &&& bit = 0 := by
  have bent : (hear state letter).localWant = (bend (wantsOf state) letter).1 :=
    congrArg Prod.fst (wantsOf_hear state letter)
  rw [bent]
  unfold bend wantsOf
  split
  · split
    · exact off
    · rw [UInt32.and_assoc, UInt32.and_comm (~~~ _), ← UInt32.and_assoc, off, UInt32.zero_and]
  · split <;> exact off

theorem localWant_build {deed : Deed} {now : Nat} (bit : UInt32) (off : state.localWant &&& bit = 0)
    (built : deed.build state proposeId now = some (next, policy, outcome)) :
    next.localWant &&& bit = 0 ∨ ∃ capId, deed = .setCapability capId true := by
  cases deed with
  | propose ttlSec screenshot attachDownload =>
    obtain ⟨-, rfl, -⟩ := propose_of_build built
    exact .inl off
  | accept =>
    obtain ⟨theirs, -, -, rfl, -⟩ := accept_of_build built
    exact .inl off
  | decline =>
    cases built
    exact .inl off
  | setCapability capId on =>
    cases on with
    | true => exact .inr ⟨capId, rfl⟩
    | false =>
      obtain ⟨-, -, rfl, -⟩ := capSet_of_build built
      refine .inl ?_
      simp only [Bool.false_eq_true, if_false]
      rw [UInt32.and_assoc, UInt32.and_comm (~~~ _), ← UInt32.and_assoc, off, UInt32.zero_and]

section

variable {sys : Platform}

theorem allowed_of_decode (decoded : Envelope.decode sys.nfc plain = .ok env)
    (carried : env.payload = .chatPolicy policy) (propose : policy.op = ChatPolicy.opRulePropose) :
    isAllowedTtl policy.ttlSec = true := by
  obtain ⟨bytes, encoded⟩ := Envelope.payload_reencodes decoded
  rw [carried] at encoded
  obtain ⟨valid, -⟩ := seq_eq_ok.mp encoded
  unfold ChatPolicy.validate at valid
  simp only at valid
  split at valid
  · cases valid
  split at valid
  · cases valid
  · rename_i allowed
    by_contra other
    refine allowed ⟨?_, other⟩
    rw [propose]
    decide

theorem consented_perform (known : columns rel eng = some state)
    (consented : Consented agreed state) (policyOnly : PolicyOnly sys [move]) :
    ∃ after, columns rel (perform sys rel eng move) = some after ∧
      Consented (agreed ++ granted (some state) move.2) after ∧
      ∀ bit, state.localWant &&& bit = 0 → after.localWant &&& bit = 0 ∨
        ∃ capId, move.2 = .call (.setCapability capId true) := by
  obtain ⟨clock, move⟩ := move
  cases move with
  | call deed =>
    obtain ⟨-, stored⟩ | ⟨next, policy, outcome, built, stored⟩ :=
      @columns_deed sys rel { eng with clock } state deed known
    · refine ⟨state, stored, consented.mono fun rules mem =>
        List.mem_append_left _ mem, fun bit off => .inl off⟩
    · refine ⟨next, stored, consented.build built, fun bit off => ?_⟩
      refine (localWant_build bit off built).imp_right ?_
      rintro ⟨capId, rfl⟩
      exact ⟨capId, rfl⟩
  | peer plain =>
    have kept : Consented (agreed ++ []) state := by rwa [List.append_nil]
    cases decoded : Envelope.decode sys.nfc plain with
    | error error =>
      have same : columns rel _ = columns rel eng :=
        @columns_undecoded sys rel { eng with clock } plain fun env opened => by
            rw [decoded] at opened
            cases opened
      exact ⟨state, same.trans known, kept, fun bit off => .inl off⟩
    | ok env =>
      obtain ⟨policy, carried⟩ := policyOnly clock plain (List.mem_singleton_self _) env decoded
      obtain same | heard := @heard_handlePlaintext sys rel
        { eng with clock } state plain env policy decoded carried
        known
      · exact ⟨state, same, kept, fun bit off => .inl off⟩
      · refine ⟨_, heard, kept.hear fun propose =>
          allowed_of_decode decoded carried propose, fun bit off => ?_⟩
        exact .inl (localWant_hear state _ bit off)

theorem consented_performAll (known : columns rel eng = some state)
    (consented : Consented agreed state) (policyOnly : PolicyOnly sys moves) :
    ∃ after, columns rel (performAll sys rel eng moves) = some after ∧
        Consented (agreed ++ consents sys rel eng moves) after := by
  induction moves generalizing eng state agreed with
  | nil =>
    refine ⟨state, known, ?_⟩
    rwa [consents, List.append_nil]
  | cons move rest ih =>
    obtain ⟨next, stored, granted, -⟩ := consented_perform known consented
      fun clock plain mem => policyOnly clock plain (by
        rw [List.mem_singleton.mp mem]
        exact List.mem_cons_self)
    obtain ⟨after, reached, done⟩ := ih stored granted fun clock plain mem =>
        policyOnly clock plain (List.mem_cons_of_mem _ mem)
    refine ⟨after, reached, ?_⟩
    rw [consents, known, ← List.append_assoc]
    exact done

end

/-- Whatever policy envelopes a peer sends between the user's own calls: the
rules are those of the start or ones the user consented to, the TTL is one of
the options, and none of our wants comes on but by the user's call. -/
theorem rules_by_consent (sys : Platform) (rel : RelId) (eng : Engine) (start : PolicyState)
    (known : columns rel eng = some start) (ttl : isAllowedTtl start.ttlSec = true)
    (pendingTtl : ∀ pending, start.pending = some pending → isAllowedTtl pending.ttlSec = true)
    (moves : List (Nat × Move)) (policyOnly : PolicyOnly sys moves) :
    ∃ state, columns rel (performAll sys rel eng moves) = some state ∧
      rulesOf state ∈ initial start ++ consents sys rel eng moves ∧
      isAllowedTtl state.ttlSec = true ∧
      ∀ next, PolicyOnly sys [next] → ∃ after, columns rel (perform sys rel
          (performAll sys rel eng moves) next) = some after ∧
        ∀ bit, state.localWant &&& bit = 0 → after.localWant &&& bit ≠ 0 →
          ∃ capId, next.2 = .call (.setCapability capId true) := by
  have consented : Consented (initial start) start := by
    refine ⟨List.mem_cons_self, fun own open_ outbound => ?_, ttl, pendingTtl⟩
    refine List.mem_cons_of_mem _ ?_
    simp [open_, outbound]
  obtain ⟨state, reached, done⟩ := consented_performAll known consented policyOnly
  refine ⟨state, reached, done.rules, done.ttl, fun next only => ?_⟩
  obtain ⟨after, stored, -, wants⟩ := consented_perform reached done only
  exact ⟨after, stored, fun bit off on => (wants bit off).resolve_left on⟩

def stranger : Engine :=
  Engine.new (paired { newRelationship "alice" .inviter .active "" [] false 0
    with peerCaps := Caps.capPolicy }) 0

def hourly : Envelope :=
  ⟨List.Vector.replicate 16 9, 1, 0, none, .chatPolicy (payload ChatPolicy.opRulePropose
      { PolicyState.default with ttlSec := ttl1h } 0 false noProposeId)⟩

def hourlyBytes : Bytes := (hourly.encode id).toOption.getD []

def acceptsHourly : List (Nat × Move) := [(0, .peer hourlyBytes), (1, .call .accept)]

theorem policyOnly_acceptsHourly : PolicyOnly Platform.loopback acceptsHourly := by
  intro clock plain mem env decoded
  have sent : plain = hourlyBytes := by
    simp only [acceptsHourly, List.mem_cons, Prod.mk.injEq, Move.peer.injEq,
      reduceCtorEq, and_false, List.not_mem_nil, or_false] at mem
    exact mem.2
  have opens : Envelope.decode id hourlyBytes = .ok hourly := by decide +kernel
  rw [sent] at decoded
  cases opens.symm.trans decoded
  exact ⟨_, rfl⟩

theorem hourly_by_consent : ∃ state, columns "alice" (performAll .loopback "alice" stranger
        acceptsHourly) = some state ∧
      rulesOf state ∈ [(86400, true, true), (3600, true, true)] ∧
      isAllowedTtl state.ttlSec = true := by
  obtain ⟨state, reached, rules, ttl, -⟩ := rules_by_consent .loopback "alice"
    stranger .default (by decide +kernel) (by decide) nofun acceptsHourly
    policyOnly_acceptsHourly
  have agreed : initial .default ++ consents .loopback "alice" stranger acceptsHourly =
        [(86400, true, true), (3600, true, true)] := by
    decide +kernel
  exact ⟨state, reached, agreed ▸ rules, ttl⟩

end SChatCore.Accord
