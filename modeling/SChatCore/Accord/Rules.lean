import SChatCore.Accord.Party

namespace SChatCore.Accord

open Wire Policy Engine
open ChatPolicy (opCapSet opRuleAccept opRulePropose opSync)

/-! Two parties and the rules they agree on. -/

/-- The id a rule letter goes by: a proposal without one goes by its
envelope's. -/
def ruleId (letter : Letter) : MsgId :=
  if letter.2.op = opRulePropose ∧ letter.2.proposeId = noProposeId then letter.1
  else letter.2.proposeId

/-- A proposal, pending or under way, or an acceptance goes by this id. -/
def Uses (party : Party) (id : MsgId) : Prop :=
  (∃ own, party.state.pending = some own ∧ own.proposeId = id) ∨
    ∃ letter ∈ party.mail, ruleId letter = id ∧ (letter.2.op = opRulePropose ∨
        letter.2.op = opRuleAccept)

def FreshId (party peer : Party) : Act → Prop
  | .call (.propose _ _ _) proposeId => ¬ Uses party proposeId ∧ ¬ Uses peer proposeId
  | _ => True

/-- An acceptance is read while the proposal it answers is still open. -/
def Timely (party : Party) : Act → Prop
  | .read => ∀ letter rest, party.mail = letter :: rest →
      letter.2.op = opRuleAccept → Awaits party.state letter.2
  | _ => True

/-- Wherever our open proposal has come by now, its contents are the same. -/
structure Faithful (party peer : Party) : Prop where
  accepted : ∀ own, party.state.pending = some own → own.inbound = false →
    ∀ letter ∈ party.mail, letter.2.op = opRuleAccept →
      letter.2.proposeId = own.proposeId → contents letter.2 = proposed own
  underWay : ∀ own, party.state.pending = some own → own.inbound = false →
    ∀ letter ∈ peer.mail, letter.2.op = opRulePropose →
      ruleId letter = own.proposeId → contents letter.2 = proposed own
  held : ∀ own, party.state.pending = some own → own.inbound = false →
    ∀ theirs, peer.state.pending = some theirs → theirs.inbound = true →
      theirs.proposeId = own.proposeId → proposed theirs = proposed own

/-- The rules once every acceptance under way has arrived. -/
def due (rules : Rules) (mail : List Letter) : Rules :=
  mail.foldl (fun rules letter =>
    if letter.2.op = opRuleAccept then contents letter.2
    else rules) rules

def Party.due (party : Party) : Rules := Accord.due (rulesOf party.state) party.mail

/-- An acceptance is under way that will not find its proposal. -/
def Stranded (party : Party) : Prop :=
  ∃ letter ∈ party.mail, letter.2.op = opRuleAccept ∧ ¬ Awaits party.state letter.2

structure Concord (party peer : Party) : Prop where
  faithful : Faithful party peer
  peerFaithful : Faithful peer party
  agrees : party.due = peer.due ∨ Stranded party ∨ Stranded peer

theorem Concord.symm (concord : Concord party peer) : Concord peer party :=
  ⟨concord.peerFaithful, concord.faithful, concord.agrees.imp Eq.symm Or.symm⟩

def Plain (letter : Letter) : Prop := letter.2.op ≠ opRulePropose ∧ letter.2.op ≠ opRuleAccept

theorem plain_of_op (op : letter.2.op = opCapSet ∨ letter.2.op = opSync) : Plain letter := by
  unfold Plain
  obtain op | op := op <;> rw [op] <;> decide

theorem due_append (rules : Rules) (mail more : List Letter) :
    due rules (mail ++ more) = due (due rules mail) more :=
  List.foldl_append ..

theorem due_of_unaccepting (rules : Rules) (none : ∀ letter ∈ mail, letter.2.op ≠ opRuleAccept) :
    due rules mail = rules := by
  induction mail with
  | nil => rfl
  | cons letter rest ih =>
    have first := none letter List.mem_cons_self
    unfold due
    rw [List.foldl_cons, if_neg first]
    exact ih fun other mem =>
      none other (List.mem_cons_of_mem _ mem)

theorem Party.due_sent (peer : Party) (none : ∀ letter ∈ letters, letter.2.op ≠ opRuleAccept) :
    (peer.sent letters).due = peer.due := by
  unfold Party.due Party.sent
  rw [due_append]
  exact due_of_unaccepting _ none

theorem Stranded.sent (stranded : Stranded peer) (letters : List Letter) :
    Stranded (peer.sent letters) := by
  obtain ⟨letter, mem, rest⟩ := stranded
  exact ⟨letter, List.mem_append_left _ mem, rest⟩

/-- A step that keeps rules and pending proposal, takes letters without rules
at most and sends no others. -/
theorem Concord.of_plain (concord : Concord party peer)
    (rules : rulesOf state = rulesOf party.state) (pending : state.pending = party.state.pending)
    (mail : party.mail = rest ∨ ∃ letter, Plain letter ∧ party.mail = letter :: rest)
    (plain : ∀ letter ∈ letters, Plain letter) :
    Concord ⟨state, rest⟩ (peer.sent letters) := by
  have fewer : ∀ letter ∈ rest, letter ∈ party.mail := by
    intro letter mem
    obtain same | ⟨first, -, same⟩ := mail
    · rwa [same]
    · rw [same]
      exact List.mem_cons_of_mem _ mem
  have awaits : ∀ policy, Awaits state policy ↔ Awaits party.state policy := by
    intro policy
    unfold Awaits
    rw [pending]
  have kept : Party.due ⟨state, rest⟩ = party.due := by
    unfold Party.due
    rw [rules]
    obtain same | ⟨first, plain, same⟩ := mail
    · rw [same]
    · rw [same, due, due, List.foldl_cons, if_neg plain.2]
  refine ⟨⟨?_, ?_, ?_⟩, ⟨?_, ?_, ?_⟩, ?_⟩
  · intro own open_ outbound letter mem
    exact concord.faithful.accepted own (pending ▸ open_) outbound letter (fewer letter mem)
  · intro own open_ outbound letter mem op
    obtain mem | mem := List.mem_append.mp mem
    · exact concord.faithful.underWay own (pending ▸ open_) outbound letter mem op
    · exact absurd op (plain letter mem).1
  · intro own open_ outbound
    exact concord.faithful.held own (pending ▸ open_) outbound
  · intro own open_ outbound letter mem op
    obtain mem | mem := List.mem_append.mp mem
    · exact concord.peerFaithful.accepted own open_ outbound letter mem op
    · exact absurd op (plain letter mem).2
  · intro own open_ outbound letter mem
    exact concord.peerFaithful.underWay own open_ outbound letter (fewer letter mem)
  · intro own open_ outbound theirs held
    exact concord.peerFaithful.held own open_ outbound theirs (pending ▸ held)
  · rw [kept, peer.due_sent fun letter mem => (plain letter mem).2]
    refine concord.agrees.imp_right (Or.imp ?_ fun stranded => stranded.sent _)
    rintro ⟨letter, mem, op, stale⟩
    refine ⟨letter, ?_, op, fun open_ => stale ((awaits _).mp open_)⟩
    obtain same | ⟨first, plain, same⟩ := mail
    · rwa [← same]
    · rw [same] at mem
      obtain rfl | mem := List.mem_cons.mp mem
      · exact absurd op plain.2
      · exact mem

theorem Faithful.of_closed (closed : ∀ own, party.state.pending = some own → own.inbound = true) :
    Faithful party peer := by
  have none : ∀ own, party.state.pending = some own → own.inbound = false →
      False := by
    intro own open_ outbound
    rw [closed own open_] at outbound
    cases outbound
  exact ⟨fun own open_ outbound => (none own open_ outbound).elim,
    fun own open_ outbound => (none own open_ outbound).elim,
    fun own open_ outbound => (none own open_ outbound).elim⟩

theorem not_awaits_of_closed (closed : ∀ own, state.pending = some own → own.inbound = true) :
    ¬ Awaits state policy := by
  rintro ⟨own, open_, outbound, -⟩
  rw [closed own open_] at outbound
  cases outbound

theorem uses_of_accept (mem : letter ∈ party.mail) (op : letter.2.op = opRuleAccept) :
    Uses party letter.2.proposeId := by
  refine .inr ⟨letter, mem, if_neg fun both => ?_, .inr op⟩
  rw [op] at both
  exact absurd both.1 (by decide)

theorem Concord.propose (concord : Concord party peer) (unused : ¬ Uses party own.proposeId)
    (peerUnused : ¬ Uses peer own.proposeId) (outbound : own.inbound = false)
    (op : letter.2.op = opRulePropose) (spoken : contents letter.2 = proposed own) :
    Concord ⟨{ party.state with pending := some own }, party.mail⟩ (peer.sent [letter]) := by
  have unaccepting : ∀ other ∈ [letter], other.2.op ≠ opRuleAccept := by
    intro other mem
    rw [List.mem_singleton.mp mem, op]
    decide
  refine ⟨⟨?_, ?_, ?_⟩, ⟨?_, ?_, ?_⟩, ?_⟩
  · rintro _ ⟨⟩ - other mem accept same
    exact absurd (same ▸ uses_of_accept mem accept) unused
  · rintro _ ⟨⟩ - other mem proposes same
    obtain mem | mem := List.mem_append.mp mem
    · exact absurd (.inr ⟨other, mem, same, .inl proposes⟩) peerUnused
    · rw [List.mem_singleton.mp mem]
      exact spoken
  · rintro _ ⟨⟩ - theirs held - same
    exact absurd (.inl ⟨theirs, held, same⟩) peerUnused
  · intro other open_ outbound entry mem accept
    obtain mem | mem := List.mem_append.mp mem
    · exact concord.peerFaithful.accepted other open_ outbound entry mem accept
    · exact absurd accept (unaccepting entry mem)
  · exact concord.peerFaithful.underWay
  · rintro other open_ - _ ⟨⟩ inbound
    rw [outbound] at inbound
    cases inbound
  · rw [peer.due_sent unaccepting]
    refine concord.agrees.imp_right (Or.imp ?_ fun stranded => stranded.sent _)
    rintro ⟨other, mem, accept, -⟩
    refine ⟨other, mem, accept, ?_⟩
    rintro ⟨_, ⟨⟩, -, same⟩
    exact unused (same ▸ uses_of_accept mem accept)

theorem Concord.decline (concord : Concord party peer) :
    Concord ⟨{ party.state with pending := none }, party.mail⟩ peer := by
  refine ⟨.of_closed nofun, ⟨concord.peerFaithful.accepted,
    concord.peerFaithful.underWay, nofun⟩, ?_⟩
  refine concord.agrees.imp_right (Or.imp_left ?_)
  rintro ⟨other, mem, accept, -⟩
  exact ⟨other, mem, accept, not_awaits_of_closed nofun⟩

theorem Concord.accept (concord : Concord party peer)
    (held : party.state.pending = some theirs) (inbound : theirs.inbound = true)
    (closed : state.pending = none) (rules : rulesOf state = proposed theirs)
    (op : letter.2.op = opRuleAccept) (answers : letter.2.proposeId = theirs.proposeId)
    (spoken : contents letter.2 = proposed theirs) :
    Concord ⟨state, party.mail⟩ (peer.sent [letter]) := by
  have empty : ∀ own, state.pending = some own → own.inbound = true := by
    intro own open_
    rw [closed] at open_
    cases open_
  refine ⟨.of_closed empty, ⟨?_, concord.peerFaithful.underWay, ?_⟩, ?_⟩
  · intro own open_ outbound entry mem accept same
    obtain mem | mem := List.mem_append.mp mem
    · exact concord.peerFaithful.accepted own open_ outbound entry mem accept same
    · rw [List.mem_singleton.mp mem] at same ⊢
      exact spoken.trans (concord.peerFaithful.held own open_ outbound theirs
        held inbound (answers.symm.trans same))
  · intro own _ _ theirs held
    rw [closed] at held
    cases held
  by_cases crossing : ∃ other ∈ party.mail, other.2.op = opRuleAccept
  · obtain ⟨other, mem, accept⟩ := crossing
    exact .inr (.inl ⟨other, mem, accept, not_awaits_of_closed empty⟩)
  · refine .inl ?_
    unfold Party.due Party.sent
    rw [due_of_unaccepting _ fun other mem accept =>
      crossing ⟨other, mem, accept⟩, due_append, rules]
    simp only [due, List.foldl_cons, List.foldl_nil, if_pos op]
    exact spoken.symm

theorem Concord.hearPropose (concord : Concord party peer) (mail : party.mail = letter :: rest)
    (op : letter.2.op = opRulePropose) :
    Concord ⟨hear party.state letter, rest⟩ peer := by
  have mem : letter ∈ party.mail := by simp [mail]
  have fewer : ∀ other ∈ rest, other ∈ party.mail := fun other held => by
    simp [mail, held]
  have unaccepting : letter.2.op ≠ opRuleAccept := by
    rw [op]
    decide
  rw [hear_propose op]
  have inbound : ∀ own, (applyPropose party.state letter.2 letter.1).pending = some own →
        own.inbound = true := by
    rintro _ ⟨⟩
    rfl
  refine ⟨.of_closed inbound, ⟨concord.peerFaithful.accepted, ?_, ?_⟩, ?_⟩
  · intro own open_ outbound other held
    exact concord.peerFaithful.underWay own open_ outbound other (fewer other held)
  · rintro own open_ outbound _ ⟨⟩ - same
    refine concord.peerFaithful.underWay own open_ outbound letter mem op ?_
    rw [← same, ruleId]
    simp only [op, true_and]
  · have kept : Party.due ⟨applyPropose party.state letter.2 letter.1, rest⟩ =
        party.due := by
      unfold Party.due
      rw [mail, due, due, List.foldl_cons, if_neg unaccepting]
      rfl
    rw [kept]
    refine concord.agrees.imp_right (Or.imp_left ?_)
    rintro ⟨other, held, accept, -⟩
    rw [mail] at held
    obtain rfl | held := List.mem_cons.mp held
    · exact absurd accept unaccepting
    · exact ⟨other, held, accept, not_awaits_of_closed inbound⟩

theorem Concord.hearAccept (concord : Concord party peer) (mail : party.mail = letter :: rest)
    (op : letter.2.op = opRuleAccept) (awaits : Awaits party.state letter.2) :
    Concord ⟨hear party.state letter, rest⟩ peer := by
  have timely := awaits
  obtain ⟨own, open_, outbound, same⟩ := awaits
  have mem : letter ∈ party.mail := by simp [mail]
  have spoken := concord.faithful.accepted own open_ outbound letter mem op same.symm
  rw [hear_accept_of_awaits op open_ outbound same]
  refine ⟨.of_closed nofun, ⟨concord.peerFaithful.accepted, ?_, nofun⟩, ?_⟩
  · intro own open_ outbound other held
    refine concord.peerFaithful.underWay own open_ outbound other ?_
    simp [mail, held]
  · have agrees := concord.agrees
    have kept : party.due = due (proposed own) rest := by
      unfold Party.due
      rw [mail, due, List.foldl_cons, if_pos op, spoken]
      rfl
    rw [kept] at agrees
    refine agrees.imp_right (Or.imp_left ?_)
    rintro ⟨other, held, accept, stale⟩
    rw [mail] at held
    obtain rfl | held := List.mem_cons.mp held
    · exact absurd timely stale
    · exact ⟨other, held, accept, not_awaits_of_closed nofun⟩

theorem Concord.call (concord : Concord party peer) {deed : Deed}
    {proposeId : MsgId} {now : Nat} {next : PolicyState}
    {policy : Option ChatPolicy} {outcome : ApplyOutcome} (msgId : MsgId)
    (fresh : FreshId party peer (.call deed proposeId))
    (built : deed.build party.state proposeId now = some (next, policy, outcome)) :
    Concord { party with state := next }
      (peer.sent (policy.toList.map fun policy => (msgId, policy))) := by
  cases deed with
  | propose ttlSec screenshot attachDownload =>
    obtain ⟨-, rfl, rfl⟩ := propose_of_build built
    exact concord.propose fresh.1 fresh.2 rfl rfl rfl
  | accept =>
    obtain ⟨theirs, held, inbound, rfl, rfl⟩ := accept_of_build built
    exact concord.accept held inbound rfl rfl rfl rfl rfl
  | decline =>
    cases built
    simpa [Party.sent] using concord.decline
  | setCapability capId on =>
    obtain ⟨-, -, rfl, rfl⟩ := capSet_of_build built
    refine concord.of_plain ?_ ?_ (.inl rfl) fun letter mem => ?_
    · split <;> rfl
    · split <;> rfl
    · rw [List.mem_singleton.mp mem]
      exact plain_of_op (.inl rfl)

theorem Concord.read (concord : Concord party peer) {letter : Letter}
    {rest : List Letter} (mail : party.mail = letter :: rest)
    (timely : letter.2.op = opRuleAccept → Awaits party.state letter.2) :
    Concord ⟨hear party.state letter, rest⟩ peer := by
  by_cases propose : letter.2.op = opRulePropose
  · exact concord.hearPropose mail propose
  by_cases accept : letter.2.op = opRuleAccept
  · exact concord.hearAccept mail accept (timely accept)
  · obtain ⟨rules, pending⟩ := hear_capability propose accept
    have kept := @Concord.of_plain party peer _ rest [] concord rules pending
      (.inr ⟨letter, ⟨propose, accept⟩, mail⟩) nofun
    simpa [Party.sent] using kept

theorem Concord.sync (concord : Concord party peer) (msgId : MsgId) :
    Concord party (peer.sent [(msgId, syncOf party.state)]) := by
  refine concord.of_plain rfl rfl (.inl rfl) fun letter mem => ?_
  rw [List.mem_singleton.mp mem]
  exact plain_of_op (.inr rfl)

theorem Concord.step (concord : Concord party peer)
    (moves : Moves party act after letters) (fresh : FreshId party peer act)
    (timely : Timely party act) : Concord after (peer.sent letters) := by
  cases moves with
  | call msgId built => exact concord.call msgId fresh built
  | idle => simpa [Party.sent] using concord
  | read letter rest =>
    have heard := concord.read rfl (timely letter rest rfl)
    simpa [Party.sent] using heard
  | reply rest msgId sync => exact (concord.read rfl (timely _ rest rfl)).sync msgId
  | offer _ msgId => exact concord.sync msgId
  | withhold => simpa [Party.sent] using concord

theorem Concord.rules_eq (concord : Concord party peer)
    (read : party.mail = []) (peerRead : peer.mail = []) :
    rulesOf party.state = rulesOf peer.state := by
  obtain same | ⟨letter, mem, -⟩ | ⟨letter, mem, -⟩ := concord.agrees
  · unfold Party.due at same
    rwa [read, peerRead] at same
  · rw [read] at mem
    cases mem
  · rw [peerRead] at mem
    cases mem

end SChatCore.Accord
