import SChatCore.Accord.Party
import SChatCore.Data.Flags
import Mathlib.Tactic.SplitIfs

namespace SChatCore.Accord

open Data Wire Policy Engine
open ChatPolicy (capBit opCapSet opRuleAccept opRulePropose opSync)

/-! Two parties and the capabilities they want. -/

theorem capBit_apart (differ : first ≠ second) : capBit first &&& capBit second = 0 := by
  unfold capBit
  split_ifs <;> first | rfl | (subst_vars; exact absurd rfl differ)

theorem capBit_within (capId : UInt8) : capBit capId &&& wantAll = capBit capId := by
  unfold capBit
  split_ifs <;> rfl

theorem wants_syncOf (state : PolicyState) :
    wants (syncOf state) = state.localWant &&& wantAll := by
  have attach : Flags.Single ChatPolicy.flagWantAttach := ⟨2, rfl⟩
  have emoji : Flags.Single ChatPolicy.flagWantEmoji := ⟨3, rfl⟩
  have presence : Flags.Single ChatPolicy.flagWantPresence := ⟨4, rfl⟩
  have typing : Flags.Single ChatPolicy.flagWantTyping := ⟨5, rfl⟩
  have receipts : Flags.Single ChatPolicy.flagWantReceipts := ⟨6, rfl⟩
  simp only [wants, syncOf, payload, decide_eq_true_eq,
    Flags.ite_and_of_single attach, Flags.ite_and_of_single emoji,
    Flags.ite_and_of_single presence, Flags.ite_and_of_single typing,
    Flags.ite_and_of_single receipts, wantAll, Flags.and_or]

def wantsOf (state : PolicyState) : UInt32 × UInt32 := (state.localWant, state.peerWant)

def bend (both : UInt32 × UInt32) (letter : Letter) : UInt32 × UInt32 :=
  let flag := capBit letter.2.capId
  if letter.2.op = opCapSet then
    if letter.2.capOn then (both.1, both.2 ||| flag)
    else (both.1 &&& ~~~flag, both.2 &&& ~~~flag)
  else if letter.2.op = opSync then (both.1, wants letter.2)
  else both

theorem bend_sync (op : letter.2.op = opSync) (both : UInt32 × UInt32) :
    bend both letter = (both.1, wants letter.2) := by
  rw [bend, if_neg (by rw [op]; decide), if_pos op]

theorem wantsOf_hear (state : PolicyState) (letter : Letter) :
    wantsOf (hear state letter) = bend (wantsOf state) letter := by
  by_cases propose : letter.2.op = opRulePropose
  · rw [hear_propose propose, bend, if_neg (by rw [propose]; decide),
      if_neg (by rw [propose]; decide)]
    rfl
  by_cases accept : letter.2.op = opRuleAccept
  · rw [bend, if_neg (by rw [accept]; decide), if_neg (by rw [accept]; decide)]
    by_cases awaits : Awaits state letter.2
    · obtain ⟨own, open_, outbound, same⟩ := awaits
      rw [hear_accept_of_awaits accept open_ outbound same]
      rfl
    · rw [hear_accept_of_not accept awaits]
  by_cases capSet : letter.2.op = opCapSet
  · rw [hear_capSet capSet, bend, if_pos capSet]
    unfold applyCapSet
    simp only
    split
    · rename_i unknown
      simp [wantsOf, unknown]
    · split <;> rfl
  by_cases sync : letter.2.op = opSync
  · rw [hear_sync sync, bend_sync sync]
    unfold applySync
    simp only
    split
    · rename_i same
      rw [same]
      rfl
    · rfl
  · rw [hear_unknown propose accept capSet sync, bend, if_neg capSet, if_neg sync]

/-- The wants once everything under way has arrived. -/
def Party.outlook (party : Party) : UInt32 × UInt32 := party.mail.foldl bend (wantsOf party.state)

theorem Party.outlook_sent (peer : Party) (letters : List Letter) :
    (peer.sent letters).outlook = letters.foldl bend peer.outlook :=
  List.foldl_append ..

theorem Party.outlook_read (state : PolicyState) (letter : Letter) (rest : List Letter) :
    Party.outlook ⟨hear state letter, rest⟩ = Party.outlook ⟨state, letter :: rest⟩ := by
  unfold Party.outlook
  rw [List.foldl_cons, wantsOf_hear]

def Lowers (capId : UInt8) (letter : Letter) : Prop :=
  letter.2.op = opCapSet ∧ letter.2.capOn = false ∧ letter.2.capId = capId

def Lifts (capId : UInt8) (letter : Letter) : Prop :=
  (letter.2.op = opCapSet ∧ letter.2.capOn = true ∧ letter.2.capId = capId) ∨
    letter.2.op = opSync ∧ wants letter.2 &&& capBit capId ≠ 0

/-- Nothing we want is about to be switched off. -/
def Steady (state : PolicyState) (mail : List Letter) : Prop :=
  ∀ letter ∈ mail, ∀ capId, Lowers capId letter → state.localWant &&& capBit capId = 0

/-- What is said is not crossed by its opposite. -/
def Uncrossed (party : Party) : Act → Prop
  | .call (.setCapability capId true) _ => ∀ letter ∈ party.mail, ¬ Lowers capId letter
  | .call (.setCapability capId false) _ => ∀ letter ∈ party.mail, ¬ Lifts capId letter
  | .read => ∀ letter rest, party.mail = letter :: rest →
      letter.2.op = opSync → Steady party.state rest
  | .offer => Steady party.state party.mail
  | _ => True

theorem bend_or (none : ¬ Lowers capId letter) (both : UInt32 × UInt32) :
    bend (both.1 ||| capBit capId, both.2) letter =
      ((bend both letter).1 ||| capBit capId, (bend both letter).2) := by
  unfold bend
  simp only
  split
  · rename_i capSet
    split
    · rfl
    · rename_i off
      have differ : capId ≠ letter.2.capId := fun same =>
        none ⟨capSet, by simpa using off, same.symm⟩
      rw [Flags.or_andNot (capBit_apart differ)]
  · split <;> rfl

theorem foldl_bend_comm {mail : List Letter}
    {f : UInt32 × UInt32 → UInt32 × UInt32} (steps : ∀ letter ∈ mail,
      ∀ both, bend (f both) letter = f (bend both letter))
    (both : UInt32 × UInt32) :
    mail.foldl bend (f both) = f (mail.foldl bend both) := by
  induction mail generalizing both with
  | nil => rfl
  | cons letter rest ih =>
    rw [List.foldl_cons, List.foldl_cons, steps letter List.mem_cons_self]
    exact ih (fun other mem => steps other (List.mem_cons_of_mem _ mem)) _

def lowered (capId : UInt8) (both : UInt32 × UInt32) : UInt32 × UInt32 :=
  (both.1 &&& ~~~capBit capId, both.2 &&& ~~~capBit capId)

theorem bend_lowered (none : ¬ Lifts capId letter) (both : UInt32 × UInt32) :
    bend (lowered capId both) letter = lowered capId (bend both letter) := by
  unfold bend lowered
  simp only
  split
  · rename_i capSet
    split
    · rename_i on
      have differ : capId ≠ letter.2.capId := fun same =>
        none (.inl ⟨capSet, on, same.symm⟩)
      rw [Flags.andNot_or (capBit_apart differ)]
    · rw [UInt32.and_assoc, UInt32.and_comm (~~~ _), ← UInt32.and_assoc,
        UInt32.and_assoc both.2, UInt32.and_comm (~~~ _) (~~~ _), ← UInt32.and_assoc]
  · split
    · rename_i sync
      have clear : wants letter.2 &&& capBit capId = 0 := by
        by_contra set
        exact none (.inr ⟨sync, set⟩)
      rw [Flags.andNot_of_apart clear]
    · rfl

theorem foldl_bend_of_steady (steady : Steady state mail) (peerWant : UInt32) :
    (mail.foldl bend (state.localWant, peerWant)).1 = state.localWant := by
  induction mail generalizing peerWant with
  | nil => rfl
  | cons letter rest ih =>
    have kept : (bend (state.localWant, peerWant) letter).1 =
        state.localWant := by
      unfold bend
      split
      · rename_i capSet
        split
        · rfl
        · rename_i off
          exact Flags.andNot_of_apart (steady letter List.mem_cons_self _
            ⟨capSet, by simpa using off, rfl⟩)
      · split <;> rfl
    rw [List.foldl_cons]
    generalize bend (state.localWant, peerWant) letter = both at kept
    obtain ⟨localWant, peerWant⟩ := both
    cases kept
    exact ih (fun other mem =>
      steady other (List.mem_cons_of_mem _ mem)) _

structure Mirror (party peer : Party) : Prop where
  known : party.outlook.2 = peer.outlook.1
  peerKnown : peer.outlook.2 = party.outlook.1
  flags : party.state.localWant &&& wantAll = party.state.localWant
  peerFlags : peer.state.localWant &&& wantAll = peer.state.localWant

theorem Mirror.symm (mirror : Mirror party peer) : Mirror peer party :=
  ⟨mirror.peerKnown, mirror.known, mirror.peerFlags, mirror.flags⟩

theorem Mirror.of_silent (mirror : Mirror party peer) (same : wantsOf state = wantsOf party.state)
    (silent : ∀ letter ∈ letters, ∀ both, bend both letter = both) :
    Mirror { party with state } (peer.sent letters) := by
  have outlook : Party.outlook { party with state } = party.outlook := by
    unfold Party.outlook
    rw [same]
  have sent : (peer.sent letters).outlook = peer.outlook := by
    rw [Party.outlook_sent]
    induction letters with
    | nil => rfl
    | cons letter rest ih =>
      rw [List.foldl_cons, silent letter List.mem_cons_self]
      exact ih fun other mem =>
        silent other (List.mem_cons_of_mem _ mem)
  refine ⟨?_, ?_, ?_, mirror.peerFlags⟩
  · rw [outlook, sent]
    exact mirror.known
  · rw [outlook, sent]
    exact mirror.peerKnown
  · have same : state.localWant = party.state.localWant := congrArg Prod.fst same
    rw [same]
    exact mirror.flags

theorem bend_of_rule (rule : letter.2.op = opRulePropose ∨
      letter.2.op = opRuleAccept) (both : UInt32 × UInt32) :
    bend both letter = both := by
  unfold bend
  obtain op | op := rule <;> rw [op] <;> rfl

theorem Mirror.raise (mirror : Mirror party peer) {letter : Letter}
    (uncrossed : ∀ other ∈ party.mail, ¬ Lowers capId other)
    (op : letter.2.op = opCapSet) (on : letter.2.capOn = true) (same : letter.2.capId = capId) :
    Mirror { party with state := { party.state with
      localWant := party.state.localWant ||| capBit capId } }
      (peer.sent [letter]) := by
  have outlook : Party.outlook { party with state := { party.state with
      localWant := party.state.localWant ||| capBit capId } } =
        (party.outlook.1 ||| capBit capId, party.outlook.2) :=
    foldl_bend_comm (f := fun both => (both.1 ||| capBit capId, both.2))
      (fun other mem => bend_or (uncrossed other mem)) (wantsOf party.state)
  have sent : (peer.sent [letter]).outlook = (peer.outlook.1, peer.outlook.2 ||| capBit capId) := by
    rw [Party.outlook_sent, List.foldl_cons, List.foldl_nil, bend, if_pos op, if_pos on, same]
  refine ⟨?_, ?_, Flags.within_or mirror.flags (capBit_within capId), mirror.peerFlags⟩
  · rw [outlook, sent]
    exact mirror.known
  · rw [outlook, sent, mirror.peerKnown]

theorem Mirror.lower (mirror : Mirror party peer) {letter : Letter}
    (uncrossed : ∀ other ∈ party.mail, ¬ Lifts capId other)
    (op : letter.2.op = opCapSet) (off : letter.2.capOn = false) (same : letter.2.capId = capId) :
    Mirror { party with state := { party.state with
      localWant := party.state.localWant &&& ~~~capBit capId
      peerWant := party.state.peerWant &&& ~~~capBit capId } }
      (peer.sent [letter]) := by
  have outlook : Party.outlook { party with state := { party.state with
      localWant := party.state.localWant &&& ~~~capBit capId
      peerWant := party.state.peerWant &&& ~~~capBit capId } } = lowered capId party.outlook :=
    foldl_bend_comm (fun other mem => bend_lowered (uncrossed other mem)) (wantsOf party.state)
  have sent : (peer.sent [letter]).outlook = lowered capId peer.outlook := by
    rw [Party.outlook_sent, List.foldl_cons, List.foldl_nil, bend, if_pos op,
      if_neg (by simp [off]), same]
    rfl
  refine ⟨?_, ?_, Flags.within_andNot mirror.flags, mirror.peerFlags⟩
  · rw [outlook, sent, lowered, mirror.known]
    rfl
  · rw [outlook, sent, lowered, mirror.peerKnown]
    rfl

theorem Mirror.sync (mirror : Mirror party peer)
    (steady : Steady party.state party.mail) (msgId : MsgId) :
    Mirror party (peer.sent [(msgId, syncOf party.state)]) := by
  have ours : party.outlook.1 = party.state.localWant :=
    foldl_bend_of_steady steady party.state.peerWant
  have sent : (peer.sent [(msgId, syncOf party.state)]).outlook =
      (peer.outlook.1, party.state.localWant) := by
    rw [Party.outlook_sent, List.foldl_cons, List.foldl_nil, bend_sync rfl,
      wants_syncOf, mirror.flags]
  refine ⟨?_, ?_, mirror.flags, mirror.peerFlags⟩
  · rw [sent]
    exact mirror.known
  · rw [sent, ours]

theorem Mirror.call (mirror : Mirror party peer) {deed : Deed}
    {proposeId : MsgId} {now : Nat} {next : PolicyState}
    {policy : Option ChatPolicy} {outcome : ApplyOutcome} (msgId : MsgId)
    (uncrossed : Uncrossed party (.call deed proposeId))
    (built : deed.build party.state proposeId now = some (next, policy, outcome)) :
    Mirror { party with state := next }
      (peer.sent (policy.toList.map fun policy => (msgId, policy))) := by
  cases deed with
  | propose ttlSec screenshot attachDownload =>
    obtain ⟨-, rfl, rfl⟩ := propose_of_build built
    refine mirror.of_silent rfl fun letter mem => ?_
    rw [List.mem_singleton.mp mem]
    exact bend_of_rule (.inl rfl)
  | accept =>
    obtain ⟨theirs, -, -, rfl, rfl⟩ := accept_of_build built
    refine mirror.of_silent rfl fun letter mem => ?_
    rw [List.mem_singleton.mp mem]
    exact bend_of_rule (.inr rfl)
  | decline =>
    cases built
    exact mirror.of_silent rfl nofun
  | setCapability capId on =>
    obtain ⟨-, -, rfl, rfl⟩ := capSet_of_build built
    cases on with
    | true => exact mirror.raise uncrossed rfl rfl rfl
    | false => exact mirror.lower uncrossed rfl rfl rfl

theorem Mirror.read {state : PolicyState} {letter : Letter}
    {rest : List Letter} (mirror : Mirror ⟨state, letter :: rest⟩ peer) :
    Mirror ⟨hear state letter, rest⟩ peer := by
  refine ⟨?_, ?_, ?_, mirror.peerFlags⟩
  · rw [Party.outlook_read]
    exact mirror.known
  · rw [Party.outlook_read]
    exact mirror.peerKnown
  · have bent : (hear state letter).localWant = (bend (wantsOf state) letter).1 :=
      congrArg Prod.fst (wantsOf_hear state letter)
    have flags : state.localWant &&& wantAll = state.localWant := mirror.flags
    rw [bent]
    unfold bend
    split
    · split
      · exact flags
      · exact Flags.within_andNot flags
    · split <;> exact flags

theorem Mirror.step (mirror : Mirror party peer) (moves : Moves party act after letters)
    (uncrossed : Uncrossed party act) : Mirror after (peer.sent letters) := by
  cases moves with
  | call msgId built => exact mirror.call msgId uncrossed built
  | idle => exact mirror.of_silent rfl nofun
  | read letter rest => exact mirror.read.of_silent rfl nofun
  | reply rest msgId sync =>
    rename_i state letter
    refine mirror.read.sync ?_ msgId
    have steady : Steady state rest := uncrossed letter rest rfl sync
    have kept : (hear state letter).localWant = state.localWant := by
      have bent := congrArg Prod.fst (wantsOf_hear state letter)
      rw [bend_sync sync] at bent
      exact bent
    intro other mem capId lowers
    rw [kept]
    exact steady other mem capId lowers
  | offer _ msgId => exact mirror.sync uncrossed msgId
  | withhold => exact mirror.of_silent rfl nofun

theorem Mirror.wants_eq (mirror : Mirror party peer)
    (read : party.mail = []) (peerRead : peer.mail = []) :
    party.state.peerWant = peer.state.localWant ∧ peer.state.peerWant = party.state.localWant ∧
      ∀ bit, party.state.enforced bit = peer.state.enforced bit := by
  have known := mirror.known
  have peerKnown := mirror.peerKnown
  unfold Party.outlook at known peerKnown
  rw [read, peerRead] at known peerKnown
  refine ⟨known, peerKnown, fun bit => ?_⟩
  have known : party.state.peerWant = peer.state.localWant := known
  have peerKnown : peer.state.peerWant = party.state.localWant := peerKnown
  unfold PolicyState.enforced
  rw [known, peerKnown, UInt32.and_comm party.state.localWant]

end SChatCore.Accord
