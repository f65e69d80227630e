import SChatCore.Accord.Pair
import SChatCore.Accord.Rules
import SChatCore.Pair.System

namespace SChatCore.Accord

open Data Data.Action Wire Store Policy Engine

/-! Whether two engines that have heard each other out agree. -/

/-- Ids are drawn once, and no acceptance comes too late. -/
def Orderly (party peer : Party) (act : Act) : Prop := FreshId party peer act ∧ Timely party act

/-- Along runs in which every acceptance finds the proposal it answers still
open, the rules are equal whenever everything sent has been read. -/
theorem rules_agree_at_rest (line : Line) (start finish : Parties) (sound : Sound line start)
    (equal : rulesOf (view line start true).state = rulesOf (view line start false).state)
    (idle : ∀ side, (view line start side).mail = [] ∧ (view line start side).state.pending = none)
    (run : Run line Orderly start finish) (read : ∀ side, (view line finish side).mail = []) :
    rulesOf (view line finish true).state = rulesOf (view line finish false).state := by
  have faithful : ∀ side other, Faithful (view line start side) (view line start other) := by
    intro side other
    refine .of_closed fun own open_ => ?_
    rw [(idle side).2] at open_
    cases open_
  have initially : Concord (view line start true) (view line start false) := by
    refine ⟨faithful _ _, faithful _ _, .inl ?_⟩
    unfold Party.due
    rw [(idle true).1, (idle false).1]
    exact equal
  obtain ⟨-, concord⟩ := Run.invariant (fun _ _ => Concord.symm)
    (fun _ _ _ _ _ concord moves orderly =>
      concord.step moves orderly.1 orderly.2) sound initially run
  exact concord.rules_eq (read true) (read false)

def friend (rel : RelId) : Engine :=
  { Engine.new (paired { newRelationship rel .inviter .active "" [] false 0 with
        peerCaps := Caps.capPolicy }) 0 with draws := 1 }

def wire : Line where
  sys side := bif side then .loopback else Pair.faraway
  rel side := bif side then "bob" else "alice"

def friends : Parties where
  eng side := friend (wire.rel side)
  read _ := 0

theorem sound_friends : Sound wire friends := by
  constructor
  · decide +kernel
  · decide +kernel

def does (side : Bool) (deed : Deed) (parties : Parties) : Parties :=
  parties.set side (final ((deed.run (wire.sys side) (wire.rel side)).run (parties.eng side)))

def arrival (side : Bool) (parties : Parties) : Letter :=
  (mail wire parties side).headD (noProposeId, syncOf .default)

def handle (side : Bool) (parties : Parties) : Action (List EngineEvent) :=
  applyChatPolicy (wire.sys side) (wire.rel side) ⟨(arrival side parties).1, 0, 0, none,
      .chatPolicy (arrival side parties).2⟩ (arrival side parties).2

def reads (side : Bool) (parties : Parties) : Parties :=
  parties.turn side (final ((handle side parties).run (parties.eng side)))

section

variable {guard : Party → Party → Act → Prop}

theorem step_does (side : Bool) (deed : Deed)
    (went : failure ((deed.run (wire.sys side) (wire.rel side)).run (parties.eng side)) = none)
    (allowed : guard (view wire parties side) (view wire parties !side)
      (.call deed ((wire.sys side).randomMsgId (parties.eng side).draws))) :
    Step wire guard parties (does side deed parties) := by
  obtain ⟨done, ran⟩ := eq_ok_of_failure went
  exact ⟨side, _, allowed, @Performs.call _ _ _ _ (parties.eng side).clock
    _ _ ran⟩

theorem step_reads (side : Bool) (waiting : (mail wire parties side).isEmpty = false)
    (went : failure ((handle side parties).run (parties.eng side)) = none)
    (allowed : guard (view wire parties side) (view wire parties !side) .read) :
    Step wire guard parties (reads side parties) := by
  obtain ⟨events, ran⟩ := eq_ok_of_failure went
  refine ⟨side, .read, allowed, ?_⟩
  cases arrived : mail wire parties side with
  | nil =>
    rw [arrived] at waiting
    cases waiting
  | cons letter rest =>
    have first : arrival side parties = letter := by
      unfold arrival
      rw [arrived]
      rfl
    unfold reads
    unfold handle at ran ⊢
    rw [first] at ran ⊢
    exact @Performs.read _ _ _ letter rest _ (parties.eng side).clock _ _ arrived rfl ran

end

theorem freshId_of_idle (quiet : party.state.pending = none ∧ party.mail.isEmpty = true)
    (peerQuiet : peer.state.pending = none ∧ peer.mail.isEmpty = true) :
    FreshId party peer act := by
  have unused : ∀ {party : Party} {id : MsgId}, party.state.pending = none ∧
      party.mail.isEmpty = true → ¬ Uses party id := by
    rintro party id ⟨closed, empty⟩ (⟨own, open_, -⟩ | ⟨letter, mem, -⟩)
    · rw [closed] at open_
      cases open_
    · rw [List.isEmpty_iff.mp empty] at mem
      cases mem
  unfold FreshId
  split
  · exact ⟨unused quiet, unused peerQuiet⟩
  · trivial

theorem timely_of_head (ready : party.mail.head?.all fun letter =>
      letter.2.op ≠ ChatPolicy.opRuleAccept || party.state.pending.any fun own =>
          !own.inbound && own.proposeId = letter.2.proposeId) :
    Timely party .read := by
  intro letter rest next accept
  rw [next] at ready
  simp only [List.head?_cons, Option.all_some, accept, ne_eq, not_true,
    decide_false, Bool.false_or] at ready
  cases open_ : party.state.pending with
  | none =>
    rw [open_] at ready
    cases ready
  | some own =>
    rw [open_] at ready
    simp only [Option.any_some, Bool.and_eq_true, Bool.not_eq_true', decide_eq_true_eq] at ready
    exact ⟨own, open_, ready⟩

def proposal : Parties := does true (.propose 3600 true true) friends

def offered : Parties := reads false proposal

def accepted : Parties := reads true (does false .accept offered)

def withdrawn : Parties := reads true (does false .accept (does true .decline offered))

theorem run_offered {guard : Party → Party → Act → Prop}
    (weaker : ∀ party peer act, Orderly party peer act →
      guard party peer act) : Run wire guard friends offered := by
  refine .tail (.single (step_does true _ (by decide +kernel)
    (weaker _ _ _ ⟨?_, trivial⟩))) (step_reads false (by decide +kernel)
      (by decide +kernel) (weaker _ _ _ ⟨trivial, ?_⟩))
  · exact freshId_of_idle (by decide +kernel) (by decide +kernel)
  · exact timely_of_head (by decide +kernel)

theorem accepted_at_rest : rulesOf (view wire accepted true).state = (3600, true, true) ∧
      rulesOf (view wire accepted true).state = rulesOf (view wire accepted false).state := by
  have run : Run wire Orderly friends accepted := by
    refine .tail (.tail (run_offered fun _ _ _ => id)
      (step_does false .accept (by decide +kernel) ⟨trivial, trivial⟩))
      (step_reads true (by decide +kernel) (by decide +kernel) ⟨trivial, ?_⟩)
    exact timely_of_head (by decide +kernel)
  exact ⟨by decide +kernel, rules_agree_at_rest wire friends accepted
    sound_friends (by decide +kernel) (by decide +kernel) run
    (by decide +kernel)⟩

/-- Ids are drawn once, nothing is pending and everything is read, but one
side has the new rules and the other the old. -/
theorem withdrawn_disagrees : Run wire FreshId friends withdrawn ∧
      (∀ side, (view wire withdrawn side).mail = [] ∧
        (view wire withdrawn side).state.pending = none) ∧
      rulesOf (view wire withdrawn true).state = (86400, true, true) ∧
      rulesOf (view wire withdrawn false).state = (3600, true, true) := by
  refine ⟨?_, by decide +kernel, by decide +kernel, by decide +kernel⟩
  refine .tail (.tail (.tail (run_offered fun _ _ _ orderly => orderly.1)
    (step_does true .decline (by decide +kernel) trivial))
    (step_does false .accept (by decide +kernel) trivial))
    (step_reads true (by decide +kernel) (by decide +kernel) trivial)

def Smooth (party _peer : Party) (act : Act) : Prop := Uncrossed party act

/-- Along runs in which nothing that is said about a capability crosses its
opposite, each side knows the other's wants whenever everything sent has been
read. -/
theorem wants_agree_at_rest (line : Line) (start finish : Parties) (sound : Sound line start)
    (all : ∀ side, (view line start side).state.localWant = wantAll ∧
      (view line start side).state.peerWant = wantAll)
    (idle : ∀ side, (view line start side).mail = []) (run : Run line Smooth start finish)
    (read : ∀ side, (view line finish side).mail = []) :
    (∀ side, (view line finish side).state.peerWant = (view line finish !side).state.localWant) ∧
      ∀ bit, (view line finish true).state.enforced bit =
        (view line finish false).state.enforced bit := by
  have outlook : ∀ side, (view line start side).outlook = (wantAll, wantAll) := by
    intro side
    unfold Party.outlook wantsOf
    rw [idle side, (all side).1, (all side).2]
    rfl
  have initially : Mirror (view line start true) (view line start false) := by
    refine ⟨?_, ?_, ?_, ?_⟩
    · rw [outlook, outlook]
    · rw [outlook, outlook]
    · rw [(all true).1]
      rfl
    · rw [(all false).1]
      rfl
  obtain ⟨-, mirror⟩ := Run.invariant (fun _ _ => Mirror.symm)
    (fun _ _ _ _ _ mirror moves smooth => mirror.step moves smooth) sound
    initially run
  obtain ⟨known, peerKnown, enforced⟩ := mirror.wants_eq (read true) (read false)
  refine ⟨fun side => ?_, enforced⟩
  cases side with
  | true => exact known
  | false => exact peerKnown

def typingOff : Deed := .setCapability ChatPolicy.capIdTyping false

def typingOn : Deed := .setCapability ChatPolicy.capIdTyping true

theorem uncrossed_of_empty (empty : party.mail = []) :
    Uncrossed party (.call (.setCapability capId on) proposeId) := by
  cases on with
  | true | false =>
    intro letter mem
    rw [empty] at mem
    cases mem

theorem uncrossed_of_head (other : party.mail.head?.all fun letter =>
      letter.2.op ≠ ChatPolicy.opSync) : Uncrossed party .read := by
  intro letter rest next sync
  rw [next] at other
  simp [sync] at other

def resumed : Parties :=
  reads false (does true typingOn (reads false (does true typingOff friends)))

theorem resumed_at_rest : (∀ side, (view wire resumed side).state.peerWant =
        (view wire resumed !side).state.localWant) ∧
      ∀ bit, (view wire resumed true).state.enforced bit =
        (view wire resumed false).state.enforced bit := by
  have run : Run wire Smooth friends resumed := by
    refine .tail (.tail (.tail (.single
      (step_does true _ (by decide +kernel) (uncrossed_of_empty ?_)))
      (step_reads false (by decide +kernel) (by decide +kernel) (uncrossed_of_head ?_)))
      (step_does true _ (by decide +kernel) (uncrossed_of_empty ?_)))
      (step_reads false (by decide +kernel) (by decide +kernel) (uncrossed_of_head ?_))
    all_goals decide +kernel
  exact wants_agree_at_rest wire friends resumed sound_friends
    (by decide +kernel) (by decide +kernel) run (by decide +kernel)

/-- Only one side wants typing, and it gives up as the other comes round. -/
def halfway : Parties :=
  reads false (does true typingOn (reads true (does false typingOff friends)))

def crossed : Parties :=
  reads false (reads true (does false typingOn (does true typingOff halfway)))

def reconsidered : Parties := reads false (does true typingOn crossed)

/-- Everything is read, and typing is on for one side only. -/
theorem crossed_disagrees : Run wire (fun _ _ _ => True) friends reconsidered ∧
      (∀ side, (view wire reconsidered side).mail = []) ∧
      (view wire reconsidered true).state.enforced ChatPolicy.flagWantTyping = true ∧
      (view wire reconsidered false).state.enforced ChatPolicy.flagWantTyping = false := by
  refine ⟨?_, by decide +kernel, by decide +kernel, by decide +kernel⟩
  have off : Run wire (fun _ _ _ => True) friends halfway :=
    .tail (.tail (.tail (.single (step_does false _ (by decide +kernel) trivial))
      (step_reads true (by decide +kernel) (by decide +kernel) trivial))
      (step_does true _ (by decide +kernel) trivial))
      (step_reads false (by decide +kernel) (by decide +kernel) trivial)
  have crossing : Run wire (fun _ _ _ => True) friends crossed :=
    .tail (.tail (.tail (.tail off (step_does true _ (by decide +kernel) trivial))
      (step_does false _ (by decide +kernel) trivial))
      (step_reads true (by decide +kernel) (by decide +kernel) trivial))
      (step_reads false (by decide +kernel) (by decide +kernel) trivial)
  exact .tail (.tail crossing (step_does true _ (by decide +kernel) trivial))
    (step_reads false (by decide +kernel) (by decide +kernel) trivial)

end SChatCore.Accord
