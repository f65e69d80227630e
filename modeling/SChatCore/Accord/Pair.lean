import SChatCore.Accord.Conduct
import Mathlib.Logic.Function.Basic
import Mathlib.Logic.Relation

namespace SChatCore.Accord

open Wire Store Policy Engine

/-! Two engines and the letters between them, in order and without loss. -/

structure Line where
  sys : Bool → Platform
  rel : Bool → RelId

/-- `read side` counts the other side's letters that `side` has read. -/
structure Parties where
  eng : Bool → Engine
  read : Bool → Nat

section

variable (line : Line) (parties : Parties)

def mail (side : Bool) : List Letter :=
  (posted (line.rel !side) (parties.eng !side)).drop (parties.read side)

def view (side : Bool) : Party where
  state := (columns (line.rel side) (parties.eng side)).getD PolicyState.default
  mail := mail line parties side

def Parties.set (side : Bool) (eng : Engine) : Parties :=
  { parties with eng := Function.update parties.eng side eng }

def Parties.turn (side : Bool) (eng : Engine) : Parties :=
  { parties.set side eng with
    read := Function.update parties.read side (parties.read side + 1) }

structure Sound : Prop where
  known : ∀ side, (columns (line.rel side) (parties.eng side)).isSome = true
  bounded : ∀ side, parties.read side ≤ (posted (line.rel !side) (parties.eng !side)).length

end

def timed (clock : Nat) (eng : Engine) : Engine := { eng with clock }

/-- What the application or the network makes one engine do, at any time of
its clock. Calls go through and envelopes arrive. -/
inductive Performs (line : Line) (parties : Parties) (side : Bool) :
    Act → Parties → Prop
  | call {deed : Deed} {clock : Nat} {done : Unit} {after : Engine}
      (ran : (deed.run (line.sys side) (line.rel side)).run
        (timed clock (parties.eng side)) = .ok done after) :
      Performs line parties side (.call deed ((line.sys side).randomMsgId (parties.eng side).draws))
        (parties.set side after)
  | read {letter : Letter} {rest : List Letter} {env : Envelope}
      {clock : Nat} {events : List EngineEvent} {after : Engine}
      (next : mail line parties side = letter :: rest)
      (named : env.msgId = letter.1)
      (ran : (applyChatPolicy (line.sys side) (line.rel side) env
        letter.2).run (timed clock (parties.eng side)) = .ok events after) :
      Performs line parties side .read (parties.turn side after)
  | offer {clock : Nat} {done : Unit} {after : Engine}
      (ran : (offerSync (line.sys side) (line.rel side)).run
        (timed clock (parties.eng side)) = .ok done after) :
      Performs line parties side .offer (parties.set side after)

theorem not_ne_self (side : Bool) : (!side) ≠ side := by
  cases side <;> decide

theorem state_view (sound : Sound line parties) (side : Bool) :
    columns (line.rel side) (parties.eng side) = some (view line parties side).state := by
  obtain ⟨state, found⟩ := Option.isSome_iff_exists.mp (sound.known side)
  unfold view
  rw [found]
  rfl

theorem view_peer {read : Bool → Nat} (sound : Sound line parties)
    (kept : read (!side) = parties.read (!side))
    (added : posted (line.rel side) after = posted (line.rel side) (parties.eng side) ++ letters) :
    view line { parties.set side after with read } (!side) =
      (view line parties (!side)).sent letters := by
  have bounded := sound.bounded (!side)
  rw [Bool.not_not] at bounded
  unfold view mail Parties.set Party.sent
  simp only [Bool.not_not, Function.update_self, Function.update_of_ne (not_ne_self side), kept]
  rw [added, List.drop_append_of_le_length bounded]

theorem sound_set {read : Bool → Nat} (sound : Sound line parties)
    (known : (columns (line.rel side) after).isSome = true)
    (added : posted (line.rel side) after = posted (line.rel side) (parties.eng side) ++ letters)
    (kept : read (!side) = parties.read (!side))
    (bounded : read side ≤ (posted (line.rel !side) (parties.eng !side)).length) :
    Sound line { parties.set side after with read } := by
  constructor
  · intro other
    obtain rfl | rfl := Bool.eq_or_eq_not other side
    · simpa [Parties.set] using known
    · simpa [Parties.set, not_ne_self] using sound.known (!side)
  · intro other
    obtain rfl | rfl := Bool.eq_or_eq_not other side
    · simpa [Parties.set, not_ne_self] using bounded
    · have before := sound.bounded (!side)
      rw [Bool.not_not] at before
      simp only [Bool.not_not, Parties.set, Function.update_self, kept, added, List.length_append]
      omega

/-- What an engine performs is a move of its party, and the peer has what it
sent still to read. -/
theorem moves_of_performs {after : Parties} (sound : Sound line parties)
    (performs : Performs line parties side act after) :
    Sound line after ∧ ∃ letters,
      Moves (view line parties side) act (view line after side) letters ∧
        view line after (!side) = (view line parties (!side)).sent letters := by
  have known : ∀ clock, columns (line.rel side) (timed clock (parties.eng side)) =
        some (view line parties side).state := fun _ => state_view sound side
  have bounded := sound.bounded side
  have seen : ∀ (eng : Engine) (next : PolicyState), columns (line.rel side) eng = some next →
      view line (parties.set side eng) side = ⟨next, mail line parties side⟩ := by
    intro eng next stored
    unfold view mail Parties.set
    simp [stored]
  cases performs with
  | call ran =>
    obtain ⟨next, letters, stored, added, moves⟩ :=
      moves_of_call (known _) ran (mail line parties side)
    refine ⟨sound_set sound (by rw [stored]; rfl) added rfl bounded, letters,
      ?_, view_peer sound rfl added⟩
    rw [seen _ _ stored]
    exact moves
  | offer ran =>
    obtain ⟨next, letters, stored, added, moves⟩ :=
      moves_of_offer (known _) ran (mail line parties side)
    refine ⟨sound_set sound (by rw [stored]; rfl) added rfl bounded, letters,
      ?_, view_peer sound rfl added⟩
    rw [seen _ _ stored]
    exact moves
  | read next named ran =>
    rename_i letter rest env clock events eng
    obtain ⟨state, letters, stored, added, moves⟩ := moves_of_read (known _) named ran rest
    have inside : parties.read side < (posted (line.rel !side) (parties.eng !side)).length := by
      by_contra beyond
      unfold mail at next
      rw [List.drop_of_length_le (by omega)] at next
      cases next
    have turned : (Function.update parties.read side
        (parties.read side + 1)) (!side) = parties.read (!side) :=
      Function.update_of_ne (not_ne_self side) ..
    have shifted : view line (parties.turn side eng) side = ⟨state, rest⟩ := by
      have tail : (posted (line.rel !side) (parties.eng !side)).drop
          (parties.read side + 1) = rest := by
        unfold mail at next
        rw [← List.drop_drop, next]
        rfl
      unfold view mail Parties.turn Parties.set
      simp [stored, tail]
    refine ⟨sound_set sound (by rw [stored]; rfl) added turned ?_, letters,
      ?_, view_peer sound turned added⟩
    · rw [Function.update_self]
      exact inside
    · rw [shifted]
      have start : view line parties side = ⟨(view line parties side).state, letter :: rest⟩ := by
        rw [← next]
        rfl
      rw [start]
      exact moves

def Step (line : Line) (guard : Party → Party → Act → Prop) (before after : Parties) : Prop :=
  ∃ side act, guard (view line before side) (view line before !side) act ∧
    Performs line before side act after

def Run (line : Line) (guard : Party → Party → Act → Prop) : Parties → Parties → Prop :=
  Relation.ReflTransGen (Step line guard)

theorem Run.invariant {line : Line} {guard : Party → Party → Act → Prop}
    {holds : Party → Party → Prop} (symm : ∀ party peer, holds party peer → holds peer party)
    (step : ∀ party peer act after letters, holds party peer →
      Moves party act after letters → guard party peer act → holds after (peer.sent letters))
    {start finish : Parties} (sound : Sound line start)
    (initially : holds (view line start true) (view line start false))
    (run : Run line guard start finish) :
    Sound line finish ∧ holds (view line finish true) (view line finish false) := by
  have both : ∀ {parties : Parties} (side : Bool),
      holds (view line parties side) (view line parties !side) →
      holds (view line parties true) (view line parties false) := by
    intro parties side held
    cases side with
    | true => exact held
    | false => exact symm _ _ held
  have either : ∀ {parties : Parties} (side : Bool),
      holds (view line parties true) (view line parties false) →
      holds (view line parties side) (view line parties !side) := by
    intro parties side held
    cases side with
    | true => exact held
    | false => exact symm _ _ held
  induction run with
  | refl => exact ⟨sound, initially⟩
  | tail _ last ih =>
    obtain ⟨sound, held⟩ := ih
    obtain ⟨side, act, allowed, performs⟩ := last
    obtain ⟨after, letters, moves, peer⟩ := moves_of_performs sound performs
    refine ⟨after, both side ?_⟩
    rw [peer]
    exact step _ _ _ _ _ (either side held) moves allowed

end SChatCore.Accord
