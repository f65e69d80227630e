import SChatCore.Engine.Ram

namespace SChatCore.Engine

open Data Wire Store

/-! Presence dots and typing indicators are reported by their changes only.
A client keeps, for each relationship, the last change it heard. -/

inductive Beat (α : Type)
  | note (rel : RelId) (value : α) (now : Nat)
  | sweep (now : Nat)

structure Indicators (σ α : Type) where
  new : σ
  off : α
  note : σ → RelId → α → Nat → Option α × σ
  sweep : σ → Nat → List RelId × σ

namespace Indicators

variable (indicators : Indicators σ α) (rel : RelId)

/-- One call, with what the client then shows for the relationship. -/
def hear (state : σ × α) : Beat α → σ × α
  | .note from_ value now =>
      let (change, after) := indicators.note state.1 from_ value now
      (after, if from_ = rel then change.getD state.2 else state.2)
  | .sweep now =>
      let (ended, after) := indicators.sweep state.1 now
      (after, if rel ∈ ended then indicators.off else state.2)

def hearAll (state : σ × α) (beats : List (Beat α)) : σ × α :=
  beats.foldl (indicators.hear rel) state

/-- Every call is made on a table that meets its guard. -/
def heeds (guard : σ → Beat α → Bool) (state : σ × α) : List (Beat α) → Bool
  | [] => true
  | beat :: rest => guard state.1 beat && heeds guard (indicators.hear rel state beat) rest

def start : σ × α := (indicators.new, indicators.off)

variable {indicators rel} {guard : σ → Beat α → Bool}

/-- If each call, under its guard, moves what is shown along with what the
table holds, so does a guarded run. -/
theorem shows_held (held : σ → α) (follows : ∀ table beat, guard table beat = true →
      (indicators.hear rel (table, held table) beat).2 =
        held (indicators.hear rel (table, held table) beat).1)
    (shown : state.2 = held state.1) (guarded : indicators.heeds rel guard state beats = true) :
    (indicators.hearAll rel state beats).2 = held (indicators.hearAll rel state beats).1 := by
  induction beats generalizing state with
  | nil => exact shown
  | cons beat rest ih =>
      obtain ⟨table, view⟩ := state
      obtain rfl : view = held table := shown
      rw [heeds, Bool.and_eq_true] at guarded
      exact ih (follows table beat guarded.1) guarded.2

theorem hearAll_concat (beats : List (Beat α)) (beat : Beat α) :
    indicators.hearAll rel state (beats ++ [beat]) =
      indicators.hear rel (indicators.hearAll rel state beats) beat := by
  simp [hearAll]

end Indicators

/-! Typing. The client shows an indicator for as long as the table has an
entry, expired or not: the sweep that removes the entry reports it. -/

def typingIndicators : Indicators TypingTable Bool where
  new := { inbound := .empty, lastSent := .empty }
  off := false
  note := TypingTable.note
  sweep := TypingTable.sweep

/-- A stop finds no entry that has expired. -/
def stopsLit (rel : RelId) (table : TypingTable) : Beat Bool → Bool
  | .note from_ typing now => from_ ≠ rel || typing ||
      (table.inbound.lookup rel).all fun entry => now < entry.value
  | .sweep _ => true

def lit (rel : RelId) (table : TypingTable) : Bool := (table.inbound.lookup rel).isSome

theorem lit_note (table : TypingTable) : lit rel (table.note from_ typing now).2 =
      if from_ = rel then typing else lit rel table := by
  cases typing <;> simp only [lit, TypingTable.note, if_true,
    Bool.false_eq_true, if_false, Table.lookup_upsert,
    Table.lookup_delete_key, @eq_comm _ rel] <;> split <;> rfl

theorem lookup_typingSweep (table : TypingTable) : (table.sweep now).2.inbound.lookup rel =
      (table.inbound.lookup rel).filter fun entry => now < entry.value := by
  simp only [TypingTable.sweep, Table.lookup_delete, ← Nat.not_le, decide_not]

/-- What a note does not report is already shown. -/
theorem lit_of_unreported (stops : stopsLit rel table (.note rel typing now) = true)
    (same : table.isTyping rel now = typing) : lit rel table = typing := by
  subst same
  unfold TypingTable.isTyping at stops ⊢
  unfold lit
  cases found : table.inbound.lookup rel with
  | none => rfl
  | some entry => simpa [stopsLit, found] using stops

theorem hear_typing (rel : RelId) (table : TypingTable) (beat : Beat Bool)
    (stops : stopsLit rel table beat = true) :
    (typingIndicators.hear rel (table, lit rel table) beat).2 = lit rel
        (typingIndicators.hear rel (table, lit rel table) beat).1 := by
  cases beat with
  | note from_ typing now =>
      simp only [Indicators.hear, typingIndicators, lit_note]
      split
      · rename_i own
        subst own
        simp only [TypingTable.note]
        split
        · exact lit_of_unreported stops ‹_›
        · rfl
      · rfl
  | sweep now =>
      simp only [Indicators.hear, typingIndicators, lit, lookup_typingSweep]
      simp only [TypingTable.sweep, Table.mem_keys_select, ← Nat.not_lt]
      cases table.inbound.lookup rel with
      | none => rfl
      | some entry => by_cases running : now < entry.value <;> simp [running, Nat.not_lt.mp]

theorem typing_events_track (guarded : typingIndicators.heeds rel
      (stopsLit rel) typingIndicators.start (beats ++ [.sweep now]) = true) :
    let state := typingIndicators.hearAll rel typingIndicators.start (beats ++ [.sweep now])
    state.2 = state.1.isTyping rel now := by
  dsimp only
  rw [Indicators.shows_held (lit rel) (hear_typing rel) rfl guarded, Indicators.hearAll_concat]
  -- An entry that outlives the sweep has not expired.
  simp only [Indicators.hear, lit, TypingTable.isTyping]
  simp only [typingIndicators, lookup_typingSweep, Option.isSome_filter,
    Option.any_filter, Bool.and_self]

theorem typed_then_quiet :
    let state := typingIndicators.hearAll "a" typingIndicators.start
      ([.note "a" true 0, .sweep 3, .note "a" false 4] ++ [.sweep 9])
    state.2 = state.1.isTyping "a" 9 :=
  typing_events_track (by decide)

/-- A stop that comes after the expiry and before the sweep is not reported,
and neither is the expiry. -/
theorem late_stop_unreported :
    let state := typingIndicators.hearAll "a" typingIndicators.start
      [.note "a" true 0, .note "a" false 6, .sweep 7]
    state.2 = true ∧ state.1.isTyping "a" 7 = false := by
  decide

/-! Presence. The client shows the flags of the table's entry, stale or not,
but a sweep reports only the stale entries that were in the app. -/

def presenceIndicators : Indicators PresenceTable Presence where
  new := .empty
  off := PresenceTable.offline
  note := PresenceTable.note
  sweep := PresenceTable.sweep

/-- A sweep finds no stale entry that asked not to be disturbed from outside
the app. -/
def decaysInApp (rel : RelId) (table : PresenceTable) : Beat Presence → Bool
  | .note .. => true
  | .sweep now => (table.lookup rel).all fun entry =>
      PresenceTable.fresh now entry || entry.flags.inApp || !entry.flags.doNotDisturb

def flagsShown (rel : RelId) (table : PresenceTable) : Presence :=
  ((table.lookup rel).map PresenceEntry.flags).getD PresenceTable.offline

theorem hear_presence (rel : RelId) (table : PresenceTable)
    (beat : Beat Presence) (decays : decaysInApp rel table beat = true) :
    (presenceIndicators.hear rel (table, flagsShown rel table) beat).2 =
      flagsShown rel (presenceIndicators.hear rel (table, flagsShown rel table) beat).1 := by
  cases beat with
  | note from_ flags now =>
      simp only [Indicators.hear, presenceIndicators, PresenceTable.note,
        flagsShown, Table.lookup_upsert]
      split
      · rename_i own
        subst own
        split
        · rename_i same
          rw [same]
          rfl
        · rfl
      · rfl
  | sweep now =>
      simp only [Indicators.hear, presenceIndicators, PresenceTable.sweep,
        flagsShown, Table.mem_keys_select, Table.lookup_delete]
      rw [decaysInApp] at decays
      cases found : table.lookup rel with
      | none => rfl
      | some entry =>
        cases fresh : PresenceTable.fresh now entry with
        | true => simp [Option.filter, fresh]
        | false =>
          -- Unreported, the entry was outside the app and not quiet.
          obtain ⟨_, ⟨inApp, quiet⟩, _⟩ := entry
          cases inApp <;> cases quiet <;>
            simp_all [Option.filter, PresenceTable.offline]

theorem presence_events_track (guarded : presenceIndicators.heeds rel
      (decaysInApp rel) presenceIndicators.start (beats ++ [.sweep now]) = true) :
    let state := presenceIndicators.hearAll rel presenceIndicators.start (beats ++ [.sweep now])
    state.2 = state.1.state rel now := by
  dsimp only
  rw [Indicators.shows_held (flagsShown rel) (hear_presence rel) rfl
    guarded, Indicators.hearAll_concat]
  simp only [Indicators.hear, flagsShown, PresenceTable.state]
  generalize presenceIndicators.hearAll rel _ beats = state
  simp only [presenceIndicators, PresenceTable.sweep, Table.lookup_delete]
  cases state.1.lookup rel with
  | none => rfl
  | some entry =>
    cases fresh : PresenceTable.fresh now entry <;> simp [Option.filter, fresh]

theorem seen_then_stale :
    let state := presenceIndicators.hearAll "a" presenceIndicators.start
      ([.note "a" ⟨true, true⟩ 0, .sweep 30] ++ [.sweep 46])
    state.2 = state.1.state "a" 46 :=
  presence_events_track (by decide)

theorem stale_quiet_unreported :
    let state := presenceIndicators.hearAll "a" presenceIndicators.start
      [.note "a" ⟨false, true⟩ 0, .sweep 46]
    state.2 = ⟨false, true⟩ ∧ state.1.state "a" 46 = ⟨false, false⟩ := by
  decide

end SChatCore.Engine
