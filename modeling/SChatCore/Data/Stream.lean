import Mathlib.Data.List.Basic

namespace SChatCore.Data.Stream

/-! Reading from what is left of a stream. -/

abbrev Reader (σ ε α : Type) := StateT (List σ) (Except ε) α

variable {σ ε α β : Type}

theorem run_bind (reader : Reader σ ε α) (next : α → Reader σ ε β) (stream : List σ) :
    (reader >>= next).run stream = match reader.run stream with
      | .error failure => .error failure
      | .ok (value, rest) => (next value).run rest := by
  show (reader >>= next) stream = _
  simp only [bind, StateT.bind, StateT.run, Except.bind]
  cases reader stream with
  | error failure => rfl
  | ok outcome => rfl

theorem run_bind_ok_iff {reader : Reader σ ε α} : (reader >>= next).run stream = .ok (value, rest) ↔
      ∃ first middle, reader.run stream = .ok (first, middle) ∧
        (next first).run middle = .ok (value, rest) := by
  rw [run_bind]
  cases reader.run stream with
  | error failure => simp
  | ok outcome =>
    obtain ⟨first, middle⟩ := outcome
    constructor
    · exact fun ran => ⟨first, middle, rfl, ran⟩
    · rintro ⟨_, _, same, ran⟩
      cases same
      exact ran

theorem run_pure_ok_iff : (pure value : Reader σ ε α).run stream = .ok (other, rest) ↔
      other = value ∧ rest = stream := by
  show Except.ok (value, stream) = .ok (other, rest) ↔ _
  simp only [Except.ok.injEq, Prod.mk.injEq]
  exact and_congr eq_comm eq_comm

def takeExact (failure : ε) (count : Nat) : Reader σ ε (List σ) := fun stream =>
  if stream.length < count then .error failure
  else .ok (stream.take count, stream.drop count)

theorem takeExact_ok_iff {failure : ε} : (takeExact failure count).run stream = .ok (front, rest) ↔
      front.length = count ∧ stream = front ++ rest := by
  show (if stream.length < count then _ else _) = _ ↔ _
  constructor
  · intro ran
    split at ran
    · cases ran
    · cases ran
      refine ⟨?_, (List.take_append_drop count stream).symm⟩
      rw [List.length_take]
      omega
  · rintro ⟨rfl, rfl⟩
    rw [if_neg (by simp), List.take_left, List.drop_left]

theorem run_bind_of_error {reader : Reader σ ε α} (failed : reader.run stream = .error problem) :
    (reader >>= next).run stream = .error problem := by
  rw [run_bind, failed]

/-- The reader takes `front` for `value`, and nothing less will do. -/
structure Needs (reader : Reader σ ε α) (front : List σ) (value : α) :
    Prop where
  enough (more : List σ) : reader.run (front ++ more) = .ok (value, more)
  short (size : Nat) : size < front.length →
    ∃ failure, reader.run (front.take size) = .error failure

theorem Needs.pure (value : α) : Needs (Pure.pure value : Reader σ ε α) [] value :=
  ⟨fun _ => rfl, fun _ inside => absurd inside (Nat.not_lt_zero _)⟩

theorem Needs.takeExact {failure : ε} (length : front.length = count) :
    Needs (Stream.takeExact failure count) front front where
  enough _ := takeExact_ok_iff.mpr ⟨length, rfl⟩
  short size inside := by
    refine ⟨failure, if_pos ?_⟩
    rw [List.length_take]
    omega

theorem Needs.bind {next : α → Reader σ ε β} (first : Needs reader front value)
    (others : Needs (next value) back result) :
    Needs (reader >>= next) (front ++ back) result where
  enough more := by
    rw [List.append_assoc]
    exact run_bind_ok_iff.mpr ⟨value, _, first.enough _, others.enough more⟩
  short size inside := by
    rw [List.take_append]
    rcases Nat.lt_or_ge size front.length with early | late
    · obtain ⟨failure, failed⟩ := first.short size early
      rw [Nat.sub_eq_zero_of_le (Nat.le_of_lt early), List.take_zero, List.append_nil]
      exact ⟨failure, run_bind_of_error failed⟩
    · rw [List.length_append] at inside
      obtain ⟨failure, failed⟩ := others.short (size - front.length) (by omega)
      rw [List.take_of_length_le late]
      refine ⟨failure, ?_⟩
      have step : reader (front ++ back.take (size - front.length)) =
          .ok (value, back.take (size - front.length)) := first.enough _
      show (reader >>= next) _ = _
      simp only [Bind.bind, StateT.bind, step, Except.bind]
      exact failed

def calls (reader : Reader σ ε α) : Nat → Reader σ ε (List α)
  | 0 => pure []
  | count + 1 => do
    let first ← reader
    let others ← calls reader count
    return first :: others

theorem run_calls_cons (first : reader.run stream = .ok (value, middle))
    (others : (calls reader count).run middle = .ok (values, rest)) :
    (calls reader (count + 1)).run stream = .ok (value :: values, rest) :=
  run_bind_ok_iff.mpr ⟨value, middle, first, run_bind_ok_iff.mpr ⟨values, rest, others, rfl⟩⟩

theorem run_calls_concat (others : (calls reader count).run stream = .ok (values, middle))
    (last : reader.run middle = .ok (value, rest)) :
    (calls reader (count + 1)).run stream = .ok (values ++ [value], rest) := by
  induction count generalizing stream values with
  | zero =>
    cases others
    exact run_calls_cons last rfl
  | succ count ih =>
    obtain ⟨first, after, ran, others⟩ := run_bind_ok_iff.mp others
    obtain ⟨tail, ended, ran', finish⟩ := run_bind_ok_iff.mp others
    obtain ⟨rfl, rfl⟩ := run_pure_ok_iff.mp finish
    exact run_calls_cons ran (ih ran')

end SChatCore.Data.Stream
