import Mathlib.Order.Defs.Unbundled

namespace SChatCore.Data.Action

/-! Programs over a state that an error does not roll back, with the rules
their proofs use. -/

variable {ε σ α β : Type}

/-- Where a run ends, whether or not it fails. -/
def final : EStateM.Result ε σ α → σ
  | .ok _ state => state
  | .error _ state => state

@[simp] theorem final_ok (value : α) (state : σ) :
    final (.ok value state : EStateM.Result ε σ α) = state := rfl

@[simp] theorem final_error (error : ε) (state : σ) :
    final (.error error state : EStateM.Result ε σ α) = state := rfl

def failure : EStateM.Result ε σ α → Option ε
  | .ok _ _ => none
  | .error error _ => some error

theorem eq_error_of_failure {result : EStateM.Result ε σ α} {error : ε}
    (failed : failure result = some error) :
    result = .error error (final result) := by
  cases result with
  | ok value state => cases failed
  | error other state =>
    cases failed
    rfl

theorem eq_ok_of_failure {result : EStateM.Result ε σ α} (went : failure result = none) :
    ∃ value, result = .ok value (final result) := by
  cases result with
  | ok value state => exact ⟨value, rfl⟩
  | error error state => cases went

theorem run_bind_ok {action : EStateM ε σ α} (ran : action.run state = .ok value middle) :
    (action >>= next).run state = (next value).run middle := by
  rw [EStateM.run_bind, ran]

theorem run_bind_error {action : EStateM ε σ α} (ran : action.run state = .error error middle) :
    (action >>= next).run state = .error error middle := by
  rw [EStateM.run_bind, ran]

theorem final_bind {action : EStateM ε σ α} {next : α → EStateM ε σ β} {state : σ} {ends : σ → Prop}
    (failed : ∀ error middle, action.run state = .error error middle → ends middle)
    (done : ∀ value middle, action.run state = .ok value middle →
      ends (final ((next value).run middle))) :
    ends (final ((action >>= next).run state)) := by
  rw [EStateM.run_bind]
  cases ran : action.run state with
  | ok value middle => exact done value middle ran
  | error error middle => exact failed error middle ran

theorem final_returns {action : EStateM ε σ α} {value : α → β} {state : σ} :
    final ((action >>= fun result => pure (value result)).run state) =
      final (action.run state) := by
  rw [EStateM.run_bind]
  cases action.run state <;> rfl

def attempt (action : EStateM ε σ α) : EStateM ε σ (Except ε α) :=
  fun state => match action.run state with
    | .ok value next => .ok (.ok value) next
    | .error error next => .ok (.error error) next

theorem run_attempt (action : EStateM ε σ α) (state : σ) :
    (attempt action).run state = match action.run state with
      | .ok value next => .ok (.ok value) next
      | .error error next => .ok (.error error) next :=
  rfl

def ofExcept (wrap : δ → ε) : Except δ α → EStateM ε σ α
  | .ok value => pure value
  | .error error => throw (wrap error)

@[simp] theorem run_ofExcept_ok (wrap : δ → ε) (value : α) (state : σ) :
    (ofExcept wrap (.ok value) : EStateM ε σ α).run state = .ok value state :=
  rfl

theorem run_ofExcept_eq_ok
    (ran : (ofExcept wrap result : EStateM ε σ α).run state = .ok value next) :
    result = .ok value ∧ next = state := by
  cases result with
  | error error => cases ran
  | ok value =>
    cases ran
    exact ⟨rfl, rfl⟩

/-- Every run ends in a state related to the one it started from, whether or
not it fails. -/
def Keeps (related : σ → σ → Prop) (action : EStateM ε σ α) : Prop :=
  ∀ state, related state (final (action.run state))

section

variable {related : σ → σ → Prop}

theorem Keeps.mono (keeps : Keeps related action)
    (weaken : ∀ before after, related before after → weaker before after) :
    Keeps weaker action :=
  fun state => weaken _ _ (keeps state)

theorem keeps_modify (step : ∀ state, related state (change state)) :
    Keeps related (modify change : EStateM ε σ PUnit) :=
  step

theorem keeps_modifyGet (step : ∀ state, related state (change state).2) :
    Keeps related (modifyGet change : EStateM ε σ α) :=
  step

theorem keeps_map (read : α → β) (keeps : Keeps related action) :
    Keeps related (read <$> action) := by
  intro state
  have ends := keeps state
  show related state (final (EStateM.map read action state))
  unfold EStateM.map
  unfold EStateM.run at ends
  cases ran : action state with
  | ok value next =>
    rw [ran] at ends
    exact ends
  | error error next =>
    rw [ran] at ends
    exact ends

theorem keeps_attempt (keeps : Keeps related action) : Keeps related (attempt action) := by
  intro state
  have ends := keeps state
  rw [run_attempt]
  cases ran : action.run state with
  | ok value next =>
    rw [ran] at ends
    exact ends
  | error error next =>
    rw [ran] at ends
    exact ends

variable [IsPreorder σ related]

theorem keeps_pure (value : α) : Keeps related (pure value : EStateM ε σ α) :=
  fun state => refl_of related state

theorem keeps_throw (error : ε) : Keeps related (throw error : EStateM ε σ α) :=
  fun state => refl_of related state

theorem keeps_map_get (read : σ → α) : Keeps related (read <$> get : EStateM ε σ α) :=
  fun state => refl_of related state

theorem keeps_ofExcept (wrap : δ → ε) (result : Except δ α) :
    Keeps related (ofExcept wrap result : EStateM ε σ α) := by
  cases result with
  | ok value => exact keeps_pure value
  | error error => exact keeps_throw (wrap error)

theorem tail_bind {action : EStateM ε σ α} (rest : ∀ value, Keeps related (next value)) :
    related (final (action.run state)) (final ((action >>= next).run state)) := by
  rw [EStateM.run_bind]
  cases action.run state with
  | ok value middle => exact rest value middle
  | error error middle => exact refl_of related middle

theorem related_bind {action : EStateM ε σ α} (first : related start (final (action.run state)))
    (rest : ∀ value, Keeps related (next value)) :
    related start (final ((action >>= next).run state)) :=
  trans_of related first (tail_bind rest)

theorem keeps_bind (first : Keeps related action) (rest : ∀ value, Keeps related (next value)) :
    Keeps related (action >>= next) :=
  fun state => related_bind (first state) rest

theorem keeps_returns {value : α → β} (first : Keeps related action) :
    Keeps related (action >>= fun result => pure (value result)) :=
  keeps_bind first fun _ => keeps_pure _

theorem keeps_forM {list : List α} (each : ∀ element ∈ list, Keeps related (body element)) :
    Keeps related (list.forM body) := by
  induction list with
  | nil => exact keeps_pure PUnit.unit
  | cons element rest ih =>
    exact keeps_bind (each element List.mem_cons_self) fun _ =>
      ih fun other mem => each other (List.mem_cons_of_mem _ mem)

end

def Settles (related : σ → σ → Prop) (action : EStateM ε σ α) : Prop :=
  ∀ state value next, action.run state = .ok value next → related state next

theorem run_bind_eq_ok {action : EStateM ε σ α}
    (ran : (action >>= next).run state = .ok result last) :
    ∃ value middle, action.run state = .ok value middle ∧
      (next value).run middle = .ok result last := by
  rw [EStateM.run_bind] at ran
  cases step : action.run state with
  | ok value middle =>
    rw [step] at ran
    exact ⟨value, middle, rfl, ran⟩
  | error error middle =>
    rw [step] at ran
    cases ran

theorem Keeps.settles (keeps : Keeps related action) :
    Settles related action := by
  intro state value next ran
  have ends := keeps state
  rw [ran] at ends
  exact ends

theorem settles_bind [IsTrans σ related] {action : EStateM ε σ α} (first : Settles related action)
    (rest : ∀ value, Settles related (next value)) :
    Settles related (action >>= next) := by
  intro state result last ran
  obtain ⟨value, middle, step, ran⟩ := run_bind_eq_ok ran
  exact trans_of related (first state value middle step) (rest value middle result last ran)

def Raises (kind : ε → Prop) (action : EStateM ε σ α) : Prop :=
  ∀ state error next, action.run state = .error error next → kind error

theorem raises_of_ok {action : EStateM ε σ α} {value : σ → α} {next : σ → σ}
    (ran : ∀ state, action.run state = .ok (value state) (next state)) :
    Raises kind action := by
  intro state error last failed
  cases (ran state).symm.trans failed

theorem raises_pure (value : α) : Raises kind (pure value : EStateM ε σ α) :=
  raises_of_ok fun _ => rfl

theorem raises_throw (holds : kind error) : Raises kind (throw error : EStateM ε σ α) := by
  intro state other next ran
  cases ran
  exact holds

theorem raises_ofExcept {wrap : δ → ε} (holds : ∀ error, kind (wrap error)) (result : Except δ α) :
    Raises kind (ofExcept wrap result : EStateM ε σ α) := by
  cases result with
  | ok value => exact raises_pure value
  | error error => exact raises_throw (holds error)

theorem raises_bind (first : Raises kind action) (rest : ∀ value, Raises kind (next value)) :
    Raises kind (action >>= next) := by
  intro state error last ran
  rw [EStateM.run_bind] at ran
  cases step : action.run state with
  | ok value middle =>
    rw [step] at ran
    exact rest value middle error last ran
  | error error' middle =>
    rw [step] at ran
    cases ran
    exact first state _ _ step

end SChatCore.Data.Action
