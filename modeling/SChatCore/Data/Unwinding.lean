import Mathlib.Logic.Basic

namespace SChatCore.Data

/-! Two runs of one machine, the second without some of the inputs of the
first: what both put out is the same if every input keeps them related. -/

variable {σ α β : Type} (step : σ → α → σ) (output : σ → α → List β)
  (own : α → Bool)

def outputs : σ → List α → List β
  | _, [] => []
  | state, input :: rest => output state input ++ outputs (step state input) rest

/-- The second run stays where it is unless the input is its own. -/
def stepOwn (state : σ) (input : α) : σ := if own input then step state input else state

/-- Every input meets the condition, in the states both runs are in. -/
def Guarded (guard : σ → σ → α → Prop) : σ → σ → List α → Prop
  | _, _, [] => True
  | full, purged, input :: rest => guard full purged input ∧
      Guarded guard (step full input) (stepOwn step own purged input) rest

instance decidableGuarded (guard : σ → σ → α → Prop)
    [∀ full purged input, Decidable (guard full purged input)] :
    ∀ full purged inputs, Decidable (Guarded step own guard full purged inputs)
  | _, _, [] => isTrue trivial
  | full, purged, input :: rest =>
    have := decidableGuarded guard (step full input) (stepOwn step own purged input) rest
    inferInstanceAs (Decidable (_ ∧ _))

variable {step output own} {guard : σ → σ → α → Prop} {related : σ → σ → Prop}

theorem outputs_filter (keeps : ∀ full purged input, related full purged → guard full purged input →
        related (step full input) (stepOwn step own purged input))
    (agrees : ∀ full purged input, related full purged → guard full purged input →
        output full input = if own input then output purged input else [])
    {full purged : σ} (start : related full purged) {inputs : List α}
    (guarded : Guarded step own guard full purged inputs) :
    outputs step output full inputs = outputs step output purged (inputs.filter own) := by
  induction inputs generalizing full purged with
  | nil => rfl
  | cons input rest ih =>
    obtain ⟨meets, later⟩ := guarded
    have tail := ih (keeps _ _ _ start meets) later
    have head := agrees _ _ _ start meets
    unfold stepOwn at tail
    rw [outputs, head, tail]
    cases mine : own input with
    | true => rw [List.filter_cons_of_pos mine, outputs, if_pos rfl, if_pos rfl]
    | false =>
      rw [List.filter_cons_of_neg (by rw [mine]; exact Bool.false_ne_true),
        if_neg Bool.false_ne_true, if_neg Bool.false_ne_true, List.nil_append]

end SChatCore.Data
