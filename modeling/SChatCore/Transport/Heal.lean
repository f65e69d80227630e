import Mathlib.Data.List.Induction

namespace SChatCore.Transport

/-! Bounded restarts of the daemon. A granted restart counts for ten minutes,
and a call that finds three of them is refused. -/

def maxRestarts : Nat := 3

def restartWindowMs : Nat := 10 * 60000

structure RestartBudget where
  restarts : List Nat
  deriving DecidableEq

namespace RestartBudget

def new : RestartBudget := ⟨[]⟩

def recordRestart (budget : RestartBudget) (now : Nat) : Bool × RestartBudget :=
  let restarts := budget.restarts.dropWhile fun time =>
    now - time > restartWindowMs
  if restarts.length ≥ maxRestarts then (false, ⟨restarts⟩)
  else (true, ⟨restarts ++ [now]⟩)

/-- The budget after calls at these times, and the times granted. -/
def record (calls : List Nat) : RestartBudget × List Nat :=
  calls.foldl (fun (budget, granted) now =>
    let (grant, next) := budget.recordRestart now
    (next, if grant then granted ++ [now] else granted)) (new, [])

def recent (now : Nat) (granted : List Nat) : List Nat :=
  granted.filter fun time => now - time ≤ restartWindowMs

def within (start : Nat) (granted : List Nat) : List Nat :=
  granted.filter fun time => start ≤ time ∧ time ≤ start + restartWindowMs

/-- On an ordered queue the loop takes out everything that has expired. -/
theorem dropWhile_eq_recent {times : List Nat} (ordered : times.Pairwise (· ≤ ·)) :
    (times.dropWhile fun time => now - time > restartWindowMs) =
      recent now times := by
  unfold recent
  induction times with
  | nil => rfl
  | cons first rest ih =>
    obtain ⟨least, ordered⟩ := List.pairwise_cons.mp ordered
    by_cases expired : now - first > restartWindowMs
    · rw [List.dropWhile_cons_of_pos (by simpa using expired), List.filter_cons_of_neg (by
          simpa using Nat.lt_sub_iff_add_lt.mp expired), ih ordered]
    · rw [List.dropWhile_cons_of_neg (by simpa using expired), List.filter_eq_self.mpr]
      intro time mem
      have later : first ≤ time := by
        rcases List.mem_cons.mp mem with rfl | mem
        · exact Nat.le_refl _
        · exact least time mem
      exact decide_eq_true (by omega)

theorem recent_recent (later : last ≤ now) :
    recent now (recent last granted) = recent now granted := by
  unfold recent
  rw [List.filter_filter]
  refine List.filter_congr fun time _ => ?_
  rw [Bool.and_eq_left_iff_imp, decide_eq_true_eq, decide_eq_true_eq]
  omega

theorem within_grant (few : (recent now granted).length < maxRestarts)
    (bounded : (within start granted).length ≤ maxRestarts) :
    (within start (granted ++ [now])).length ≤ maxRestarts := by
  unfold within at bounded ⊢
  rw [List.filter_append, List.length_append]
  by_cases inside : start ≤ now ∧ now ≤ start + restartWindowMs
  · -- what shares an interval with the new grant still counts at its time
    have counted : (within start granted).length ≤ (recent now granted).length := by
      unfold within recent
      rw [← List.countP_eq_length_filter, ← List.countP_eq_length_filter]
      refine List.countP_mono_left fun time _ shares => ?_
      rw [decide_eq_true_eq] at shares ⊢
      omega
    rw [List.filter_cons_of_pos (by simpa using inside)]
    exact Nat.succ_le_of_lt (Nat.lt_of_le_of_lt counted few)
  · rw [List.filter_cons_of_neg (by simpa using inside)]
    exact bounded

/-- The queue holds every grant that can still count. -/
structure Tracks (calls : List Nat) (budget : RestartBudget)
    (granted : List Nat) : Prop where
  asked : granted.Sublist calls
  queued : budget.restarts.Sublist granted
  counted : ∀ now, (∀ time ∈ calls, time ≤ now) → recent now budget.restarts = recent now granted
  bounded : ∀ start, (within start granted).length ≤ maxRestarts

theorem Tracks.recordRestart (tracks : Tracks calls budget granted)
    (ordered : calls.Pairwise (· ≤ ·)) (past : ∀ time ∈ calls, time ≤ now) :
    budget.recordRestart now = if (recent now granted).length ≥ maxRestarts then
        (false, ⟨recent now granted⟩)
      else (true, ⟨recent now granted ++ [now]⟩) := by
  unfold RestartBudget.recordRestart
  rw [dropWhile_eq_recent (ordered.sublist (tracks.queued.trans tracks.asked)),
    tracks.counted now past]

theorem tracks_record {calls : List Nat} (ordered : calls.Pairwise (· ≤ ·)) :
    Tracks calls (record calls).1 (record calls).2 := by
  induction calls using List.reverseRecOn with
  | nil => exact ⟨.slnil, .slnil, fun _ _ => rfl, fun _ => Nat.zero_le _⟩
  | append_singleton calls now ih =>
    obtain ⟨ordered, -, past⟩ := List.pairwise_append.mp ordered
    have tracks := ih ordered
    have counted : ∀ later, (∀ time ∈ calls ++ [now], time ≤ later) →
        recent later (recent now (record calls).2) =
          recent later (record calls).2 := fun later all =>
      recent_recent (all now (List.mem_append_right _ List.mem_cons_self))
    unfold record at tracks counted ⊢
    rw [List.foldl_append, List.foldl_cons, List.foldl_nil]
    simp only [tracks.recordRestart ordered fun time mem =>
      past time mem now List.mem_cons_self]
    split
    · exact ⟨tracks.asked.trans (List.sublist_append_left _ _),
        List.filter_sublist, counted, tracks.bounded⟩
    · rename_i few
      refine ⟨tracks.asked.append_right _, List.filter_sublist.append_right _,
        fun later all => ?_, fun start =>
        within_grant (Nat.lt_of_not_le few) (tracks.bounded start)⟩
      rw [recent, List.filter_append]
      exact (congrArg (· ++ _) (counted later all)).trans (List.filter_append ..).symm

/-- Whatever the times of the calls, no ten minutes see more than three grants,
and a call is refused only where three still count. -/
theorem restarts_bounded {calls : List Nat} (ordered : calls.Pairwise (· ≤ ·)) :
    (∀ start, (within start (record calls).2).length ≤ maxRestarts) ∧
      ∀ now, (∀ time ∈ calls, time ≤ now) → ((record calls).1.recordRestart now).1 = false →
          maxRestarts ≤ (recent now (record calls).2).length := by
  have tracks := tracks_record ordered
  refine ⟨tracks.bounded, fun now past refused => ?_⟩
  rw [tracks.recordRestart ordered past] at refused
  split at refused
  · assumption
  · cases refused

theorem fourth_restart_refused : ((record [0, 0, 5]).1.recordRestart 600000).1 = false ∧
      maxRestarts ≤ (recent 600000 (record [0, 0, 5]).2).length := by
  have refused : ((record [0, 0, 5]).1.recordRestart 600000).1 = false := by decide
  exact ⟨refused, (restarts_bounded (by decide)).2 600000 (by decide) refused⟩

end RestartBudget

end SChatCore.Transport
