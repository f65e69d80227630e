import Mathlib.Data.List.Basic

namespace SChatCore.Data

/-! Tasks that take turns on one shared state. A task keeps the turn until it
waits; the event it is resumed with says how the wait ended. -/

/-- What a turn leaves: the shared state, where the task waits next unless it
is through, and the tasks it started. -/
structure Turn (State Task : Type) where
  shared : State
  next : Option Task
  started : List Task := []

structure Program (Call State Task Event : Type) where
  enter : Call → Task
  resume : Event → State → Task → Turn State Task

/-- Tasks stand in the order they were started; one that is through leaves its
place empty. -/
structure Pool (State Task : Type) where
  shared : State
  tasks : List (Option Task)

inductive Move (Call Event : Type)
  | start (call : Call)
  | resume (place : Nat) (event : Event)

variable {Call State Task Event : Type}

namespace Pool

def idle (shared : State) : Pool State Task := ⟨shared, []⟩

def taskAt (pool : Pool State Task) (place : Nat) : Option Task := pool.tasks[place]?.join

def Resting (pool : Pool State Task) : Prop := ∀ slot ∈ pool.tasks, slot.isNone = true

instance (pool : Pool State Task) : Decidable pool.Resting :=
  inferInstanceAs (Decidable (∀ slot ∈ pool.tasks, slot.isNone = true))

def add (pool : Pool State Task) (task : Task) : Pool State Task :=
  { pool with tasks := pool.tasks ++ [some task] }

def take (pool : Pool State Task) (place : Nat) (turn : Turn State Task) : Pool State Task where
  shared := turn.shared
  tasks := pool.tasks.set place turn.next ++ turn.started.map some

variable {pool : Pool State Task}

theorem lt_of_taskAt (found : pool.taskAt place = some task) : place < pool.tasks.length := by
  by_contra beyond
  rw [taskAt, List.getElem?_eq_none (Nat.le_of_not_lt beyond)] at found
  cases found

theorem mem_of_taskAt (found : pool.taskAt place = some task) : some task ∈ pool.tasks :=
  List.mem_of_getElem? (Option.join_eq_some_iff.mp found)

theorem Resting.taskAt (resting : pool.Resting) (place : Nat) : pool.taskAt place = none := by
  cases found : pool.tasks[place]? with
  | none => rw [Pool.taskAt, found, Option.join_none]
  | some slot =>
    have empty := resting slot (List.mem_of_getElem? found)
    rw [Pool.taskAt, found, Option.join_some, Option.isNone_iff_eq_none.mp empty]

theorem taskAt_add (found : pool.taskAt place = some task) (added : Task) :
    (pool.add added).taskAt place = some task := by
  have inside := lt_of_taskAt found
  rw [taskAt, add, List.getElem?_append_left inside]
  exact found

theorem taskAt_add_cases (found : (pool.add added).taskAt place = some task) :
    pool.taskAt place = some task ∨ task = added := by
  rw [taskAt, add, List.getElem?_append] at found
  split at found
  · exact .inl found
  · have mem := List.mem_of_getElem? (Option.join_eq_some_iff.mp found)
    exact .inr (by simpa using mem)

theorem taskAt_take_self (inside : place < pool.tasks.length) :
    (pool.take place turn).taskAt place = turn.next := by
  rw [taskAt, take, List.getElem?_append_left (by simpa using inside),
    List.getElem?_set_self inside, Option.join_some]

theorem taskAt_take_of_ne (apart : other ≠ place) (found : pool.taskAt other = some task) :
    (pool.take place turn).taskAt other = some task := by
  have inside := lt_of_taskAt found
  rw [taskAt, take, List.getElem?_append_left (by simpa using inside),
    List.getElem?_set_ne apart.symm]
  exact found

/-- A task met after a turn was there before, is the one that took the turn,
or was started by it. -/
theorem taskAt_take_cases (found : (pool.take place turn).taskAt other = some task) :
    other ≠ place ∧ pool.taskAt other = some task ∨
      other = place ∧ turn.next = some task ∨ task ∈ turn.started := by
  rw [taskAt, take, List.getElem?_append] at found
  split at found
  next inside =>
    rw [List.length_set] at inside
    by_cases same : other = place
    · subst same
      rw [List.getElem?_set_self inside, Option.join_some] at found
      exact .inr (.inl ⟨rfl, found⟩)
    · rw [List.getElem?_set_ne (Ne.symm same)] at found
      exact .inl ⟨same, found⟩
  next =>
    refine .inr (.inr ?_)
    have mem := List.mem_of_getElem? (Option.join_eq_some_iff.mp found)
    simpa using mem

end Pool

namespace Program

variable (program : Program Call State Task Event)

def move (pool : Pool State Task) : Move Call Event → Pool State Task
  | .start call => pool.add (program.enter call)
  | .resume place event =>
    match pool.taskAt place with
    | none => pool
    | some task => pool.take place (program.resume event pool.shared task)

theorem move_of_some (found : pool.taskAt place = some task) :
    program.move pool (.resume place event) =
      pool.take place (program.resume event pool.shared task) := by
  simp only [move, found]

def run (pool : Pool State Task) (moves : List (Move Call Event)) :
    Pool State Task :=
  moves.foldl program.move pool

def Follows (allowed : Pool State Task → Move Call Event → Prop) :
    Pool State Task → List (Move Call Event) → Prop
  | _, [] => True
  | pool, move :: rest => allowed pool move ∧ Follows allowed (program.move pool move) rest

variable {program} {holds : Pool State Task → Prop}

theorem holds_run (start : ∀ pool call, allowed pool (.start call) → holds pool →
      holds (pool.add (program.enter call)))
    (resume : ∀ pool place event task, pool.taskAt place = some task →
      allowed pool (.resume place event) → holds pool →
      holds (pool.take place (program.resume event pool.shared task)))
    (follows : program.Follows allowed pool moves) (initially : holds pool) :
    holds (program.run pool moves) := by
  induction moves generalizing pool with
  | nil => exact initially
  | cons move rest ih =>
    obtain ⟨permitted, later⟩ := follows
    refine ih later ?_
    cases move with
    | start call => exact start pool call permitted initially
    | resume place event =>
      cases found : pool.taskAt place with
      | none => simpa only [Program.move, found] using initially
      | some task =>
        rw [program.move_of_some found]
        exact resume pool place event task found permitted initially

end Program

end SChatCore.Data
