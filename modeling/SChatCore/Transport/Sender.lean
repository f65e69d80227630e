import SChatCore.Data.Tasks
import SChatCore.Transport.Onion

namespace SChatCore.Transport

open Data

/-! The pooled sender: `send` queues a write for a destination, the worker of
the destination connects and writes. -/

namespace TransportError

/-- `clone_error`: only three kinds survive the copy. -/
def clone : TransportError → TransportError
  | killSwitch => killSwitch
  | offline => offline
  | connectFailed dest attempts reason => connectFailed dest attempts reason
  | other => socks other.text

end TransportError

def maxConnectFails : Nat := 8

def maxWriteRetries : Nat := 3

def writeCoalesceMin : Nat := 512 * 1024

def writeCoalesceMax : Nat := 2 * 1024 * 1024

def maxLiveSessions : Nat := 8

def queueCapacity : Nat := 256

/-- `number` stands for the channel its caller waits on. -/
structure QueuedWrite where
  number : Nat
  bytes : List UInt8
  deriving DecidableEq

/-- A destination queue: what is in it, how many senders it has, and whether
its worker still reads it. -/
structure Channel where
  queue : List QueuedWrite
  handles : Nat
  live : Bool
  deriving DecidableEq

inductive Operation
  | connect
  | write (payload : List UInt8)
  deriving DecidableEq

/-- An operation a worker began, with the switch as it was then. -/
structure Begun where
  dest : String
  operation : Operation
  killSwitch : Bool
  deriving DecidableEq

/-- The answer to a write, with the switch as it was then. `queued` says that
the write had not yet been taken into a batch. -/
structure Completion where
  number : Nat
  result : Except TransportError Unit
  queued : Bool
  killSwitch : Bool

structure Traffic where
  killSwitch : Bool
  online : Bool
  dests : List (String × Nat)
  channels : List Channel
  writes : Nat
  begun : List Begun
  completed : List Completion

namespace Traffic

def queue (traffic : Traffic) (channel : Nat) : List QueuedWrite :=
  (traffic.channels[channel]?.map Channel.queue).getD []

def onChannel (traffic : Traffic) (channel : Nat) (change : Channel → Channel) : Traffic :=
  { traffic with channels := traffic.channels.modify channel change }

def dropHandle (traffic : Traffic) (channel : Nat) : Traffic :=
  traffic.onChannel channel fun row => { row with handles := row.handles - 1 }

def unregister (traffic : Traffic) (dest : String) : Traffic :=
  match traffic.dests.lookup dest with
  | none => traffic
  | some channel =>
    { traffic.dropHandle channel with
      dests := traffic.dests.filter fun entry => entry.1 ≠ dest }

def start (traffic : Traffic) (dest : String) (operation : Operation) :
    Traffic :=
  { traffic with
    begun := traffic.begun ++ [{ dest, operation, killSwitch := traffic.killSwitch }] }

def complete (traffic : Traffic) (queued : Bool)
    (result : Except TransportError Unit) (writes : List QueuedWrite) :
    Traffic :=
  { traffic with
    completed := traffic.completed ++ writes.map fun write =>
      { number := write.number, result, queued,
        killSwitch := traffic.killSwitch } }

/-- The first write gets the error, the others its text. -/
def failAll (traffic : Traffic) (queued : Bool) (error : TransportError) :
    List QueuedWrite → Traffic
  | [] => traffic
  | first :: rest =>
    (traffic.complete queued (.error error.clone) [first]).complete queued
      (.error (.socks error.text)) rest

def failQueue (traffic : Traffic) (channel : Nat) (error : TransportError)
    (pending : QueuedWrite) : Traffic :=
  (traffic.onChannel channel fun row => { row with queue := [] }).failAll true
    error (pending :: traffic.queue channel)

end Traffic

/-- Takes writes until the batch reaches the budget. -/
def coalesce (budget size : Nat) : List QueuedWrite → List QueuedWrite × List QueuedWrite
  | [] => ([], [])
  | write :: rest =>
    if size < budget then
      let (taken, left) := coalesce budget (size + write.bytes.length) rest
      (write :: taken, left)
    else ([], write :: rest)

inductive SenderCall
  | send (dest : String) (bytes : List UInt8)
  | setKillSwitch (on : Bool)
  | setOnline (online : Bool)

/-- Where a `send` or a worker waits. A worker that is `waiting` has no
stream, one that is `holding` keeps its stream for the next write. -/
inductive SenderWait
  | sending (dest : String) (bytes : List UInt8)
  | locking (dest : String) (write : QueuedWrite)
  | enqueuing (channel : Nat) (write : QueuedWrite)
  | awaiting (channel : Nat) (write : QueuedWrite)
  | waiting (dest : String) (channel : Nat)
  | connecting (dest : String) (channel : Nat) (pending : QueuedWrite)
      (fails : Nat)
  | backingOff (dest : String) (channel : Nat) (pending : QueuedWrite)
      (fails : Nat)
  | writing (dest : String) (channel : Nat) (batch : List QueuedWrite)
      (retries : Nat)
  | reconnecting (dest : String) (channel : Nat) (batch : List QueuedWrite)
      (retries : Nat)
  | holding (dest : String) (channel : Nat)
  | leaving (dest : String) (channel : Nat)
  | switchingKill (on : Bool)
  | switchingOnline (online : Bool)

/-- How a wait ended. A budget is the draw for the next batch; `evicted` is
the entry a full map gives up. -/
inductive SenderEvent
  | ready
  | evicted (dest : String)
  | connected (budget : Nat)
  | refused (error : TransportError)
  | written
  | writeFailed (reason : String)
  | received (budget : Nat)
  | elapsed
  | hungUp

def SenderCall.enter : SenderCall → SenderWait
  | send dest bytes => .sending dest bytes
  | setKillSwitch on => .switchingKill on
  | setOnline online => .switchingOnline online

abbrev SenderTurn := Turn Traffic SenderWait

namespace Traffic

def payload (batch : List QueuedWrite) : List UInt8 := batch.flatMap QueuedWrite.bytes

def startBatch (traffic : Traffic) (dest : String) (channel : Nat)
    (pending : QueuedWrite) (budget : Nat) : SenderTurn :=
  let budget := max writeCoalesceMin (min writeCoalesceMax budget)
  let (taken, left) := coalesce budget pending.bytes.length (traffic.queue channel)
  let batch := pending :: taken
  { shared := (traffic.onChannel channel fun row =>
      { row with queue := left }).start dest (.write (payload batch))
    next := some (.writing dest channel batch 0) }

/-- The head of the outer loop: the gate, then the connection. `budget` is
given when a stream is up. -/
def passGate (traffic : Traffic) (dest : String) (channel : Nat)
    (pending : QueuedWrite) (budget : Option Nat) : SenderTurn :=
  if traffic.killSwitch ∨ ¬ traffic.online then
    let error : TransportError := if traffic.killSwitch then .killSwitch else .offline
    { shared := traffic.failQueue channel error pending
      next := some (.leaving dest channel) }
  else
    match budget with
    | some budget => traffic.startBatch dest channel pending budget
    | none =>
      { shared := traffic.start dest .connect
        next := some (.connecting dest channel pending 0) }

/-- `rx.recv()`: a write, the end of the queue, or a longer wait. -/
def receive (traffic : Traffic) (dest : String) (channel : Nat)
    (budget : Option Nat) (wait : SenderWait) : SenderTurn :=
  match traffic.channels[channel]? with
  | none => { shared := traffic, next := some wait }
  | some row =>
    match row.queue with
    | pending :: rest =>
      (traffic.onChannel channel fun row =>
        { row with queue := rest }).passGate dest channel pending budget
    | [] =>
      if row.handles = 0 then
        { shared := traffic, next := some (.leaving dest channel) }
      else { shared := traffic, next := some wait }

def leave (traffic : Traffic) (dest : String) (channel : Nat) : Traffic :=
  ((traffic.unregister dest).onChannel channel fun row =>
    { row with queue := [], live := false }).complete true
      (.error (.socks "destination worker dropped write"))
      (traffic.queue channel)

def spawn (traffic : Traffic) (dest : String) (write : QueuedWrite) :
    SenderTurn :=
  let channel := traffic.channels.length
  { shared := { traffic with
      dests := traffic.dests ++ [(dest, channel)]
      channels := traffic.channels ++ [{ queue := [], handles := 2, live := true }] }
    next := some (.enqueuing channel write)
    started := [.waiting dest channel] }

def join (traffic : Traffic) (dest : String) (write : QueuedWrite)
    (event : SenderEvent) : SenderTurn :=
  match traffic.dests.lookup dest with
  | some channel =>
    { shared := traffic.onChannel channel fun row =>
        { row with handles := row.handles + 1 }
      next := some (.enqueuing channel write) }
  | none =>
    if traffic.dests.length < maxLiveSessions then traffic.spawn dest write
    else
      match event with
      | .evicted victim =>
        if (traffic.dests.lookup victim).isSome then
          (traffic.unregister victim).spawn dest write
        else { shared := traffic, next := some (.locking dest write) }
      | _ => { shared := traffic, next := some (.locking dest write) }

def enqueue (traffic : Traffic) (channel : Nat) (write : QueuedWrite) :
    SenderTurn :=
  match traffic.channels[channel]? with
  | none => { shared := traffic, next := none }
  | some row =>
    if ¬ row.live then
      { shared := traffic.dropHandle channel, next := none }
    else if row.queue.length < queueCapacity then
      { shared := traffic.onChannel channel fun row =>
          { row with queue := row.queue ++ [write] }
        next := some (.awaiting channel write) }
    else { shared := traffic, next := some (.enqueuing channel write) }

end Traffic

section

variable (normalize : String → Except TransportError String)

/-- `send` is `sending` to `awaiting`, `run_dest` is `waiting` to `leaving`. -/
def resumeSender (event : SenderEvent) (traffic : Traffic) : SenderWait → SenderTurn
  | .sending dest bytes =>
    if traffic.killSwitch ∨ ¬ traffic.online then
      { shared := traffic, next := none }
    else
      match normalize dest with
      | .error _ => { shared := traffic, next := none }
      | .ok dest =>
        { shared := { traffic with writes := traffic.writes + 1 }
          next := some (.locking dest { number := traffic.writes, bytes }) }
  | .locking dest write => traffic.join dest write event
  | .enqueuing channel write => traffic.enqueue channel write
  | .awaiting channel write =>
    if traffic.completed.any fun answer => answer.number = write.number then
      { shared := traffic.dropHandle channel, next := none }
    else { shared := traffic, next := some (.awaiting channel write) }
  | .waiting dest channel => traffic.receive dest channel none (.waiting dest channel)
  | .connecting dest channel pending fails =>
    match event with
    | .connected budget => traffic.startBatch dest channel pending budget
    | .refused error =>
      if fails + 1 ≥ maxConnectFails then
        { shared := traffic.failQueue channel (.connectFailed dest (fails + 1) error.text) pending
          next := some (.leaving dest channel) }
      else
        { shared := traffic
          next := some (.backingOff dest channel pending (fails + 1)) }
    | _ =>
      { shared := traffic
        next := some (.connecting dest channel pending fails) }
  -- The switch is not looked at again before the next attempt.
  | .backingOff dest channel pending fails =>
    { shared := traffic.start dest .connect
      next := some (.connecting dest channel pending fails) }
  | .writing dest channel batch retries =>
    match event with
    | .written =>
      { shared := traffic.complete false (.ok ()) batch
        next := some (.holding dest channel) }
    | .writeFailed reason =>
      if retries + 1 ≥ maxWriteRetries then
        { shared := traffic.failAll false (.io reason) batch
          next := some (.leaving dest channel) }
      else
        { shared := traffic.start dest .connect
          next := some (.reconnecting dest channel batch (retries + 1)) }
    | _ =>
      { shared := traffic
        next := some (.writing dest channel batch retries) }
  | .reconnecting dest channel batch retries =>
    match event with
    | .connected _ =>
      { shared := traffic.start dest (.write (Traffic.payload batch))
        next := some (.writing dest channel batch retries) }
    | .refused error =>
      { shared := traffic.failAll false error batch
        next := some (.leaving dest channel) }
    | _ =>
      { shared := traffic
        next := some (.reconnecting dest channel batch retries) }
  | .holding dest channel =>
    match event with
    | .received budget => traffic.receive dest channel (some budget) (.holding dest channel)
    | .elapsed | .hungUp => { shared := traffic, next := some (.waiting dest channel) }
    | _ => { shared := traffic, next := some (.holding dest channel) }
  | .leaving dest channel => { shared := traffic.leave dest channel, next := none }
  | .switchingKill on => { shared := { traffic with killSwitch := on }, next := none }
  | .switchingOnline online => { shared := { traffic with online }, next := none }

def senderCalls : Program SenderCall Traffic SenderWait SenderEvent where
  enter := SenderCall.enter
  resume := resumeSender normalize

end

abbrev SenderPool := Pool Traffic SenderWait

abbrev SenderMove := Move SenderCall SenderEvent

/-- Nothing was begun under the switch, and what was queued under it was
refused by it. -/
structure Hushed (traffic : Traffic) : Prop where
  silent : ∀ begun ∈ traffic.begun, begun.killSwitch = false
  refused : ∀ answer ∈ traffic.completed, answer.killSwitch = true →
    answer.queued = true → answer.result = .error .killSwitch

namespace SenderWait

def engaged : SenderWait → Bool
  | connecting .. | backingOff .. | writing .. | reconnecting .. => true
  | _ => false

end SenderWait

/-- The switch goes on only while no worker is past its gate, and under it a
worker finds one write at most. -/
def Calm (pool : SenderPool) : SenderMove → Prop
  | .start _ => True
  | .resume place _ =>
    match pool.taskAt place with
    | some (.switchingKill true) =>
      ∀ slot ∈ pool.tasks, (slot.map SenderWait.engaged).getD false = false
    | some (.waiting _ channel) | some (.holding _ channel) =>
      pool.shared.killSwitch = true → (pool.shared.queue channel).length ≤ 1
    | some (.leaving _ channel) => pool.shared.killSwitch = true → pool.shared.queue channel = []
    | _ => True

/-! What a turn writes down carries the switch as it is, so with the switch off
there is nothing to check. -/

/-- Whatever is new was written down under the switch of `before`. -/
structure Logs (before after : Traffic) : Prop where
  killSwitch : after.killSwitch = before.killSwitch
  begun : ∀ begun ∈ after.begun, begun ∈ before.begun ∨ begun.killSwitch = before.killSwitch
  completed : ∀ answer ∈ after.completed,
    answer ∈ before.completed ∨ answer.killSwitch = before.killSwitch

structure Same (before after : Traffic) : Prop where
  killSwitch : after.killSwitch = before.killSwitch
  begun : after.begun = before.begun
  completed : after.completed = before.completed

theorem Same.refl : Same traffic traffic := ⟨rfl, rfl, rfl⟩

theorem Same.hushed (same : Same before after) (hushed : Hushed before) : Hushed after where
  silent begun mem := hushed.silent begun (same.begun ▸ mem)
  refused answer mem := hushed.refused answer (same.completed ▸ mem)

theorem Same.logs (same : Same before after) : Logs before after where
  killSwitch := same.killSwitch
  begun _ mem := .inl (same.begun ▸ mem)
  completed _ mem := .inl (same.completed ▸ mem)

theorem Logs.trans (first : Logs before after) (second : Logs after last) : Logs before last where
  killSwitch := second.killSwitch.trans first.killSwitch
  begun begun mem := by
    rcases second.begun begun mem with known | new
    · exact first.begun begun known
    · exact .inr (new.trans first.killSwitch)
  completed answer mem := by
    rcases second.completed answer mem with known | new
    · exact first.completed answer known
    · exact .inr (new.trans first.killSwitch)

theorem Logs.hushed (logs : Logs before after) (hushed : Hushed before)
    (off : before.killSwitch = false) : Hushed after where
  silent begun mem := by
    rcases logs.begun begun mem with known | new
    · exact hushed.silent begun known
    · exact new.trans off
  refused answer mem on queued := by
    rcases logs.completed answer mem with known | new
    · exact hushed.refused answer known on queued
    · exact absurd (on.symm.trans (new.trans off)) nofun

theorem same_onChannel (channel : Nat) (change : Channel → Channel) :
    Same traffic (traffic.onChannel channel change) :=
  ⟨rfl, rfl, rfl⟩

theorem same_unregister (dest : String) : Same traffic (traffic.unregister dest) := by
  unfold Traffic.unregister
  split <;> exact ⟨rfl, rfl, rfl⟩

theorem logs_start (dest : String) (operation : Operation) :
    Logs traffic (traffic.start dest operation) where
  killSwitch := rfl
  begun begun mem := by
    rcases List.mem_append.mp mem with known | new
    · exact .inl known
    · exact .inr (congrArg Begun.killSwitch (List.mem_singleton.mp new))
  completed _ mem := .inl mem

theorem logs_complete (queued : Bool) (result : Except TransportError Unit)
    (writes : List QueuedWrite) :
    Logs traffic (traffic.complete queued result writes) where
  killSwitch := rfl
  begun _ mem := .inl mem
  completed answer mem := by
    rcases List.mem_append.mp mem with known | new
    · exact .inl known
    · obtain ⟨write, -, rfl⟩ := List.mem_map.mp new
      exact .inr rfl

theorem logs_failAll (queued : Bool) (error : TransportError) (writes : List QueuedWrite) :
    Logs traffic (traffic.failAll queued error writes) := by
  cases writes with
  | nil => exact Same.refl.logs
  | cons first rest => exact (logs_complete _ _ _).trans (logs_complete _ _ _)

theorem logs_failQueue (channel : Nat) (error : TransportError) (pending : QueuedWrite) :
    Logs traffic (traffic.failQueue channel error pending) :=
  (same_onChannel _ _).logs.trans (logs_failAll _ _ _)

theorem logs_startBatch (dest : String) (channel : Nat) (pending : QueuedWrite) (budget : Nat) :
    Logs traffic (traffic.startBatch dest channel pending budget).shared :=
  (same_onChannel _ _).logs.trans (logs_start _ _)

theorem logs_passGate (dest : String) (channel : Nat) (pending : QueuedWrite)
    (budget : Option Nat) :
    Logs traffic (traffic.passGate dest channel pending budget).shared := by
  unfold Traffic.passGate
  split
  · exact logs_failQueue _ _ _
  · split
    · exact logs_startBatch _ _ _ _
    · exact logs_start _ _

theorem logs_receive (dest : String) (channel : Nat) (budget : Option Nat) (wait : SenderWait) :
    Logs traffic (traffic.receive dest channel budget wait).shared := by
  unfold Traffic.receive
  split
  · exact Same.refl.logs
  · split
    · exact (same_onChannel _ _).logs.trans (logs_passGate _ _ _ _)
    · split <;> exact Same.refl.logs

theorem same_join (dest : String) (write : QueuedWrite) (event : SenderEvent) :
    Same traffic (traffic.join dest write event).shared := by
  have evicted (victim : String) :
      Same traffic ((traffic.unregister victim).spawn dest write).shared := by
    have first := @same_unregister traffic victim
    exact ⟨first.killSwitch, first.begun, first.completed⟩
  unfold Traffic.join
  split
  · exact same_onChannel _ _
  · split
    · exact ⟨rfl, rfl, rfl⟩
    · split
      · split
        · exact evicted _
        · exact .refl
      · exact .refl

theorem same_enqueue (channel : Nat) (write : QueuedWrite) :
    Same traffic (traffic.enqueue channel write).shared := by
  unfold Traffic.enqueue
  split
  · exact .refl
  · split
    · exact same_onChannel _ _
    · split
      · exact same_onChannel _ _
      · exact .refl

section

variable {normalize : String → Except TransportError String}
  {event : SenderEvent} {traffic : Traffic}

theorem logs_resume {wait : SenderWait} (kept : ∀ on, wait ≠ .switchingKill on) :
    Logs traffic (resumeSender normalize event traffic wait).shared := by
  cases wait with
  | sending dest bytes =>
    simp only [resumeSender]
    split
    · exact Same.refl.logs
    · split <;> exact Same.logs ⟨rfl, rfl, rfl⟩
  | locking dest write => exact (same_join _ _ _).logs
  | enqueuing channel write => exact (same_enqueue _ _).logs
  | awaiting channel write =>
    simp only [resumeSender]
    split
    · exact (same_onChannel _ _).logs
    · exact Same.refl.logs
  | waiting dest channel => exact logs_receive _ _ _ _
  | connecting dest channel pending fails =>
    simp only [resumeSender]
    split
    · exact logs_startBatch _ _ _ _
    · split
      · exact logs_failQueue _ _ _
      · exact Same.refl.logs
    · exact Same.refl.logs
  | backingOff dest channel pending fails => exact logs_start _ _
  | writing dest channel batch retries =>
    simp only [resumeSender]
    split
    · exact logs_complete _ _ _
    · split
      · exact logs_failAll _ _ _
      · exact logs_start _ _
    · exact Same.refl.logs
  | reconnecting dest channel batch retries =>
    simp only [resumeSender]
    split
    · exact logs_start _ _
    · exact logs_failAll _ _ _
    · exact Same.refl.logs
  | holding dest channel =>
    simp only [resumeSender]
    split
    · exact logs_receive _ _ _ _
    all_goals exact Same.refl.logs
  | leaving dest channel =>
    exact (same_unregister dest).logs.trans ((same_onChannel _ _).logs.trans (logs_complete _ _ _))
  | switchingKill on => exact absurd rfl (kept on)
  | switchingOnline online => exact Same.logs ⟨rfl, rfl, rfl⟩

/-- A turn under the switch leaves things hushed and engages no one. -/
structure Holds (traffic : Traffic) (turn : SenderTurn) : Prop where
  hushed : Hushed traffic → Hushed turn.shared
  next : ∀ wait, turn.next = some wait → wait.engaged = false
  started : ∀ wait ∈ turn.started, wait.engaged = false

theorem Holds.of_same (same : Same traffic turn.shared)
    (next : ∀ wait, turn.next = some wait → wait.engaged = false)
    (started : ∀ wait ∈ turn.started, wait.engaged = false) :
    Holds traffic turn :=
  ⟨same.hushed, next, started⟩

theorem holds_join (dest : String) (write : QueuedWrite) :
    Holds traffic (traffic.join dest write event) := by
  refine .of_same (same_join _ _ _) ?_ ?_
  all_goals
    unfold Traffic.join
    repeat' split
    all_goals simp [Traffic.spawn, SenderWait.engaged]

theorem holds_enqueue (channel : Nat) (write : QueuedWrite) :
    Holds traffic (traffic.enqueue channel write) := by
  refine .of_same (same_enqueue _ _) ?_ ?_
  all_goals
    unfold Traffic.enqueue
    repeat' split
    all_goals simp [SenderWait.engaged]

theorem hushed_failQueue (alone : traffic.queue channel = []) (hushed : Hushed traffic) :
    Hushed (traffic.failQueue channel .killSwitch pending) := by
  rw [Traffic.failQueue, alone]
  refine ⟨hushed.silent, fun answer mem on queued => ?_⟩
  have known : answer ∈ traffic.completed ++
      [⟨pending.number, .error .killSwitch, true, traffic.killSwitch⟩] ++ [] :=
    mem
  rw [List.append_nil] at known
  rcases List.mem_append.mp known with old | new
  · exact hushed.refused answer old on queued
  · exact congrArg Completion.result (List.mem_singleton.mp new)

theorem answers_receive (on : traffic.killSwitch = true) (few : (traffic.queue channel).length ≤ 1)
    (queued : write ∈ traffic.queue channel) :
    ∃ answer ∈ (traffic.receive dest channel budget wait).shared.completed,
      answer.number = write.number ∧ answer.result = .error .killSwitch := by
  cases found : traffic.channels[channel]? with
  | none =>
    rw [Traffic.queue, found] at queued
    cases queued
  | some row =>
    rw [Traffic.queue, found, Option.map_some, Option.getD_some] at few queued
    cases kept : row.queue with
    | nil =>
      rw [kept] at queued
      cases queued
    | cons pending rest =>
      rw [kept] at few queued
      obtain rfl : rest = [] := List.length_eq_zero_iff.mp (by simpa using few)
      obtain rfl := List.mem_singleton.mp queued
      have raised : (traffic.onChannel channel fun row =>
          { row with queue := [] }).killSwitch = true := on
      simp only [Traffic.receive, found, kept]
      unfold Traffic.passGate
      rw [if_pos (.inl raised), if_pos raised]
      refine ⟨⟨write.number, .error .killSwitch, true, traffic.killSwitch⟩, ?_, rfl, rfl⟩
      exact List.mem_append_left _ (List.mem_append_right _ List.mem_cons_self)

theorem holds_receive (on : traffic.killSwitch = true)
    (few : (traffic.queue channel).length ≤ 1) (calm : wait.engaged = false) :
    Holds traffic (traffic.receive dest channel budget wait) := by
  have stays : ∀ waiting : SenderWait, waiting.engaged = false →
      Holds traffic { shared := traffic, next := some waiting } :=
    fun waiting engaged => .of_same .refl (fun _ own => Option.some.inj own ▸ engaged) nofun
  unfold Traffic.receive
  split
  next => exact stays wait calm
  next row found =>
    split
    next pending rest queued =>
      have emptied : (traffic.onChannel channel fun row =>
          { row with queue := rest }).queue channel = [] := by
        rw [Traffic.queue, found, Option.map_some, Option.getD_some, queued]
          at few
        simpa [Traffic.queue, Traffic.onChannel, found] using few
      have raised : (traffic.onChannel channel fun row =>
          { row with queue := rest }).killSwitch = true := on
      unfold Traffic.passGate
      rw [if_pos (.inl raised), if_pos raised]
      exact {
        hushed := fun hushed => hushed_failQueue emptied ((same_onChannel _ _).hushed hushed)
        next := fun _ own => Option.some.inj own ▸ rfl
        started := nofun }
    next =>
      split
      · exact stays _ rfl
      · exact stays wait calm

theorem hushed_leave (emptied : traffic.queue channel = []) (hushed : Hushed traffic) :
    Hushed (traffic.leave dest channel) := by
  rw [Traffic.leave, emptied]
  have first := (@same_unregister traffic dest).hushed hushed
  refine ⟨first.silent, fun answer mem => ?_⟩
  exact first.refused answer (List.append_nil (Traffic.completed _) ▸ mem)

theorem holds_resume {pool : SenderPool} {place : Nat} {wait : SenderWait}
    (on : pool.shared.killSwitch = true)
    (found : pool.taskAt place = some wait) (gated : wait.engaged = false)
    (kept : ∀ on, wait ≠ .switchingKill on) (calm : Calm pool (.resume place event)) :
    Holds pool.shared (resumeSender normalize event pool.shared wait) := by
  simp only [Calm, found] at calm
  cases wait with
  | sending dest bytes =>
    simp only [resumeSender]
    rw [if_pos (.inl on)]
    exact .of_same .refl nofun nofun
  | locking dest write => exact holds_join dest write
  | enqueuing channel write => exact holds_enqueue channel write
  | awaiting channel write =>
    simp only [resumeSender]
    split
    · exact .of_same (same_onChannel _ _) nofun nofun
    · exact .of_same .refl (fun _ own => Option.some.inj own ▸ rfl) nofun
  | waiting dest channel => exact holds_receive on (calm on) rfl
  | holding dest channel =>
    simp only [resumeSender]
    split
    · exact holds_receive on (calm on) rfl
    all_goals
      exact .of_same .refl (fun _ own => Option.some.inj own ▸ rfl) nofun
  | leaving dest channel => exact ⟨hushed_leave (calm on), nofun, nofun⟩
  | switchingKill on => exact absurd rfl (kept on)
  | switchingOnline online => exact .of_same ⟨rfl, rfl, rfl⟩ nofun nofun
  | connecting | backingOff | writing | reconnecting => cases gated

end

/-- Hushed, and under the switch no worker is past its gate. -/
structure Settled (pool : SenderPool) : Prop where
  hushed : Hushed pool.shared
  gated : pool.shared.killSwitch = true → ∀ place wait,
    pool.taskAt place = some wait → wait.engaged = false

theorem Settled.resume {normalize : String → Except TransportError String} (settled : Settled pool)
    (found : pool.taskAt place = some wait) (calm : Calm pool (.resume place event)) :
    Settled (pool.take place (resumeSender normalize event pool.shared wait)) := by
  by_cases switching : ∃ on, wait = .switchingKill on
  · obtain ⟨on, rfl⟩ := switching
    refine ⟨⟨settled.hushed.silent, settled.hushed.refused⟩, ?_⟩
    intro raised other waiting present
    obtain rfl : on = true := raised
    simp only [Calm, found] at calm
    rcases Pool.taskAt_take_cases present with ⟨-, known⟩ | ⟨-, own⟩ | new
    · exact calm (some waiting) (Pool.mem_of_taskAt known)
    · cases own
    · cases new
  · have kept : ∀ on, wait ≠ .switchingKill on := fun on same => switching ⟨on, same⟩
    have logs := @logs_resume normalize event pool.shared wait kept
    cases raised : pool.shared.killSwitch with
    | false =>
      refine ⟨logs.hushed settled.hushed raised, fun on => ?_⟩
      exact absurd (on.symm.trans (logs.killSwitch.trans raised)) nofun
    | true =>
      have holds := @holds_resume normalize event pool place wait raised found
        (settled.gated raised place wait found) kept calm
      refine ⟨holds.hushed settled.hushed, fun _ other waiting present => ?_⟩
      rcases Pool.taskAt_take_cases present with ⟨-, known⟩ | ⟨-, own⟩ | new
      · exact settled.gated raised other waiting known
      · exact holds.next waiting own
      · exact holds.started waiting new

/-- Under the switch, the next turn of a worker answers what is queued. -/
def Answers (normalize : String → Except TransportError String) (pool : SenderPool) : Prop :=
  ∀ place dest channel budget, pool.taskAt place = some (.waiting dest channel) ∨
      pool.taskAt place = some (.holding dest channel) →
    pool.shared.killSwitch = true →
    Calm pool (.resume place (.received budget)) →
    ∀ write ∈ pool.shared.queue channel, ∃ answer ∈ ((senderCalls normalize).move pool
          (.resume place (.received budget))).shared.completed,
        answer.number = write.number ∧ answer.result = .error .killSwitch

theorem answers (normalize : String → Except TransportError String)
    (pool : SenderPool) : Answers normalize pool := by
  intro place dest channel budget worker on calm write queued
  rcases worker with found | found
  all_goals
    rw [Program.move_of_some _ found]
    simp only [Calm, found] at calm
    exact answers_receive on (calm on) queued

/-- If the switch only goes on between batches and finds no second write
queued, it stops all traffic and answers every queued write. -/
theorem hushed_of_calm {normalize : String → Except TransportError String}
    {traffic : Traffic} {moves : List SenderMove} (hushed : Hushed traffic)
    (follows : (senderCalls normalize).Follows Calm (.idle traffic) moves) :
    Hushed ((senderCalls normalize).run (.idle traffic) moves).shared ∧
      Answers normalize ((senderCalls normalize).run (.idle traffic) moves) := by
  refine ⟨?_, answers normalize _⟩
  refine Settled.hushed (Program.holds_run ?_ ?_ follows ⟨hushed, nofun⟩)
  · intro pool call _ settled
    refine ⟨settled.hushed, fun on place wait found => ?_⟩
    rcases Pool.taskAt_add_cases found with known | rfl
    · exact settled.gated on place wait known
    · cases call <;> rfl
  · exact fun pool place event wait found calm settled =>
      settled.resume found calm

def Traffic.idle : Traffic where
  killSwitch := false
  online := true
  dests := []
  channels := []
  writes := 0
  begun := []
  completed := []

def enqueueOne (place : Nat) : List SenderMove :=
  [.start (.send "d" [7]), .resume place .ready, .resume place .ready, .resume place .ready]

def raise (place : Nat) : List SenderMove := [.start (.setKillSwitch true), .resume place .ready]

def raiseBeforeGate : List SenderMove := enqueueOne 0 ++ raise 2 ++ [.resume 1 .ready]

theorem hushed_after_refusal : Hushed ((senderCalls .ok).run (.idle .idle) raiseBeforeGate).shared ∧
      Answers .ok ((senderCalls .ok).run (.idle .idle) raiseBeforeGate) :=
  hushed_of_calm ⟨nofun, nofun⟩ ⟨trivial, trivial, trivial, trivial, trivial,
      show ∀ slot ∈ _, _ by decide, fun _ => by decide, trivial⟩

def raiseDuringBackoff : List SenderMove :=
  enqueueOne 0 ++ [.resume 1 .ready, .resume 1 (.refused (.timeout "socks"))] ++
    raise 2 ++ [.resume 1 .ready]

def raiseOverQueue : List SenderMove :=
  enqueueOne 0 ++ enqueueOne 2 ++ raise 3 ++ [.resume 1 .ready]

theorem connects_under_switch :
    ((senderCalls .ok).run (.idle .idle) raiseDuringBackoff).shared.begun =
        [⟨"d", .connect, false⟩, ⟨"d", .connect, true⟩] ∧
      ((senderCalls .ok).run (.idle .idle) raiseOverQueue).shared.completed =
        [⟨0, .error .killSwitch, true, true⟩,
          ⟨1, .error (.socks "kill switch engaged; send refused"), true, true⟩] ∧
      ¬ Hushed ((senderCalls .ok).run (.idle .idle) raiseDuringBackoff).shared ∧
      ¬ Hushed ((senderCalls .ok).run (.idle .idle) raiseOverQueue).shared := by
  have began : ((senderCalls .ok).run (.idle .idle) raiseDuringBackoff).shared.begun =
        [⟨"d", .connect, false⟩, ⟨"d", .connect, true⟩] := by
    decide
  have answered : ((senderCalls .ok).run (.idle .idle)
      raiseOverQueue).shared.completed = [⟨0, .error .killSwitch, true, true⟩,
          ⟨1, .error (.socks "kill switch engaged; send refused"), true, true⟩] :=
    rfl
  refine ⟨began, answered, fun hushed => ?_, fun hushed => ?_⟩
  · have silent := hushed.silent ⟨"d", .connect, true⟩ (by simp [began])
    cases silent
  · have refused := hushed.refused
      ⟨1, .error (.socks "kill switch engaged; send refused"), true, true⟩
      (by simp [answered]) rfl rfl
    cases refused

end SChatCore.Transport
