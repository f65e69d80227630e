import SChatCore.Data.Tasks

namespace SChatCore.Transport

open Data

/-! The kill switch and the roaming reset. Both write `DisableNetwork` through
one control connection, and either may wait while the other runs. -/

/-- `disableNetwork` lists what was sent, oldest first; `true` is "1". -/
structure Network where
  killSwitch : Bool
  online : Bool
  attached : Bool
  disableNetwork : List Bool
  deriving DecidableEq

inductive NetworkCall
  | setKillSwitch (on : Bool)
  | onNetworkChanged (hasPath : Bool)
  deriving DecidableEq

namespace NetworkCall

/-- The values of the call's SETCONFs. The reset bounces the network. -/
def values : NetworkCall → List Bool
  | setKillSwitch on => [on]
  | onNetworkChanged false => [true]
  | onNetworkChanged true => [true, false]

def finish (network : Network) : NetworkCall → Network
  | onNetworkChanged false => { network with online := false }
  | _ => network

end NetworkCall

/-- Where a call waits: before its first line, for the handle of the control
connection, or for the connection with the values it has yet to send. -/
inductive NetworkWait
  | entered (call : NetworkCall)
  | reading (call : NetworkCall)
  | sending (call : NetworkCall) (values : List Bool)
  deriving DecidableEq

inductive Reply
  | ok
  | failed
  deriving DecidableEq

def resumeNetwork (reply : Reply) (network : Network) : NetworkWait → Turn Network NetworkWait
  | .entered (.setKillSwitch on) =>
    match reply with
    | .ok =>
      { shared := { network with killSwitch := on }
        next := some (.reading (.setKillSwitch on)) }
    -- The flag is stored only once its file is written.
    | .failed => { shared := network, next := none }
  | .entered (.onNetworkChanged hasPath) =>
    { shared := network, next := some (.reading (.onNetworkChanged hasPath)) }
  | .reading call =>
    if network.attached then
      { shared := network, next := some (.sending call call.values) }
    else { shared := network, next := none }
  | .sending call [] => { shared := call.finish network, next := none }
  | .sending call (value :: rest) =>
    match reply with
    | .ok =>
      { shared := { network with
          disableNetwork := network.disableNetwork ++ [value] }
        next := some (.sending call rest) }
    | .failed => { shared := network, next := none }

def networkCalls : Program NetworkCall Network NetworkWait Reply where
  enter := .entered
  resume := resumeNetwork

abbrev NetworkPool := Pool Network NetworkWait

abbrev NetworkMove := Move NetworkCall Reply

/-- Tor's network is off whenever the switch is on. -/
def Dominates (network : Network) : Prop :=
  network.attached = true → network.killSwitch = true → network.disableNetwork.getLast? = some true

def Succeeds (pool : NetworkPool) : NetworkMove → Prop
  | .start _ => True
  | .resume place reply =>
    match pool.taskAt place with
    | some (.sending _ (_ :: _)) => reply = .ok
    | _ => True

/-- The network is turned on only while the switch is off. -/
def Cautious (pool : NetworkPool) : NetworkMove → Prop
  | .start _ => True
  | .resume place _ =>
    match pool.taskAt place with
    | some (.sending _ (false :: _)) => pool.shared.killSwitch = false
    | _ => True

/-! A switch turned on before its call has spoken to tor is a debt that call
still pays. -/

/-- The call has turned the switch on and still has its "1" to send. -/
inductive Owes : NetworkWait → Prop
  | reading : Owes (.reading (.setKillSwitch true))
  | sending : Owes (.sending (.setKillSwitch true) [true])

def Covered (pool : NetworkPool) : Prop :=
  pool.shared.attached = true → pool.shared.killSwitch = true →
    pool.shared.disableNetwork.getLast? = some true ∨
      ∃ place wait, pool.taskAt place = some wait ∧ Owes wait

theorem Covered.dominates (covered : Covered pool) (resting : pool.Resting) :
    Dominates pool.shared := by
  intro attached on
  rcases covered attached on with sent | ⟨place, wait, found, -⟩
  · exact sent
  · rw [resting.taskAt] at found
    cases found

/-- A turn that keeps the network as tor sees it keeps every debt but the one
it owes itself. -/
theorem Covered.take (covered : Covered pool) (found : pool.taskAt place = some wait)
    (attached : turn.shared.attached = pool.shared.attached)
    (killSwitch : turn.shared.killSwitch = pool.shared.killSwitch)
    (sent : turn.shared.disableNetwork = pool.shared.disableNetwork)
    (pays : turn.shared.attached = true → Owes wait → ∃ next, turn.next = some next ∧ Owes next) :
    Covered (pool.take place turn) := by
  intro stillAttached on
  rcases covered (attached ▸ stillAttached) (killSwitch ▸ on) with
    last | ⟨other, owing, at_other, owes⟩
  · exact .inl ((congrArg List.getLast? sent).trans last)
  · by_cases same : other = place
    · subst same
      obtain rfl : owing = wait := Option.some.inj (at_other.symm.trans found)
      obtain ⟨next, waits, owesNext⟩ := pays stillAttached owes
      exact .inr ⟨other, next,
        (Pool.taskAt_take_self (Pool.lt_of_taskAt found)).trans waits, owesNext⟩
    · exact .inr ⟨other, owing, Pool.taskAt_take_of_ne same at_other, owes⟩

theorem Covered.resume (covered : Covered pool) (found : pool.taskAt place = some wait)
    (succeeds : Succeeds pool (.resume place reply))
    (cautious : Cautious pool (.resume place reply)) :
    Covered (pool.take place (resumeNetwork reply pool.shared wait)) := by
  cases wait with
  | entered call =>
    cases call with
    | setKillSwitch on =>
      cases reply with
      | failed => exact covered.take found rfl rfl rfl fun _ owes => nomatch owes
      | ok =>
        intro _ raised
        obtain rfl : on = true := raised
        exact .inr ⟨place, .reading (.setKillSwitch true),
          Pool.taskAt_take_self (Pool.lt_of_taskAt found), .reading⟩
    | onNetworkChanged hasPath => exact covered.take found rfl rfl rfl fun _ owes => nomatch owes
  | reading call =>
    simp only [resumeNetwork]
    split
    next =>
      refine covered.take found rfl rfl rfl fun _ owes => ?_
      cases owes
      exact ⟨_, rfl, .sending⟩
    next detached =>
      exact covered.take found rfl rfl rfl fun attached => absurd attached detached
  | sending call values =>
    simp only [Succeeds, Cautious, found] at succeeds cautious
    cases values with
    | nil =>
      have finished : ∀ network, (call.finish network).attached =
          network.attached ∧ (call.finish network).killSwitch =
            network.killSwitch ∧ (call.finish network).disableNetwork =
              network.disableNetwork := by
        intro network
        unfold NetworkCall.finish
        split <;> exact ⟨rfl, rfl, rfl⟩
      obtain ⟨attached, killSwitch, sent⟩ := finished pool.shared
      exact covered.take found attached killSwitch sent fun _ owes => nomatch owes
    | cons value rest =>
      obtain rfl : reply = .ok := succeeds
      intro _ on
      cases value with
      | true => exact .inl List.getLast?_concat
      | false => exact absurd (cautious.symm.trans on) Bool.false_ne_true

/-- If the network is never turned on while the switch is on, the switch
dominates at every point of rest. -/
theorem dominates_of_cautious {network : Network} {moves : List NetworkMove}
    (dominates : Dominates network)
    (follows : networkCalls.Follows (fun pool move => Succeeds pool move ∧ Cautious pool move)
      (.idle network) moves)
    (resting : (networkCalls.run (.idle network) moves).Resting) :
    Dominates (networkCalls.run (.idle network) moves).shared := by
  refine Covered.dominates ?_ resting
  refine Program.holds_run ?_ ?_ follows fun attached on =>
    .inl (dominates attached on)
  · intro pool call _ covered attached on
    exact (covered attached on).imp_right fun ⟨place, wait, found, owes⟩ =>
        ⟨place, wait, Pool.taskAt_add found _, owes⟩
  · intro pool place reply wait found permitted covered
    exact covered.resume found permitted.1 permitted.2

def Network.quiet : Network where
  killSwitch := false
  online := true
  attached := true
  disableNetwork := []

def NetworkCall.alone (call : NetworkCall) (place turns : Nat) :
    List NetworkMove :=
  .start call :: List.replicate turns (.resume place .ok)

theorem dominates_after_switch_on : Dominates (networkCalls.run (.idle .quiet)
      ((NetworkCall.setKillSwitch true).alone 0 4)).shared :=
  dominates_of_cautious (fun _ on => nomatch on)
    ⟨⟨trivial, trivial⟩, ⟨trivial, trivial⟩, ⟨trivial, trivial⟩,
      ⟨rfl, trivial⟩, ⟨trivial, trivial⟩, trivial⟩
    (by decide)

def resetWhileOn : List NetworkMove :=
  (NetworkCall.setKillSwitch true).alone 0 4 ++ (NetworkCall.onNetworkChanged true).alone 1 5

theorem reset_lifts_switch : Dominates .quiet ∧
      networkCalls.Follows Succeeds (.idle .quiet) resetWhileOn ∧
      (networkCalls.run (.idle .quiet) resetWhileOn).Resting ∧
      (networkCalls.run (.idle .quiet) resetWhileOn).shared.disableNetwork = [true, true, false] ∧
      ¬ Dominates (networkCalls.run (.idle .quiet) resetWhileOn).shared := by
  refine ⟨?_, ?_, by decide, by decide, fun dominates => ?_⟩
  · exact fun _ on => nomatch on
  · exact ⟨trivial, trivial, trivial, rfl, trivial, trivial, trivial, trivial,
      rfl, rfl, trivial, trivial⟩
  · exact absurd (dominates rfl rfl) (by decide)

end SChatCore.Transport
