import SChatCore.Data.Table
import SChatCore.Data.Tasks
import Mathlib.Logic.Function.Basic

namespace SChatCore.Transport

open Data

/-! Onion services: `host_service_with_auth` registers one, `publish_pending`
tells tor about those it does not run yet. -/

abbrev ServiceId := String

/-- A service key, by the service it was generated for and its number among
all keys; also the address made from it. -/
structure Onion where
  owner : ServiceId
  number : Nat
  deriving DecidableEq

structure HostedEntry where
  serviceId : ServiceId
  onion : Onion
  target : String
  clientAuth : List String
  published : Bool
  deriving DecidableEq

structure Registration where
  serviceId : ServiceId
  target : String
  clientAuth : List String
  deriving DecidableEq

def HostedEntry.registration (entry : HostedEntry) : Registration where
  serviceId := entry.serviceId
  target := entry.target
  clientAuth := entry.clientAuth

/-- `tor` is what the daemon runs: a target and the authorized clients. -/
structure Registry where
  online : Bool
  attached : Bool
  keys : ServiceId → Option Onion
  generated : Nat
  services : Table HostedEntry.serviceId
  tor : Onion → Option (String × List String)

namespace Registry

def unpublished (registry : Registry) : List Registration :=
  (registry.services.select fun entry => !entry.published).map HostedEntry.registration

def newKey (registry : Registry) (serviceId : ServiceId) : Onion where
  owner := serviceId
  number := registry.generated

def putKey (registry : Registry) (serviceId : ServiceId) (onion : Onion) :
    Registry :=
  { registry with keys := Function.update registry.keys serviceId (some onion) }

def insert (registry : Registry) (registration : Registration) (onion : Onion) : Registry :=
  { registry with
    services := registry.services.upsert {
      serviceId := registration.serviceId
      onion
      target := registration.target
      clientAuth := registration.clientAuth
      published := false } }

def mark (registry : Registry) (serviceId : ServiceId) : Registry :=
  { registry with
    services := registry.services.update (fun entry => entry.serviceId = serviceId)
      (fun entry => { entry with published := true }) fun _ => rfl }

def delOnion (registry : Registry) (onion : Onion) : Registry :=
  { registry with tor := Function.update registry.tor onion none }

def addOnion (registry : Registry) (onion : Onion) (registration : Registration) : Registry :=
  { registry with
    tor := Function.update registry.tor onion
      (some (registration.target, registration.clientAuth)) }

end Registry

inductive ServiceCall
  | hostServiceWithAuth (serviceId : ServiceId) (clientAuth : List String)
  | publishPending
  | setOnline (online : Bool)

/-- Where a call waits. `binding` to `inserting` register, the others are the
pass; `rest` are the entries the pass has yet to come to. -/
inductive ServiceWait
  | binding (serviceId : ServiceId) (clientAuth : List String)
  | fetching (registration : Registration)
  | storing (registration : Registration) (onion : Onion)
  | inserting (registration : Registration) (onion : Onion)
  | passing
  | listing
  | attaching (items : List Registration)
  | getting (item : Registration) (rest : List Registration)
  | deleting (item : Registration) (rest : List Registration) (onion : Onion)
  | adding (item : Registration) (rest : List Registration)
      (existing : Option Onion)
  | keeping (item : Registration) (rest : List Registration) (onion : Onion)
  | marking (item : Registration) (rest : List Registration)
  | refreshing
  | switching (online : Bool)

inductive ServiceEvent
  | done
  | failed
  | bound (port : Nat)
  | listed (items : List Registration)

def ServiceCall.enter : ServiceCall → ServiceWait
  | hostServiceWithAuth serviceId clientAuth => .binding serviceId clientAuth
  | publishPending => .passing
  | setOnline online => .switching online

namespace ServiceWait

def proceed : List Registration → ServiceWait
  | [] => .refreshing
  | item :: rest => .getting item rest

def items : ServiceWait → List Registration
  | attaching items => items
  | getting item rest => item :: rest
  | deleting item rest _ => item :: rest
  | adding item rest _ => item :: rest
  | keeping item rest _ => item :: rest
  | marking item rest => item :: rest
  | _ => []

@[simp] theorem items_proceed (items : List Registration) : (proceed items).items = items := by
  cases items <;> rfl

theorem proceed_ne_marking (items : List Registration) (item : Registration)
    (rest : List Registration) :
    proceed items ≠ .marking item rest := by
  cases items <;> exact fun same => nomatch same

end ServiceWait

/-- `OnionServiceManager::host_service` is `getting` to `keeping`. -/
def resumeService (event : ServiceEvent) (registry : Registry) :
    ServiceWait → Turn Registry ServiceWait
  | .binding serviceId clientAuth =>
    match event with
    | .bound port =>
      let target := s!"127.0.0.1:{port}"
      { shared := registry
        next := some (.fetching { serviceId, target, clientAuth }) }
    | _ => { shared := registry, next := none }
  | .fetching registration =>
    match event, registry.keys registration.serviceId with
    | .failed, _ => { shared := registry, next := none }
    | _, some onion => { shared := registry, next := some (.inserting registration onion) }
    | _, none =>
      { shared := { registry with generated := registry.generated + 1 }
        next := some (.storing registration
          (registry.newKey registration.serviceId)) }
  | .storing registration onion =>
    match event with
    | .failed => { shared := registry, next := none }
    | _ =>
      { shared := registry.putKey registration.serviceId onion
        next := some (.inserting registration onion) }
  | .inserting registration onion =>
    { shared := registry.insert registration onion, next := some .passing }
  | .passing =>
    if registry.online then { shared := registry, next := some .listing }
    else { shared := registry, next := none }
  | .listing =>
    match event with
    | .listed items =>
      -- A hash map lists its entries in any order.
      if items.isPerm registry.unpublished then
        if items.isEmpty then { shared := registry, next := none }
        else { shared := registry, next := some (.attaching items) }
      else { shared := registry, next := some .listing }
    | _ => { shared := registry, next := some .listing }
  | .attaching items =>
    if registry.attached then
      { shared := registry, next := some (.proceed items) }
    else { shared := registry, next := none }
  | .getting item rest =>
    match event, registry.keys item.serviceId with
    | .failed, _ => { shared := registry, next := some (.proceed rest) }
    | _, some onion => { shared := registry, next := some (.deleting item rest onion) }
    | _, none => { shared := registry, next := some (.adding item rest none) }
  | .deleting item rest onion =>
    match event with
    | .failed => { shared := registry, next := some (.adding item rest (some onion)) }
    | _ =>
      { shared := registry.delOnion onion
        next := some (.adding item rest (some onion)) }
  | .adding item rest existing =>
    match event, existing with
    | .failed, _ => { shared := registry, next := some (.proceed rest) }
    | _, some onion =>
      { shared := registry.addOnion onion item
        next := some (.marking item rest) }
    | _, none =>
      let onion := registry.newKey item.serviceId
      { shared := { registry.addOnion onion item with
          generated := registry.generated + 1 }
        next := some (.keeping item rest onion) }
  | .keeping item rest onion =>
    match event with
    | .failed => { shared := registry, next := some (.proceed rest) }
    | _ =>
      { shared := registry.putKey item.serviceId onion
        next := some (.marking item rest) }
  | .marking item rest => { shared := registry.mark item.serviceId, next := some (.proceed rest) }
  | .refreshing => { shared := registry, next := none }
  | .switching online => { shared := { registry with online }, next := none }

def serviceCalls : Program ServiceCall Registry ServiceWait ServiceEvent where
  enter := ServiceCall.enter
  resume := resumeService

abbrev ServicePool := Pool Registry ServiceWait

abbrev ServiceMove := Move ServiceCall ServiceEvent

/-- Tor runs every published entry as it is registered. -/
def Agrees (registry : Registry) : Prop :=
  ∀ entry ∈ registry.services, entry.published = true →
    registry.tor entry.onion = some (entry.target, entry.clientAuth)

def Adds (pool : ServicePool) : ServiceMove → Prop
  | .start _ => True
  | .resume place event =>
    match pool.taskAt place with
    | some (.adding _ _ _) => event ≠ .failed
    | _ => True

def Free (pool : ServicePool) (serviceId : ServiceId) : Prop :=
  ∀ slot ∈ pool.tasks, ∀ item ∈ (slot.map ServiceWait.items).getD [], item.serviceId ≠ serviceId

instance (pool : ServicePool) (serviceId : ServiceId) : Decidable (Free pool serviceId) :=
  inferInstanceAs (Decidable (∀ slot ∈ pool.tasks,
    ∀ item ∈ (slot.map ServiceWait.items).getD [], item.serviceId ≠ serviceId))

/-- An entry is replaced only while no pass has it on its list, and a key is
stored only where there is none. -/
def Orderly (pool : ServicePool) : ServiceMove → Prop
  | .start _ => True
  | .resume place _ =>
    match pool.taskAt place with
    | some (.storing registration _) => pool.shared.keys registration.serviceId = none
    | some (.inserting registration _) => Free pool registration.serviceId
    | _ => True

/-! The invariant: what a pass carries is what is registered, and a published
entry is run by tor unless a pass is about to add it again. -/

namespace Registry

def Matches (registry : Registry) (item : Registration) : Prop :=
  ∃ entry, registry.services.lookup item.serviceId = some entry ∧ entry.registration = item

/-- What a wait assumes about the key it carries. -/
def Fits (registry : Registry) : ServiceWait → Prop
  | .storing registration onion => onion.owner = registration.serviceId
  | .inserting registration onion => registry.keys registration.serviceId = some onion
  | .deleting item _ onion => registry.keys item.serviceId = some onion
  | .adding item _ existing => existing.isSome ∧ registry.keys item.serviceId = existing
  | .keeping _ _ _ => False
  | _ => True

def Keyed (registry : Registry) : Prop :=
  ∀ serviceId entry, registry.services.lookup serviceId = some entry →
    registry.keys serviceId = some entry.onion

def Owned (registry : Registry) : Prop :=
  ∀ serviceId onion, registry.keys serviceId = some onion → onion.owner = serviceId

def KeepsKeys (before after : Registry) : Prop :=
  ∀ serviceId onion, before.keys serviceId = some onion → after.keys serviceId = some onion

def Alike (before after : Registry) : Prop :=
  after.services = before.services ∧ after.tor = before.tor ∧ after.keys = before.keys

variable {before after registry : Registry}

theorem Alike.refl : registry.Alike registry := ⟨rfl, rfl, rfl⟩

theorem Fits.mono (fits : before.Fits wait) (keeps : KeepsKeys before after) :
    after.Fits wait := by
  cases wait with
  | storing => exact fits
  | inserting => exact keeps _ _ fits
  | deleting => exact keeps _ _ fits
  | adding item rest existing =>
    obtain ⟨known, stored⟩ := fits
    cases existing with
    | none => cases known
    | some onion => exact ⟨rfl, keeps _ _ stored⟩
  | keeping => exact fits
  | _ => trivial

theorem fits_proceed (items : List Registration) : registry.Fits (.proceed items) := by
  cases items <;> trivial

theorem keys_putKey (other : ServiceId) : (registry.putKey serviceId onion).keys other =
      if other = serviceId then some onion else registry.keys other :=
  Function.update_apply _ _ _ _

theorem tor_delOnion (other : Onion) : (registry.delOnion onion).tor other =
      if other = onion then none else registry.tor other :=
  Function.update_apply _ _ _ _

theorem tor_addOnion (other : Onion) : (registry.addOnion onion item).tor other =
      if other = onion then some (item.target, item.clientAuth)
      else registry.tor other :=
  Function.update_apply _ _ _ _

theorem keepsKeys_putKey (fresh : registry.keys serviceId = none) :
    KeepsKeys registry (registry.putKey serviceId onion) := by
  intro other known stored
  have apart : other ≠ serviceId := by
    rintro rfl
    rw [fresh] at stored
    cases stored
  rw [keys_putKey, if_neg apart, stored]

theorem lookup_insert (registration : Registration) (other : ServiceId) :
    (registry.insert registration onion).services.lookup other =
      if registration.serviceId = other then
        some ⟨registration.serviceId, onion, registration.target, registration.clientAuth, false⟩
      else registry.services.lookup other :=
  Table.lookup_upsert _ _ _

theorem lookup_mark (other : ServiceId) :
    (registry.mark serviceId).services.lookup other = if other = serviceId then
        (registry.services.lookup serviceId).map fun entry => { entry with published := true }
      else registry.services.lookup other :=
  Table.lookup_update_key _ _ (fun _ => by rfl)

theorem Matches.insert (matched : registry.Matches item)
    (apart : item.serviceId ≠ registration.serviceId) :
    (registry.insert registration onion).Matches item := by
  obtain ⟨entry, found, same⟩ := matched
  exact ⟨entry, by rw [lookup_insert, if_neg apart.symm, found], same⟩

theorem Matches.mark (matched : registry.Matches item) :
    (registry.mark serviceId).Matches item := by
  obtain ⟨entry, found, same⟩ := matched
  by_cases own : item.serviceId = serviceId
  · refine ⟨{ entry with published := true }, ?_, same⟩
    rw [lookup_mark, if_pos own, ← own, found]
    rfl
  · exact ⟨entry, by rw [lookup_mark, if_neg own, found], same⟩

theorem matches_of_unpublished (listed : item ∈ registry.unpublished) :
    registry.Matches item := by
  obtain ⟨entry, chosen, rfl⟩ := List.mem_map.mp listed
  exact ⟨entry, Table.lookup_key (Table.mem_select.mp chosen).1, rfl⟩

end Registry

def Adding (pool : ServicePool) (serviceId : ServiceId) : Prop :=
  ∃ place item rest existing, pool.taskAt place = some (.adding item rest existing) ∧
      item.serviceId = serviceId

def Marking (pool : ServicePool) (serviceId : ServiceId) : Prop :=
  ∃ place item rest, pool.taskAt place = some (.marking item rest) ∧ item.serviceId = serviceId

def Live (pool : ServicePool) (serviceId : ServiceId) (entry : HostedEntry) :
    Prop :=
  pool.shared.tor entry.onion = some (entry.target, entry.clientAuth) ∨ Adding pool serviceId

structure Sound (pool : ServicePool) : Prop where
  keyed : pool.shared.Keyed
  owned : pool.shared.Owned
  fits : ∀ place wait, pool.taskAt place = some wait → pool.shared.Fits wait
  held : ∀ place wait, pool.taskAt place = some wait → ∀ item ∈ wait.items, pool.shared.Matches item
  live : ∀ serviceId entry, pool.shared.services.lookup serviceId = some entry →
    entry.published = true ∨ Marking pool serviceId → Live pool serviceId entry

theorem Sound.agrees (sound : Sound pool) (resting : pool.Resting) : Agrees pool.shared := by
  intro entry mem published
  rcases sound.live entry.serviceId entry (Table.lookup_key mem)
    (.inl published) with runs | ⟨place, item, rest, existing, found, -⟩
  · exact runs
  · rw [resting.taskAt] at found
    cases found

theorem Sound.idle (keyed : registry.Keyed) (owned : registry.Owned)
    (agrees : Agrees registry) : Sound (.idle registry) where
  keyed := keyed
  owned := owned
  fits _ _ found := nomatch found
  held _ _ found := nomatch found
  live serviceId entry found published := by
    rcases published with published | ⟨place, item, rest, marking, -⟩
    · exact .inl (agrees entry (Table.lookup_eq_some.mp found).1 published)
    · cases marking

theorem Sound.add (sound : Sound pool) (call : ServiceCall) : Sound (pool.add call.enter) where
  keyed := sound.keyed
  owned := sound.owned
  fits place wait found := by
    rcases Pool.taskAt_add_cases found with known | rfl
    · exact sound.fits place wait known
    · cases call <;> trivial
  held place wait found := by
    rcases Pool.taskAt_add_cases found with known | rfl
    · exact sound.held place wait known
    · cases call <;> exact fun item mem => by cases mem
  live serviceId entry found published := by
    have before : entry.published = true ∨ Marking pool serviceId := by
      refine published.imp_right ?_
      rintro ⟨place, item, rest, marking, same⟩
      rcases Pool.taskAt_add_cases marking with known | new
      · exact ⟨place, item, rest, known, same⟩
      · cases call <;> cases new
    refine (sound.live serviceId entry found before).imp_right ?_
    rintro ⟨place, item, rest, existing, adding, same⟩
    exact ⟨place, item, rest, existing, Pool.taskAt_add adding _, same⟩

theorem Adding.take (adding : Adding pool serviceId) (found : pool.taskAt place = some wait)
    (own : ∀ item rest existing, wait = .adding item rest existing → item.serviceId ≠ serviceId) :
    Adding (pool.take place turn) serviceId := by
  obtain ⟨other, item, rest, existing, at_other, same⟩ := adding
  refine ⟨other, item, rest, existing, ?_, same⟩
  refine Pool.taskAt_take_of_ne ?_ at_other
  rintro rfl
  have mine : wait = .adding item rest existing := Option.some.inj (found.symm.trans at_other)
  exact own item rest existing mine same

theorem Marking.of_take (marking : Marking (pool.take place turn) serviceId)
    (started : turn.started = [])
    (own : ∀ item rest, turn.next = some (.marking item rest) → item.serviceId ≠ serviceId) :
    Marking pool serviceId := by
  obtain ⟨other, item, rest, at_other, same⟩ := marking
  rcases Pool.taskAt_take_cases at_other with
    ⟨-, known⟩ | ⟨-, next⟩ | new
  · exact ⟨other, item, rest, known, same⟩
  · exact absurd same (own item rest next)
  · rw [started] at new
    cases new

/-- A turn that keeps the keys, the entries other passes carry and what is
live keeps the invariant. -/
theorem Sound.take (sound : Sound pool) (started : turn.started = [])
    (keys : pool.shared.KeepsKeys turn.shared)
    (keyed : turn.shared.Keyed) (owned : turn.shared.Owned)
    (entries : ∀ other waiting, pool.taskAt other = some waiting →
      ∀ item ∈ waiting.items, turn.shared.Matches item)
    (next : ∀ waiting, turn.next = some waiting → turn.shared.Fits waiting ∧
      ∀ item ∈ waiting.items, turn.shared.Matches item)
    (live : ∀ serviceId entry, turn.shared.services.lookup serviceId = some entry →
      entry.published = true ∨ Marking (pool.take place turn) serviceId →
        Live (pool.take place turn) serviceId entry) :
    Sound (pool.take place turn) := by
  have tasks : ∀ other waiting, (pool.take place turn).taskAt other = some waiting →
      turn.shared.Fits waiting ∧ ∀ item ∈ waiting.items, turn.shared.Matches item := by
    intro other waiting found
    rcases Pool.taskAt_take_cases found with ⟨-, known⟩ | ⟨-, own⟩ | new
    · exact ⟨(sound.fits other waiting known).mono keys, entries other waiting known⟩
    · exact next waiting own
    · rw [started] at new
      cases new
  exact {
    keyed, owned, live
    fits := fun other waiting found => (tasks other waiting found).1
    held := fun other waiting found => (tasks other waiting found).2 }

theorem Sound.take_quiet (sound : Sound pool)
    (found : pool.taskAt place = some wait) (started : turn.started = [])
    (services : turn.shared.services = pool.shared.services)
    (tor : turn.shared.tor = pool.shared.tor)
    (keys : pool.shared.KeepsKeys turn.shared) (owned : turn.shared.Owned)
    (notAdding : ∀ item rest existing, wait ≠ .adding item rest existing)
    (notMarking : ∀ item rest, turn.next ≠ some (.marking item rest))
    (next : ∀ waiting, turn.next = some waiting → turn.shared.Fits waiting ∧
      ∀ item ∈ waiting.items, pool.shared.Matches item) :
    Sound (pool.take place turn) := by
  have carried : ∀ item, pool.shared.Matches item →
      turn.shared.Matches item := by
    intro item matched
    unfold Registry.Matches
    rw [services]
    exact matched
  refine sound.take started keys ?_ owned ?_ ?_ ?_
  · intro serviceId entry stored
    rw [services] at stored
    exact keys _ _ (sound.keyed serviceId entry stored)
  · exact fun other waiting known item mem =>
      carried item (sound.held other waiting known item mem)
  · exact fun waiting own => (next waiting own).imp_right
      fun held item mem => carried item (held item mem)
  · intro serviceId entry stored published
    rw [services] at stored
    have before := published.imp_right fun marking =>
      Marking.of_take marking started fun item rest own _ =>
        notMarking item rest own
    rcases sound.live serviceId entry stored before with runs | adding
    · exact .inl ((congrFun tor _).trans runs)
    · exact .inr (adding.take found fun item rest existing own _ =>
        notAdding item rest existing own)

theorem Sound.storing (sound : Sound pool)
    (found : pool.taskAt place = some (.storing registration onion))
    (fresh : pool.shared.keys registration.serviceId = none) :
    Sound (pool.take place
      { shared := pool.shared.putKey registration.serviceId onion
        next := some (.inserting registration onion) }) := by
  refine sound.take_quiet found rfl rfl rfl (Registry.keepsKeys_putKey fresh)
    ?_ (fun _ _ _ own => nomatch own) (fun _ _ own => nomatch own) ?_
  · intro other known stored
    rw [Registry.keys_putKey] at stored
    split at stored
    next same =>
      cases stored
      exact same ▸ sound.fits place _ found
    next => exact sound.owned other known stored
  · rintro waiting ⟨⟩
    refine ⟨?_, fun item mem => by cases mem⟩
    exact (Registry.keys_putKey _).trans (if_pos rfl)

theorem Free.ne (free : Free pool serviceId)
    (found : pool.taskAt place = some wait) (mem : item ∈ wait.items) :
    item.serviceId ≠ serviceId :=
  free (some wait) (Pool.mem_of_taskAt found) item mem

theorem Sound.inserting (sound : Sound pool)
    (found : pool.taskAt place = some (.inserting registration onion))
    (free : Free pool registration.serviceId) :
    Sound (pool.take place
      { shared := pool.shared.insert registration onion
        next := some .passing }) := by
  have notMarking : ∀ item rest, some ServiceWait.passing =
      some (.marking item rest) → False := fun _ _ own => by cases own
  refine sound.take rfl (fun _ _ stored => stored) ?_ sound.owned ?_ ?_ ?_
  · intro serviceId entry stored
    rw [Registry.lookup_insert] at stored
    split at stored
    next same =>
      cases stored
      exact same ▸ sound.fits place _ found
    next => exact sound.keyed serviceId entry stored
  · intro other waiting known item mem
    exact (sound.held other waiting known item mem).insert (free.ne known mem)
  · rintro waiting ⟨⟩
    exact ⟨trivial, fun item mem => by cases mem⟩
  · intro serviceId entry stored published
    have before := published.imp_right fun marking =>
      Marking.of_take marking rfl fun item rest own _ =>
        notMarking item rest own
    rw [Registry.lookup_insert] at stored
    split at stored
    next same =>
      cases stored
      rcases before with published | ⟨other, item, rest, marking, mine⟩
      · cases published
      · exact absurd (mine.trans same.symm) (free.ne marking List.mem_cons_self)
    next =>
      exact (sound.live serviceId entry stored before).imp id
        fun adding => adding.take found fun _ _ _ own _ => by cases own

theorem Sound.onion_ne (sound : Sound pool) (stored : pool.shared.keys other = some onion)
    (found : pool.shared.services.lookup serviceId = some entry)
    (apart : serviceId ≠ other) : entry.onion ≠ onion := by
  intro same
  have mine := sound.owned _ _ (sound.keyed serviceId entry found)
  have theirs := sound.owned _ _ stored
  exact apart (mine.symm.trans ((congrArg Onion.owner same).trans theirs))

theorem Sound.deleting (sound : Sound pool)
    (found : pool.taskAt place = some (.deleting item rest onion))
    (deleted : registry = pool.shared ∨ registry = pool.shared.delOnion onion) :
    Sound (pool.take place
      { shared := registry
        next := some (.adding item rest (some onion)) }) := by
  have stored : pool.shared.keys item.serviceId = some onion := sound.fits place _ found
  have services : registry.services = pool.shared.services := by
    rcases deleted with rfl | rfl <;> rfl
  have keys : registry.keys = pool.shared.keys := by rcases deleted with rfl | rfl <;> rfl
  have carried : ∀ item, pool.shared.Matches item → registry.Matches item := by
    intro item matched
    unfold Registry.Matches
    rw [services]
    exact matched
  refine sound.take rfl (fun _ _ known => (congrFun keys _).trans known) ?_ ?_ ?_ ?_ ?_
  · intro serviceId entry known
    rw [services] at known
    exact (congrFun keys _).trans (sound.keyed serviceId entry known)
  · exact fun serviceId known held =>
      sound.owned serviceId known ((congrFun keys _).symm.trans held)
  · exact fun other waiting known item mem =>
      carried item (sound.held other waiting known item mem)
  · rintro waiting ⟨⟩
    exact ⟨⟨rfl, (congrFun keys _).trans stored⟩, fun item mem =>
      carried item (sound.held place _ found item mem)⟩
  · intro serviceId entry known published
    rw [services] at known
    by_cases same : serviceId = item.serviceId
    · refine .inr ⟨place, item, rest, some onion, ?_, same.symm⟩
      exact Pool.taskAt_take_self (Pool.lt_of_taskAt found)
    · have before := published.imp_right fun marking =>
        Marking.of_take marking rfl fun _ _ own => by cases own
      have apart := sound.onion_ne stored known same
      have view : registry.tor entry.onion = pool.shared.tor entry.onion := by
        rcases deleted with rfl | rfl
        · rfl
        · rw [Registry.tor_delOnion, if_neg apart]
      exact (sound.live serviceId entry known before).imp view.trans
        fun adding => adding.take found fun _ _ _ own _ => by cases own

theorem Sound.adding (sound : Sound pool)
    (found : pool.taskAt place = some (.adding item rest (some onion))) :
    Sound (pool.take place
      { shared := pool.shared.addOnion onion item
        next := some (.marking item rest) }) := by
  have stored : pool.shared.keys item.serviceId = some onion := (sound.fits place _ found).2
  refine sound.take rfl (fun _ _ known => known) sound.keyed sound.owned sound.held ?_ ?_
  · rintro waiting ⟨⟩
    exact ⟨trivial, fun carried mem => sound.held place _ found carried mem⟩
  · intro serviceId entry known published
    by_cases same : serviceId = item.serviceId
    · subst same
      obtain ⟨registered, matched, carried⟩ := sound.held place _ found item List.mem_cons_self
      obtain rfl : registered = entry := Option.some.inj (matched.symm.trans known)
      have mine : registered.onion = onion := Option.some.inj
        ((sound.keyed item.serviceId registered known).symm.trans stored)
      refine .inl ((Registry.tor_addOnion _).trans ?_)
      rw [if_pos mine, ← carried]
      rfl
    · have before := published.imp_right fun marking =>
        Marking.of_take marking rfl fun marked _ own mine => by
          cases own
          exact same mine.symm
      have view : (pool.shared.addOnion onion item).tor entry.onion =
          pool.shared.tor entry.onion := by
        rw [Registry.tor_addOnion, if_neg (sound.onion_ne stored known same)]
      refine (sound.live serviceId entry known before).imp view.trans
        fun adding => adding.take found ?_
      rintro _ _ _ ⟨⟩ mine
      exact same mine.symm

theorem Sound.marking (sound : Sound pool) (found : pool.taskAt place = some (.marking item rest)) :
    Sound (pool.take place
      { shared := pool.shared.mark item.serviceId
        next := some (.proceed rest) }) := by
  refine sound.take rfl (fun _ _ known => known) ?_ sound.owned ?_ ?_ ?_
  · intro serviceId entry known
    rw [Registry.lookup_mark] at known
    split at known
    next same =>
      obtain ⟨registered, matched, rfl⟩ := Option.map_eq_some_iff.mp known
      exact same ▸ sound.keyed item.serviceId registered matched
    next => exact sound.keyed serviceId entry known
  · exact fun other waiting known carried mem =>
      (sound.held other waiting known carried mem).mark
  · rintro waiting ⟨⟩
    refine ⟨Registry.fits_proceed rest, fun carried mem => ?_⟩
    rw [ServiceWait.items_proceed] at mem
    exact (sound.held place _ found carried (List.mem_cons_of_mem _ mem)).mark
  · intro serviceId entry known published
    have before := published.imp_right fun marking =>
      Marking.of_take marking rfl fun marked others own _ =>
        ServiceWait.proceed_ne_marking rest marked others (Option.some.inj own)
    have kept : Adding pool serviceId → Adding (pool.take place
        { shared := pool.shared.mark item.serviceId
          next := some (.proceed rest) }) serviceId :=
      fun adding => adding.take found fun _ _ _ own _ => by cases own
    rw [Registry.lookup_mark] at known
    split at known
    next same =>
      subst same
      obtain ⟨registered, matched, rfl⟩ := Option.map_eq_some_iff.mp known
      exact (sound.live item.serviceId registered matched
        (.inr ⟨place, item, rest, found, rfl⟩)).imp id kept
    next => exact (sound.live serviceId entry known before).imp id kept

theorem Sound.pause (sound : Sound pool) (found : pool.taskAt place = some wait)
    (alike : pool.shared.Alike registry)
    (notAdding : ∀ item rest existing, wait ≠ .adding item rest existing)
    (assumed : ∀ waiting, next = some waiting →
      (∀ item rest, waiting ≠ .marking item rest) ∧ pool.shared.Fits waiting ∧
        ∀ item ∈ waiting.items, pool.shared.Matches item) :
    Sound (pool.take place { shared := registry, next }) := by
  obtain ⟨services, tor, keys⟩ := alike
  have keeps : pool.shared.KeepsKeys registry := fun _ _ known => (congrFun keys _).trans known
  refine sound.take_quiet found rfl services tor keeps ?_ notAdding ?_ fun waiting own => ?_
  · exact fun _ _ known => sound.owned _ _ ((congrFun keys _).symm.trans known)
  · exact fun item rest own => (assumed _ own).1 item rest rfl
  · exact (assumed waiting own).2.imp_left fun fits => fits.mono keeps

theorem Sound.resume (sound : Sound pool) (found : pool.taskAt place = some wait)
    (adds : Adds pool (.resume place event)) (orderly : Orderly pool (.resume place event)) :
    Sound (pool.take place (resumeService event pool.shared wait)) := by
  have ends : ∀ {registry : Registry}, pool.shared.Alike registry →
      (∀ item rest existing, wait ≠ .adding item rest existing) →
      Sound (pool.take place { shared := registry, next := none }) :=
    fun alike notAdding =>
      sound.pause found alike notAdding fun _ own => nomatch own
  have stays : ∀ {registry : Registry} {waiting : ServiceWait}, pool.shared.Alike registry →
      (∀ item rest existing, wait ≠ .adding item rest existing) →
      (∀ item rest, waiting ≠ .marking item rest) →
      pool.shared.Fits waiting →
      (∀ item ∈ waiting.items, pool.shared.Matches item) →
      Sound (pool.take place { shared := registry, next := some waiting }) :=
    fun alike notAdding notMarking fits held =>
      sound.pause found alike notAdding fun _ own =>
        Option.some.inj own ▸ ⟨notMarking, fits, held⟩
  have held := sound.held place _ found
  simp only [Adds, Orderly, found] at adds orderly
  cases wait with
  | binding serviceId clientAuth | passing =>
    simp only [resumeService]
    split
    · exact stays .refl nofun nofun trivial nofun
    · exact ends .refl nofun
  | fetching registration =>
    simp only [resumeService]
    split
    next => exact ends .refl nofun
    next stored => exact stays .refl nofun nofun stored nofun
    next => exact stays ⟨rfl, rfl, rfl⟩ nofun nofun rfl nofun
  | storing registration onion =>
    simp only [resumeService]
    split
    · exact ends .refl nofun
    · exact sound.storing found orderly
  | inserting registration onion => exact sound.inserting found orderly
  | listing =>
    simp only [resumeService]
    split
    next items =>
      split
      next listed =>
        split
        · exact ends .refl nofun
        · refine stays .refl nofun nofun trivial fun item mem => ?_
          exact Registry.matches_of_unpublished ((List.isPerm_iff.mp listed).mem_iff.mp mem)
      next => exact stays .refl nofun nofun trivial nofun
    next => exact stays .refl nofun nofun trivial nofun
  | attaching items =>
    simp only [resumeService]
    split
    · refine stays .refl nofun (ServiceWait.proceed_ne_marking items)
        (Registry.fits_proceed items) fun item mem => ?_
      exact held item (ServiceWait.items_proceed items ▸ mem)
    · exact ends .refl nofun
  | getting item rest =>
    simp only [resumeService]
    split
    next =>
      refine stays .refl nofun (ServiceWait.proceed_ne_marking rest)
        (Registry.fits_proceed rest) fun carried mem => ?_
      exact held carried (List.mem_cons_of_mem _ (ServiceWait.items_proceed rest ▸ mem))
    next stored => exact stays .refl nofun nofun stored held
    next absent =>
      obtain ⟨entry, registered, -⟩ := held item List.mem_cons_self
      exact absurd ((sound.keyed _ _ registered).symm.trans absent) nofun
  | deleting item rest onion =>
    simp only [resumeService]
    split
    · exact sound.deleting found (.inl rfl)
    · exact sound.deleting found (.inr rfl)
  | adding item rest existing =>
    simp only [resumeService]
    split
    next => exact absurd rfl adds
    next => exact sound.adding found
    next => exact nomatch (sound.fits place _ found).1
  | keeping item rest onion => exact (sound.fits place _ found).elim
  | marking item rest => exact sound.marking found
  | refreshing => exact ends .refl nofun
  | switching online => exact ends ⟨rfl, rfl, rfl⟩ nofun

/-- If entries are replaced only while no pass has them on its list, tor runs
every published service as registered whenever no call is under way. -/
theorem agrees_of_orderly {registry : Registry} {moves : List ServiceMove}
    (keyed : registry.Keyed) (owned : registry.Owned) (agrees : Agrees registry)
    (follows : serviceCalls.Follows (fun pool move => Adds pool move ∧ Orderly pool move)
      (.idle registry) moves)
    (resting : (serviceCalls.run (.idle registry) moves).Resting) :
    Agrees (serviceCalls.run (.idle registry) moves).shared := by
  refine Sound.agrees ?_ resting
  refine Program.holds_run ?_ ?_ follows (.idle keyed owned agrees)
  · exact fun pool call _ sound => sound.add call
  · intro pool place event wait found permitted sound
    exact sound.resume found permitted.1 permitted.2

def Registry.empty : Registry where
  online := true
  attached := true
  keys := fun _ => none
  generated := 0
  services := .empty
  tor := fun _ => none

/-- An open service on port 1 and a pass that is about to add it. -/
def hostOpen : List ServiceMove :=
  [.start (.hostServiceWithAuth "a" []), .resume 0 (.bound 1),
    .resume 0 .done, .resume 0 .done, .resume 0 .done, .resume 0 .done,
    .resume 0 (.listed [⟨"a", "127.0.0.1:1", []⟩]),
    .resume 0 .done, .resume 0 .done, .resume 0 .done]

def finishPass : List ServiceMove := [.resume 0 .done, .resume 0 .done, .resume 0 .done]

theorem agrees_after_hosting :
    Agrees (serviceCalls.run (.idle .empty) (hostOpen ++ finishPass)).shared :=
  agrees_of_orderly nofun nofun nofun ⟨⟨trivial, trivial⟩, ⟨trivial, trivial⟩, ⟨trivial, trivial⟩,
      ⟨trivial, rfl⟩, ⟨trivial, show Free _ "a" by decide⟩,
      ⟨trivial, trivial⟩,
      ⟨trivial, trivial⟩, ⟨trivial, trivial⟩, ⟨trivial, trivial⟩,
      ⟨trivial, trivial⟩, ⟨nofun, trivial⟩, ⟨trivial, trivial⟩,
      ⟨trivial, trivial⟩, trivial⟩
    (by decide)

/-- The same service, restricted, on port 2, while that pass waits for tor. -/
def rehostRestricted : List ServiceMove :=
  hostOpen ++ [.start (.hostServiceWithAuth "a" ["k"]), .resume 1 (.bound 2),
      .resume 1 .done, .resume 1 .done] ++
    finishPass ++ [.resume 1 .done, .resume 1 (.listed [])]

theorem rehosted_service_runs_open : serviceCalls.Follows Adds (.idle .empty) rehostRestricted ∧
      (serviceCalls.run (.idle .empty) rehostRestricted).Resting ∧
      (serviceCalls.run (.idle .empty) rehostRestricted).shared.services.lookup
        "a" = some ⟨"a", ⟨"a", 0⟩, "127.0.0.1:2", ["k"], true⟩ ∧
      (serviceCalls.run (.idle .empty) rehostRestricted).shared.tor ⟨"a", 0⟩ =
        some ("127.0.0.1:1", []) ∧
      ¬ Agrees (serviceCalls.run (.idle .empty) rehostRestricted).shared := by
  have registered : (serviceCalls.run (.idle .empty) rehostRestricted).shared.services.lookup "a" =
        some ⟨"a", ⟨"a", 0⟩, "127.0.0.1:2", ["k"], true⟩ := by
    decide
  have runs : (serviceCalls.run (.idle .empty) rehostRestricted).shared.tor
      ⟨"a", 0⟩ = some ("127.0.0.1:1", []) := by
    decide
  refine ⟨?_, by decide, registered, runs, fun agrees => ?_⟩
  · exact ⟨trivial, trivial, trivial, trivial, trivial, trivial, trivial,
      trivial, trivial, trivial, trivial, trivial, trivial, trivial, nofun,
      trivial, trivial, trivial, trivial, trivial⟩
  · have wanted := agrees _ (Table.lookup_eq_some.mp registered).1 rfl
    exact absurd (runs.symm.trans wanted) (by decide)

end SChatCore.Transport
