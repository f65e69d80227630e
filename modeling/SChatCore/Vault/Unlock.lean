import SChatCore.Vault.Queue

namespace SChatCore.Vault

open Wire Store DropQueue

/-! Frames that arrive while the vault is locked, and the unlock that hands
them over. -/

/-- `handed` lists what was given to the ingest. -/
structure VaultedEngine where
  unlocked : Bool
  dir : List QueueFile
  handed : List QueuedDrop

structure UnlockReport where
  drained : Nat
  errors : Nat

section

variable (queue : DropQueue)

/-- The locked branch: whatever the queue says, the answer is `Queued`. -/
def ingestDrop (io : Writing) (drop : QueuedDrop)
    (vault : VaultedEngine) : Except VaultError Unit × VaultedEngine :=
  let (answer, dir) := queue.enqueue io drop vault.dir
  (answer.map fun _ => (), { vault with dir })

def unlock (io : Reading) (vault : VaultedEngine) :
    Except VaultError UnlockReport × VaultedEngine :=
  if vault.unlocked then (.ok ⟨0, 0⟩, vault)
  else if !io.opens then (.error .badDek, vault)
  else if !io.restores then (.error .pairing, vault)
  else
    match queue.drain io vault.dir with
    | (.error error, dir) => (.error error, { vault with dir })
    | (.ok drops, dir) =>
      (.ok ⟨drops.countP io.ingests, drops.countP fun drop =>
        !io.ingests drop⟩, ⟨true, dir, vault.handed ++ drops⟩)

/-- A file at rest that the next drain reads as `drop`. -/
def Waits (dir : List QueueFile) (drop : QueuedDrop) : Prop :=
  ∃ file ∈ dir, listed file.name = true ∧ queue.opened file = .ok drop

/-- There is room, the blob reads back, and its name is its own. -/
structure Storable (dir : List QueueFile) (drop : QueuedDrop) : Prop where
  room : queue.hasRoom dir (encodeBlob drop) = true
  named : drop.serviceId ≠ ""
  fits : Fits drop
  own : ∀ file ∈ dir, file.name = queue.fileName drop → queue.opened file = .ok drop

/-- If any file cannot be read, the oldest one cannot. -/
def Readable (io : Reading) (dir : List QueueFile) : Prop :=
  (∀ file ∈ filesOldestFirst dir, io.reads file = true) ∨
    (filesOldestFirst dir).head?.any (!io.reads ·) = true

/-- An unlock that succeeds hands over every accepted drop, one that fails
leaves them all at rest. -/
def Keeps (accepted : List QueuedDrop) : Except VaultError UnlockReport × VaultedEngine → Prop
  | (.ok _, after) => after.unlocked = true ∧
      ∀ drop ∈ accepted, drop ∈ after.handed
  | (.error _, after) => ∀ drop ∈ accepted, Waits queue after.dir drop

/-- Drops on the locked vault and attempts to unlock it, with the drops that
were answered `Queued`. -/
inductive Runs (first : VaultedEngine) :
    VaultedEngine → List QueuedDrop → Prop
  | refl : Runs first first []
  | drop {vault after : VaultedEngine} {accepted : List QueuedDrop}
      {io : Writing} {drop : QueuedDrop} {answer : Except VaultError Unit}
      (runs : Runs first vault accepted) (locked : vault.unlocked = false)
      (storable : Storable queue vault.dir drop)
      (answered : ingestDrop queue io drop vault = (answer, after)) :
      Runs first after (match answer with
        | .ok _ => drop :: accepted
        | .error _ => accepted)
  | unlock {vault : VaultedEngine} {accepted : List QueuedDrop} {io : Reading}
      (runs : Runs first vault accepted) (readable : Readable io vault.dir) :
      Runs first (unlock queue io vault).2 accepted

end

section

variable {queue : DropQueue}

theorem listed_fileName (named : drop.serviceId ≠ "") : listed (queue.fileName drop) = true := by
  cases text : drop.serviceId.toList with
  | nil => exact absurd (String.toList_eq_nil_iff.mp text) named
  | cons char rest =>
    simp only [listed, fileName, sanitize, text, List.map_cons,
      List.take_succ_cons, List.cons_append, List.head?_cons]
    split
    · rename_i plain
      have letter : char ≠ '.' := by
        rintro rfl
        revert plain
        decide
      simp [letter]
    · simp

theorem opened_wrap (fits : Fits drop) (name : List Char) (modified : Nat)
    (nonce : List.Vector UInt8 12) :
    queue.opened ⟨name, modified, queue.wrap nonce (encodeBlob drop)⟩ =
      .ok drop := by
  have length : nonce.toList.length = 12 := nonce.toList_length
  have unwrapped : queue.unwrapBlob (queue.wrap nonce (encodeBlob drop)) =
      .ok (encodeBlob drop) := by
    unfold unwrapBlob wrap
    rw [List.length_append, queue.key.length_encrypt, length,
      if_neg (by omega), List.take_left' length, List.drop_left' length, queue.key.decrypt_encrypt]
  rw [opened, unwrapped]
  exact decodeBlob_encodeBlob fits

theorem enqueue_of_room (io : Writing) (room : queue.hasRoom dir (encodeBlob drop) = true) :
    queue.enqueue io drop dir = (.error .io, dir) ∨ queue.enqueue io drop dir = (.ok true,
        dir.filter (·.name ≠ queue.fileName drop) ++ [⟨queue.fileName drop,
          io.modified, queue.wrap io.nonce (encodeBlob drop)⟩]) := by
  unfold enqueue
  rw [room]
  split
  · exact .inl rfl
  · rw [if_neg (by simp)]
    split
    · exact .inl rfl
    · exact .inr rfl

theorem waits_stored (storable : Storable queue dir drop) (modified : Nat)
    (nonce : List.Vector UInt8 12) (waits : other = drop ∨ Waits queue dir other) :
    Waits queue (dir.filter (·.name ≠ queue.fileName drop) ++ [⟨queue.fileName drop, modified,
        queue.wrap nonce (encodeBlob drop)⟩]) other := by
  have new : Waits queue (dir.filter (·.name ≠ queue.fileName drop) ++
      [⟨queue.fileName drop, modified, queue.wrap nonce (encodeBlob drop)⟩]) drop :=
    ⟨_, List.mem_append_right _ List.mem_cons_self,
      listed_fileName storable.named, opened_wrap storable.fits _ _ _⟩
  obtain rfl | ⟨file, mem, shown, reads⟩ := waits
  · exact new
  by_cases same : file.name = queue.fileName drop
  · -- a file of that name holds the same drop
    cases reads.symm.trans (storable.own file mem same)
    exact new
  · exact ⟨file, List.mem_append_left _ (List.mem_filter.mpr
      ⟨mem, by simpa using same⟩), shown, reads⟩

theorem drainFiles_ok (reads : ∀ file ∈ files, io.reads file = true) :
    (queue.drainFiles io files dir).1 =
      .ok (files.filterMap fun file => (queue.opened file).toOption) := by
  induction files generalizing dir with
  | nil => rfl
  | cons file rest ih =>
    have others := @ih (if io.removes file then dir.filter (·.name ≠ file.name) else dir)
      fun other mem => reads other (List.mem_cons_of_mem _ mem)
    rw [drainFiles, reads file List.mem_cons_self, List.filterMap_cons]
    cases queue.opened file with
    | ok drop | error error =>
      simp only [Bool.not_true, Bool.false_eq_true, if_false, others]
      rfl

theorem drain_of_readable {io : Reading} (readable : Readable io dir) :
    (∃ error, queue.drain io dir = (.error error, dir)) ∨
      ∃ drops after, queue.drain io dir = (.ok drops, after) ∧
        ∀ drop, Waits queue dir drop → drop ∈ drops := by
  unfold drain
  split
  · exact .inl ⟨_, rfl⟩
  obtain every | oldest := readable
  · refine .inr ⟨_, _, Prod.ext (drainFiles_ok every) rfl, ?_⟩
    rintro drop ⟨file, mem, shown, reads⟩
    refine List.mem_filterMap.mpr ⟨file, ?_, by rw [reads]; rfl⟩
    exact (List.mem_insertionSort _).mpr (List.mem_filter.mpr ⟨mem, shown⟩)
  · cases files : filesOldestFirst dir with
    | nil =>
      rw [files] at oldest
      cases oldest
    | cons file rest =>
      rw [files] at oldest
      exact .inl ⟨_, if_pos oldest⟩

theorem keeps_unlock (locked : vault.unlocked = false) (readable : Readable io vault.dir)
    (waits : ∀ drop ∈ accepted, Waits queue vault.dir drop) :
    Keeps queue accepted (unlock queue io vault) := by
  simp only [unlock, locked, Bool.false_eq_true, if_false]
  cases io.opens with
  | false => exact waits
  | true =>
  cases io.restores with
  | false => exact waits
  | true =>
  obtain ⟨error, failed⟩ | ⟨drops, after, drained, every⟩ := @drain_of_readable queue _ io readable
  · simp only [failed]
    exact waits
  · simp only [drained]
    exact ⟨rfl, fun drop mem => List.mem_append_right _ (every drop (waits drop mem))⟩

theorem waits_of_runs (runs : Runs queue first vault accepted) (locked : vault.unlocked = false) :
    ∀ drop ∈ accepted, Waits queue vault.dir drop := by
  induction runs with
  | refl => exact fun drop mem => nomatch mem
  | drop _ open_ storable answered ih =>
    have waits := ih open_
    obtain failed | stored := enqueue_of_room _ storable.room
    · rw [ingestDrop, failed] at answered
      cases answered
      exact waits
    · rw [ingestDrop, stored] at answered
      cases answered
      exact fun other mem => waits_stored storable _ _
        ((List.mem_cons.mp mem).imp_right (waits other))
  | @unlock vault accepted io _ readable ih =>
    cases open_ : vault.unlocked with
    | true => simp [unlock, open_] at locked
    | false =>
      have kept := keeps_unlock open_ readable (ih open_)
      cases attempt : unlock queue io vault with
      | mk result after =>
        rw [attempt] at kept locked
        cases result with
        | ok report => cases kept.1.symm.trans locked
        | error error => exact kept

end

/-- Every drop that was answered `Queued` is handed over by the first unlock
that succeeds; one that fails leaves them all at rest. -/
theorem queued_frames_kept {queue : DropQueue} {first vault : VaultedEngine}
    {accepted : List QueuedDrop} {io : Reading} (runs : Runs queue first vault accepted)
    (locked : vault.unlocked = false) (readable : Readable io vault.dir) :
    Keeps queue accepted (unlock queue io vault) :=
  keeps_unlock locked readable (waits_of_runs runs locked)

def plainKey : TierA where
  encrypt _ blob := blob ++ List.replicate 16 0
  decrypt _ wrapped := some (wrapped.take (wrapped.length - 16))
  length_encrypt _ _ := by simp
  decrypt_encrypt _ _ := by simp

def plainQueue : DropQueue := ⟨plainKey, fun _ => .replicate 32 0, 2048, 64 * 1024 * 1024⟩

def sealedVault : VaultedEngine := ⟨false, [], []⟩

def frameFor (serviceId : String) : QueuedDrop := ⟨serviceId, none, [7]⟩

def dropped (serviceId : String) (clock : Nat) (vault : VaultedEngine) :
    Except VaultError Unit × VaultedEngine :=
  ingestDrop plainQueue ⟨true, true, .replicate 12 0, clock⟩ (frameFor serviceId) vault

def readsOnly (reads : QueueFile → Bool) : Reading :=
  ⟨true, true, true, reads, fun _ => true, fun _ => true⟩

def wrongKey : Reading := { readsOnly fun _ => true with opens := false }

/-- One frame, an attempt with the wrong key, and a second frame. -/
def twoDropped : Except VaultError Unit × VaultedEngine :=
  dropped "b" 2 (unlock plainQueue wrongKey (dropped "a" 1 sealedVault).2).2

theorem both_frames_handed : Keeps plainQueue [frameFor "b", frameFor "a"]
    (unlock plainQueue (readsOnly fun _ => true) twoDropped.2) := by
  have first : Storable plainQueue [] (frameFor "a") :=
    ⟨by decide +kernel, by decide, ⟨by decide +kernel, by simp [frameFor], by decide⟩, by simp⟩
  have second : Storable plainQueue (dropped "a" 1 sealedVault).2.dir (frameFor "b") :=
    ⟨by decide +kernel, by decide, ⟨by decide +kernel, by simp [frameFor],
      by decide⟩, by decide +kernel⟩
  have stored : (dropped "a" 1 sealedVault).1 = .ok () := by decide +kernel
  have answered : twoDropped.1 = .ok () := by decide +kernel
  have failed := @Runs.unlock plainQueue sealedVault _ _ wrongKey
    (.drop .refl rfl first (Prod.ext stored rfl)) (.inl fun _ _ => rfl)
  exact queued_frames_kept (.drop failed rfl second (Prod.ext answered rfl))
    rfl (.inl fun _ _ => rfl)

/-- The second file cannot be read, and the first is gone. -/
def halfRead : Except VaultError UnlockReport × VaultedEngine :=
  unlock plainQueue (readsOnly fun file => file.name.head? = some 'a')
    (dropped "b" 2 (dropped "a" 1 sealedVault).2).2

theorem unread_file_loses_frame : (dropped "a" 1 sealedVault).1 = .ok () ∧
      (dropped "b" 2 (dropped "a" 1 sealedVault).2).1 = .ok () ∧
      halfRead.1.toOption.isNone = true ∧ halfRead.2.handed = [] ∧
      ¬ Waits plainQueue halfRead.2.dir (frameFor "a") := by
  unfold Waits
  decide +kernel

end SChatCore.Vault
