import SChatCore.Pairing.Stores

namespace SChatCore.Pairing

open Data Wire

/-! The handles through which the ratchet asks for trust and spends keys. -/

inductive KeyError
  | invalidKyberPreKeyId
  | invalidState (context detail : String)
  deriving DecidableEq

inductive RowError
  | noRows
  | failed (detail : String)

/-- The query for one identity. The database may fail to read. -/
def queryIdentity (stores : Stores) (owner address : String)
    (failure : Option String) : Except RowError Bytes :=
  match failure, (stores .identities).lookup (owner, address) with
  | some detail, _ => .error (.failed detail)
  | none, none => .error .noRows
  | none, some row => .ok row.record

section

variable [DecidableEq κ] (tryFrom : Bytes → Except String κ) (stores : Stores)
  (owner address : String) (failure : Option String)

def getIdentity : Except KeyError (Option κ) :=
  -- every error of the query counts as a missing row
  match (queryIdentity stores owner address failure).toOption with
  | none => .ok none
  | some blob =>
    match tryFrom blob with
    | .error detail => .error (.invalidState "get_identity" ("corrupt row: " ++ detail))
    | .ok key => .ok (some key)

def isTrustedIdentity (identity : κ) : Except KeyError Bool := do
  match ← getIdentity tryFrom stores owner address failure with
  | none => return true
  | some stored => return stored = identity

/-- Trust rests on what is stored, and a failed read gives none, exactly if the
read does not fail. -/
theorem trust_closed_iff (identity : κ) :
    ((isTrustedIdentity tryFrom stores owner address failure identity = .ok true →
      ∀ row, (stores .identities).lookup (owner, address) = some row →
        tryFrom row.record = .ok identity) ∧
      (failure ≠ none → isTrustedIdentity tryFrom stores owner address failure identity ≠
          .ok true)) ↔
      failure = none := by
  constructor
  · rintro ⟨-, closed⟩
    by_contra failed
    obtain ⟨detail, rfl⟩ := Option.ne_none_iff_exists'.mp failed
    exact closed failed rfl
  · rintro rfl
    refine ⟨fun trusted row found => ?_, fun failed => absurd rfl failed⟩
    unfold isTrustedIdentity getIdentity queryIdentity at trusted
    rw [found] at trusted
    simp only [Except.toOption] at trusted
    cases parsed : tryFrom row.record with
    | error detail =>
      rw [parsed] at trusted
      cases trusted
    | ok key =>
      rw [parsed] at trusted
      have same : decide (key = identity) = true := Except.ok.inj trusted
      rw [of_decide_eq_true same]

end

def pinned : Stores := Stores.empty.put .identities
  (Table.empty.upsert { owner := "r", id := "peer", record := [1] })

theorem unread_identity_trusted : (pinned .identities).lookup ("r", "peer") =
        some { owner := "r", id := "peer", record := [1] } ∧
      isTrustedIdentity .ok pinned "r" "peer" (some "disk I/O error") [2] =
        .ok true :=
  ⟨rfl, rfl⟩

/-! The last-resort key answers one first message only. -/

/-- The signed pre-key id and the serialised base key. -/
def usedTuple (use : UInt32 × Bytes) : Bytes := u32be use.1 ++ use.2

def markKyberPreKeyUsed (owner : String) (id : UInt32) (use : UInt32 × Bytes)
    (stores : Stores) : Except KeyError Unit × Stores :=
  match (stores .kyberPreKeys).lookup (owner, id) with
  | none => (.error .invalidKyberPreKeyId, stores)
  | some row =>
    match row.record.usedWith with
    | none => (.ok (), (StoreWrite.markKyberPreKeyUsed id (usedTuple use)).apply
        owner stores)
    | some existing =>
      if existing = usedTuple use then (.ok (), stores)
      else (.error (.invalidState "mark_kyber_pre_key_used"
        s!"kyber pre-key {id} reused with a different base key"), stores)

inductive KyberCall
  | save (owner : String) (id : UInt32) (record : Bytes)
  | mark (owner : String) (id : UInt32) (use : UInt32 × Bytes)
  | migrate (source target : String)

/-- One call, and where the record at `place` is afterwards. -/
def KyberCall.step (state : Stores × (String × UInt32)) : KyberCall → Stores × (String × UInt32)
  | save owner id record => (saveKyberPreKey owner id record state.1, state.2)
  | mark owner id use => ((markKyberPreKeyUsed owner id use state.1).2, state.2)
  | migrate source target =>
    let (went, stores) := migrateNamespace source target state.1
    (stores, if went ∧ state.2.1 = source then (target, state.2.2) else state.2)

/-- The record at `place` is pinned to `use`. -/
def Pinned (use : UInt32 × Bytes) (state : Stores × (String × UInt32)) :
    Prop :=
  ∃ row, (state.1 .kyberPreKeys).lookup state.2 = some row ∧
    row.record.usedWith = some (usedTuple use)

theorem usedTuple_injective : usedTuple.Injective := by
  rintro ⟨first, key⟩ ⟨second, other⟩ same
  obtain ⟨ids, rfl⟩ := List.append_inj same (by simp)
  have read := congrArg (UInt32.ofNat ∘ fromBeBytes) ids
  simp only [Function.comp_apply, ofNat_u32be] at read
  rw [read]

theorem mark_of_pinned (pinned : Pinned use (stores, place)) :
    markKyberPreKeyUsed place.1 place.2 other stores = if use = other then (.ok (), stores)
      else (.error (.invalidState "mark_kyber_pre_key_used"
        s!"kyber pre-key {place.2} reused with a different base key"),
        stores) := by
  obtain ⟨row, found, used⟩ := pinned
  unfold markKyberPreKeyUsed
  simp only [found, used, usedTuple_injective.eq_iff]

variable {id : UInt32}

theorem lookup_mark (found : (stores .kyberPreKeys).lookup place = some row) :
    ((StoreWrite.markKyberPreKeyUsed id tuple).apply owner stores .kyberPreKeys).lookup place =
      some (if place = (owner, id) then
        { row with record := { row.record with usedWith := some tuple } }
      else row) := by
  rw [StoreWrite.apply, put_self]
  refine (Table.lookup_update _).trans ?_
  rw [found, Option.map_some, ← (Table.lookup_eq_some.mp found).2]
  simp only [NamespacedRow.key, Prod.mk.injEq, Bool.and_eq_true, decide_eq_true_eq]

theorem pinned_of_mark (marked : (markKyberPreKeyUsed place.1 place.2 use stores).1 = .ok ()) :
    Pinned use ((markKyberPreKeyUsed place.1 place.2 use stores).2, place) := by
  unfold markKyberPreKeyUsed at marked ⊢
  split at marked
  · cases marked
  · rename_i row found
    split at marked
    · refine ⟨_, lookup_mark found, ?_⟩
      rw [if_pos rfl]
    · rename_i existing used
      split at marked
      · rename_i same
        simp only [if_pos same]
        exact ⟨row, found, used.trans (congrArg some same)⟩
      · cases marked

/-- A refused migration has not come to its last table. -/
theorem migrateTables_of_refused (unlisted : last ∉ tables)
    (refused : (migrateTables source target (tables ++ [last]) stores).1 = false) :
    (migrateTables source target (tables ++ [last]) stores).2 last =
      stores last := by
  induction tables generalizing stores with
  | nil =>
    rw [List.nil_append, migrateTables] at refused ⊢
    split at refused
    · rfl
    · cases refused
  | cons first rest ih =>
    rw [List.mem_cons, not_or] at unlisted
    rw [List.cons_append, migrateTables] at refused ⊢
    split at refused
    · rfl
    · rw [ih unlisted.2 refused, put_of_ne unlisted.1]

namespace Pinned

theorem save (pinned : Pinned use (stores, place)) :
    Pinned use (saveKyberPreKey owner id record stores, place) := by
  obtain ⟨row, found, used⟩ := pinned
  unfold Pinned saveKyberPreKey
  simp only [put_self, Table.lookup_upsert]
  split
  · rename_i same
    refine ⟨_, rfl, ?_⟩
    rw [show (owner, id) = place from same, found]
    exact used
  · exact ⟨row, found, used⟩

theorem mark (pinned : Pinned use (stores, place)) :
    Pinned use ((markKyberPreKeyUsed owner id other stores).2, place) := by
  obtain ⟨row, found, used⟩ := pinned
  unfold markKyberPreKeyUsed
  split
  · exact ⟨row, found, used⟩
  · rename_i taken hit
    split
    · rename_i unused
      -- an unused key is another record
      have differs : place ≠ (owner, id) := by
        rintro rfl
        cases hit.symm.trans found
        cases used.symm.trans unused
      refine ⟨_, lookup_mark found, ?_⟩
      rw [if_neg differs]
      exact used
    · split
      · exact ⟨row, found, used⟩
      · exact ⟨row, found, used⟩

theorem migrate (pinned : Pinned use state) :
    Pinned use ((KyberCall.migrate source target).step state) := by
  obtain ⟨row, found, used⟩ := pinned
  unfold Pinned KyberCall.step
  cases went : (migrateNamespace source target state.1).1 with
  | false =>
    have stays : (migrateNamespace source target state.1).2 .kyberPreKeys = state.1 .kyberPreKeys :=
      migrateTables_of_refused (by decide : .kyberPreKeys ∉ namespacedTables.take 5) went
    simp only [went, stays]
    exact ⟨row, found, used⟩
  | true =>
    obtain ⟨mem, own⟩ := Table.lookup_eq_some.mp found
    have went' : moved source target row ∈
        (migrateNamespace source target state.1).2 .kyberPreKeys := by
      rw [Table.mem_def, rows_migrateNamespace went]
      exact List.mem_map_of_mem mem
    refine ⟨_, Table.lookup_eq_some.mpr ⟨went', ?_⟩, ?_⟩
    · rw [← own]
      unfold moved NamespacedRow.key
      simp only [went, true_and]
      split
      · rfl
      · rfl
    · unfold moved
      split
      · exact used
      · exact used

theorem step (pinned : Pinned use state) (call : KyberCall) : Pinned use (call.step state) := by
  cases call with
  | save owner id record => exact pinned.save
  | mark owner id other => exact pinned.mark
  | migrate source target => exact pinned.migrate

end Pinned

/-- After a successful use, whatever is saved, marked or migrated, the record
takes this use again and no other. -/
theorem kyber_pinned (marked : (markKyberPreKeyUsed place.1 place.2 use stores).1 = .ok ())
    (calls : List KyberCall) :
    let after := calls.foldl KyberCall.step
      ((markKyberPreKeyUsed place.1 place.2 use stores).2, place)
    Pinned use after ∧ ∀ other, (markKyberPreKeyUsed after.2.1 after.2.2 other after.1).1 = .ok () ↔
        other = use := by
  intro after
  have pinned : Pinned use after :=
    List.foldlRecOn calls _ (pinned_of_mark marked) fun _ pinned call _ =>
      pinned.step call
  refine ⟨pinned, fun other => ?_⟩
  rw [mark_of_pinned pinned]
  split
  · rename_i same
    exact iff_of_true rfl same.symm
  · rename_i differs
    exact iff_of_false nofun fun same => differs same.symm

theorem migrated_key_refuses_other :
    let spent := markKyberPreKeyUsed "pending" 7 (1, [5])
      (saveKyberPreKey "pending" 7 [8] Stores.empty)
    let after := [.save "pending" 7 [9], .migrate "pending" "r"].foldl
      KyberCall.step (spent.2, ("pending", 7))
    spent.1 = .ok () ∧ after.2 = ("r", 7) ∧
      (markKyberPreKeyUsed "r" 7 (2, [5]) after.1).1 ≠ .ok () := by
  have pinned := @kyber_pinned ("pending", 7) (1, [5])
    (saveKyberPreKey "pending" 7 [8] Stores.empty) rfl
    [.save "pending" 7 [9], .migrate "pending" "r"]
  exact ⟨rfl, rfl, fun again =>
    absurd ((pinned.2 (2, [5])).mp again) (by decide)⟩

end SChatCore.Pairing
