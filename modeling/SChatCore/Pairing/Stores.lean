import SChatCore.Store.Schema

namespace SChatCore.Pairing

open Data Wire

/-! The stores of the ratchet. Every row belongs to a namespace: the id of a
relationship, or `pending` for the one outstanding invitation. -/

def pendingNamespace : String := "pending"

structure NamespacedRow (κ ρ : Type) where
  owner : String
  id : κ
  record : ρ
  deriving DecidableEq

def NamespacedRow.key (row : NamespacedRow κ ρ) : String × κ := (row.owner, row.id)

abbrev NamespacedTable (κ ρ : Type) :=
  Table (NamespacedRow.key : NamespacedRow κ ρ → String × κ)

inductive StoreTable
  | locals
  | identities
  | sessions
  | preKeys
  | signedPreKeys
  | kyberPreKeys
  deriving DecidableEq

structure LocalRecord where
  registrationId : UInt32
  identityKeyPair : Bytes
  deriving DecidableEq

/-- `usedWith` is set on first use. -/
structure KyberRecord where
  record : Bytes
  usedWith : Option Bytes
  deriving DecidableEq

namespace StoreTable

abbrev Id : StoreTable → Type
  | .locals => Unit
  | .identities => String
  | .sessions => String
  | .preKeys => UInt32
  | .signedPreKeys => UInt32
  | .kyberPreKeys => UInt32

abbrev Record : StoreTable → Type
  | .locals => LocalRecord
  | .kyberPreKeys => KyberRecord
  | _ => Bytes

instance (table : StoreTable) : DecidableEq table.Id := by
  cases table <;> exact inferInstance

end StoreTable

def namespacedTables : List StoreTable :=
  [.locals, .identities, .sessions, .preKeys, .signedPreKeys, .kyberPreKeys]

theorem mem_namespacedTables (table : StoreTable) : table ∈ namespacedTables := by
  cases table <;> decide

abbrev Stores := (table : StoreTable) → NamespacedTable table.Id table.Record

namespace Stores

def empty : Stores := fun _ => .empty

def put (stores : Stores) (table : StoreTable)
    (rows : NamespacedTable table.Id table.Record) : Stores :=
  Function.update stores table rows

def rowsOf (stores : Stores) (owner : String) (table : StoreTable) :
    List (table.Id × table.Record) :=
  ((stores table).select fun row => row.owner = owner).map fun row =>
    (row.id, row.record)

/-- The rows of two namespaces, as one keeps them that takes over the other. -/
def rowsOfEither (stores : Stores) (first second : String)
    (table : StoreTable) : List (table.Id × table.Record) :=
  ((stores table).select fun row => row.owner = first || row.owner = second).map
    fun row => (row.id, row.record)

end Stores

abbrev Keyring := (table : StoreTable) → List (table.Id × table.Record)

def moved (source target : String) (row : NamespacedRow κ ρ) : NamespacedRow κ ρ :=
  if row.owner = source then { row with owner := target } else row

/-- Table by table, up to the first statement that is refused. -/
def migrateTables (source target : String) : List StoreTable → Stores → Bool × Stores
  | [], stores => (true, stores)
  | table :: rest, stores =>
    match (stores table).reassign (moved source target) with
    | none => (false, stores)
    | some rows => migrateTables source target rest (stores.put table rows)

def migrateNamespace (source target : String) (stores : Stores) : Bool × Stores :=
  migrateTables source target namespacedTables stores

def deleteNamespace (owner : String) (stores : Stores) : Stores :=
  fun table => (stores table).delete fun row => row.owner = owner

/-- A key that was used stays used when it is saved again. -/
def saveKyberPreKey (owner : String) (id : UInt32) (record : Bytes) (stores : Stores) : Stores :=
  let used := ((stores .kyberPreKeys).lookup (owner, id)).bind fun row => row.record.usedWith
  stores.put .kyberPreKeys ((stores .kyberPreKeys).upsert {
    owner, id := id, record := { record, usedWith := used } })

/-- What the ratchet writes while it opens a session, through the handles of
one namespace. -/
inductive StoreWrite
  | saveIdentity (address : String) (key : Bytes)
  | storeSession (address : String) (record : Bytes)
  | removePreKey (id : UInt32)
  | markKyberPreKeyUsed (id : UInt32) (usedWith : Bytes)

def StoreWrite.apply (owner : String) (stores : Stores) : StoreWrite → Stores
  | .saveIdentity address key =>
    stores.put .identities ((stores .identities).upsert { owner, id := address, record := key })
  | .storeSession address record =>
    stores.put .sessions ((stores .sessions).upsert { owner, id := address, record })
  | .removePreKey id =>
    stores.put .preKeys ((stores .preKeys).delete fun row =>
      row.owner = owner && row.id = id)
  | .markKyberPreKeyUsed id usedWith =>
    stores.put .kyberPreKeys ((stores .kyberPreKeys).update
      (fun row => row.owner = owner && row.id = id)
      (fun row => { row with
        record := { row.record with usedWith := some usedWith } })
      fun _ => rfl)

def applyWrites (owner : String) (writes : List StoreWrite) (stores : Stores) :
    Stores :=
  writes.foldl (StoreWrite.apply owner) stores

section

variable {κ ρ : Type} [DecidableEq κ] {table result : NamespacedTable κ ρ}

/-- No row would end up on the key of another. -/
def Room (source target : String) (table : NamespacedTable κ ρ) : Prop :=
  ∀ row ∈ table, row.owner = source → ∀ other ∈ table, other.owner = target → other.id ≠ row.id

theorem exists_reassign (room : Room source target table) :
    ∃ result, table.reassign (moved source target) = some result := by
  rw [← Option.isSome_iff_exists, Table.reassign_isSome, List.map_map,
    List.nodup_map_iff_inj_on (List.Nodup.of_map _ table.nodup)]
  intro first stored second stored' same
  apply Table.eq_of_key_eq stored stored'
  simp only [Function.comp_apply, NamespacedRow.key, moved, Prod.mk.injEq] at same ⊢
  split at same
  · rename_i mine
    split at same
    · rename_i mine'
      exact ⟨mine.trans mine'.symm, same.2⟩
    · exact absurd same.2.symm (room first stored mine second stored' same.1.symm)
  · split at same
    · rename_i mine'
      exact absurd same.2 (room second stored' mine' first stored same.1)
    · exact same

theorem reassign_eq_none (distinct : source ≠ target) (stored : row ∈ table)
    (mine : row.owner = source) (stored' : other ∈ table)
    (taken : other.owner = target) (same : other.id = row.id) :
    table.reassign (moved source target) = none := by
  rw [← Option.not_isSome_iff_eq_none, Table.reassign_isSome, List.map_map,
    List.nodup_map_iff_inj_on (List.Nodup.of_map _ table.nodup)]
  intro injective
  have collide : (NamespacedRow.key ∘ moved source target) row =
      (NamespacedRow.key ∘ moved source target) other := by
    simp only [Function.comp_apply, NamespacedRow.key, moved, mine, taken,
      if_pos, if_neg distinct.symm, same]
  have equal := injective row stored other stored' collide
  rw [equal, taken] at mine
  exact distinct mine.symm

theorem mem_reassign (migrated : table.reassign (moved source target) = some result) :
    row ∈ result ↔ ∃ old ∈ table, moved source target old = row := by
  rw [Table.mem_def, Table.reassign_eq_some.mp migrated, List.mem_map]
  rfl

omit [DecidableEq κ] in
theorem owner_moved_ne (distinct : source ≠ target)
    (row : NamespacedRow κ ρ) : (moved source target row).owner ≠ source := by
  unfold moved
  split
  · exact distinct.symm
  · assumption

end

variable {stores : Stores}

theorem put_self (table : StoreTable) (rows : NamespacedTable table.Id table.Record) :
    stores.put table rows table = rows :=
  Function.update_self _ _ _

theorem put_of_ne (differs : other ≠ table) (rows : NamespacedTable table.Id table.Record) :
    stores.put table rows other = stores other :=
  Function.update_of_ne differs _ _

theorem migrateTables_other (unlisted : table ∉ tables) :
    (migrateTables source target tables stores).2 table = stores table := by
  induction tables generalizing stores with
  | nil => rfl
  | cons first rest ih =>
    rw [List.mem_cons, not_or] at unlisted
    rw [migrateTables]
    split
    · rfl
    · rw [ih unlisted.2, put_of_ne unlisted.1]

theorem rows_migrateTables (nodup : tables.Nodup)
    (went : (migrateTables source target tables stores).1 = true) (listed : table ∈ tables) :
    ((migrateTables source target tables stores).2 table).rows =
      (stores table).rows.map (moved source target) := by
  induction tables generalizing stores with
  | nil => cases listed
  | cons first rest ih =>
    obtain ⟨fresh, nodup⟩ := List.nodup_cons.mp nodup
    rw [migrateTables] at went ⊢
    split at went
    · cases went
    · rename_i rows migrated
      rcases List.mem_cons.mp listed with rfl | later
      · rw [migrateTables_other fresh, put_self]
        exact Table.reassign_eq_some.mp migrated
      · have differs : table ≠ first := fun same => fresh (same ▸ later)
        rw [ih nodup went later, put_of_ne differs]

theorem migrateTables_iff (distinct : source ≠ target) (nodup : tables.Nodup) :
    (migrateTables source target tables stores).1 = true ↔
      ∀ table ∈ tables, Room source target (stores table) := by
  induction tables generalizing stores with
  | nil => simp [migrateTables]
  | cons first rest ih =>
    obtain ⟨fresh, nodup⟩ := List.nodup_cons.mp nodup
    rw [List.forall_mem_cons]
    by_cases room : Room source target (stores first)
    · obtain ⟨rows, migrated⟩ := exists_reassign room
      rw [migrateTables, migrated, and_iff_right room]
      refine (ih nodup).trans (forall₂_congr fun table listed => ?_)
      have differs : table ≠ first := fun same => fresh (same ▸ listed)
      rw [put_of_ne differs]
    · have refused : (stores first).reassign (moved source target) = none := by
        unfold Room at room
        push Not at room
        obtain ⟨row, stored, mine, other, stored', taken, same⟩ := room
        exact reassign_eq_none distinct stored mine stored' taken same
      rw [migrateTables, refused]
      exact iff_of_false Bool.false_ne_true fun all => room all.1

theorem nodup_namespacedTables : namespacedTables.Nodup := by decide

theorem migrateNamespace_iff (distinct : source ≠ target) :
    (migrateNamespace source target stores).1 = true ↔
      ∀ table, Room source target (stores table) := by
  refine (migrateTables_iff distinct nodup_namespacedTables).trans ?_
  simp only [mem_namespacedTables, true_implies]

theorem rows_migrateNamespace (went : (migrateNamespace source target stores).1 = true)
    (table : StoreTable) :
    ((migrateNamespace source target stores).2 table).rows =
      (stores table).rows.map (moved source target) :=
  rows_migrateTables nodup_namespacedTables went (mem_namespacedTables table)

theorem migrateNamespace_of_taken (taken : (stores .locals).reassign (moved source target) = none) :
    migrateNamespace source target stores = (false, stores) := by
  rw [migrateNamespace, namespacedTables, migrateTables, taken]

theorem locals_migrateNamespace
    (migrated : (stores .locals).reassign (moved source target) = some rows) :
    (migrateNamespace source target stores).2 .locals = rows := by
  rw [migrateNamespace, namespacedTables, migrateTables, migrated]
  simp only
  rw [migrateTables_other (by decide), put_self]

theorem locals_applyWrites (owner : String) (writes : List StoreWrite) :
    applyWrites owner writes stores .locals = stores .locals := by
  induction writes generalizing stores with
  | nil => rfl
  | cons write rest ih =>
    have aside : write.apply owner stores .locals = stores .locals := by
      cases write with
      | saveIdentity address key | storeSession address record
      | removePreKey id | markKyberPreKeyUsed id usedWith => exact put_of_ne (by decide) _
    exact ih.trans aside

theorem rowsOf_migrateNamespace (went : (migrateNamespace source target stores).1 = true) :
    (migrateNamespace source target stores).2.rowsOf target =
      stores.rowsOfEither source target := by
  funext table
  unfold Stores.rowsOf Stores.rowsOfEither Table.select
  rw [rows_migrateNamespace went, List.filter_map, List.map_map]
  have chosen : ∀ row ∈ (stores table).rows, decide ((moved source target row).owner = target) =
        (decide (row.owner = source) || decide (row.owner = target)) := by
    intro row _
    unfold moved
    by_cases mine : row.owner = source
    · simp [mine]
    · simp [mine]
  rw [List.filter_congr (q := fun row => decide (row.owner = source) ||
    decide (row.owner = target)) chosen]
  refine List.map_congr_left fun row _ => ?_
  simp only [Function.comp_apply, moved]
  split
  · rfl
  · rfl

theorem rowsOfEither_of_vacant (vacant : ∀ table, ∀ row ∈ stores table, row.owner ≠ second) :
    stores.rowsOfEither first second = stores.rowsOf first := by
  funext table
  refine congrArg (List.map _) (List.filter_congr fun row stored => ?_)
  simp [vacant table row stored]

theorem rows_restored (distinct : source ≠ target)
    (went : (migrateNamespace source target stores).1 = true) (table : StoreTable) :
    (deleteNamespace target (migrateNamespace target source
      (migrateNamespace source target stores).2).2 table).rows =
      (stores table).rows.map (moved target source) := by
  generalize step : (migrateNamespace source target stores).2 = there
  have thereRows : ∀ table, (there table).rows = (stores table).rows.map (moved source target) := by
    intro table
    rw [← step]
    exact rows_migrateNamespace went table
  have vacant : ∀ table, ∀ row ∈ there table, row.owner ≠ source := by
    intro table row stored
    rw [Table.mem_def, thereRows] at stored
    obtain ⟨old, -, rfl⟩ := List.mem_map.mp stored
    exact owner_moved_ne distinct old
  have back : (migrateNamespace target source there).1 = true :=
    (migrateNamespace_iff distinct.symm).mpr fun table row _ _ other stored mine =>
        absurd mine (vacant table other stored)
  have round : ∀ row : NamespacedRow table.Id table.Record,
      moved target source (moved source target row) =
        moved target source row := by
    intro row
    unfold moved
    by_cases mine : row.owner = source
    · have foreign : row.owner ≠ target := mine.trans_ne distinct
      simp [mine, distinct]
      rw [← mine]
    · simp [mine]
  show List.filter _ _ = _
  rw [rows_migrateNamespace back, thereRows, List.map_map, List.filter_eq_self.mpr]
  · exact List.map_congr_left fun row _ => round row
  · intro row stored
    obtain ⟨old, -, rfl⟩ := List.mem_map.mp stored
    simp only [Function.comp_apply, round, Bool.not_eq_true', decide_eq_false_iff_not]
    exact owner_moved_ne distinct.symm old

end SChatCore.Pairing
