import Mathlib.Data.List.Nodup
import Mathlib.Data.List.Basic
import Mathlib.Data.List.Perm.Subperm

namespace SChatCore.Data

/-! Finite tables with a primary key, with the statements a relational store
runs on them. Rows keep their insertion order. -/

structure Table {ρ κ : Type} (key : ρ → κ) where
  rows : List ρ
  nodup : (rows.map key).Nodup

namespace Table

variable {ρ κ : Type} {key : ρ → κ}

instance : Membership ρ (Table key) where
  mem table row := row ∈ table.rows

theorem mem_def {table : Table key} : row ∈ table ↔ row ∈ table.rows := Iff.rfl

@[ext] theorem ext {first second : Table key}
    (rows : first.rows = second.rows) : first = second := by
  cases first
  cases rows
  rfl

instance [DecidableEq ρ] : DecidableEq (Table key) := fun first second =>
  decidable_of_iff (first.rows = second.rows) ⟨ext, fun same => same ▸ rfl⟩

def empty : Table key := ⟨[], List.nodup_nil⟩

@[simp] theorem not_mem_empty (row : ρ) : row ∉ (empty : Table key) := List.not_mem_nil

theorem eq_of_key_eq {table : Table key} (hfirst : first ∈ table)
    (hsecond : second ∈ table) (same : key first = key second) :
    first = second :=
  List.inj_on_of_nodup_map table.nodup hfirst hsecond same

def select (table : Table key) (chosen : ρ → Bool) : List ρ := table.rows.filter chosen

@[simp] theorem mem_select {table : Table key} :
    row ∈ table.select chosen ↔ row ∈ table ∧ chosen row = true :=
  List.mem_filter

theorem length_select_le {table fewer : Table key}
    (subset : ∀ row ∈ fewer, row ∈ table) (chosen : ρ → Bool) :
    (fewer.select chosen).length ≤ (table.select chosen).length := by
  have distinct : (fewer.select chosen).Nodup :=
    (List.filter_sublist.nodup (List.Nodup.of_map key fewer.nodup))
  refine (distinct.subperm fun row mem => ?_).length_le
  obtain ⟨stored, hit⟩ := mem_select.mp mem
  exact mem_select.mpr ⟨subset row stored, hit⟩

section

variable [DecidableEq κ]

def lookup (table : Table key) (k : κ) : Option ρ := table.rows.find? fun row => key row = k

theorem lookup_eq_some {table : Table key} :
    table.lookup k = some row ↔ row ∈ table ∧ key row = k := by
  constructor
  · intro found
    exact ⟨List.mem_of_find?_eq_some found, by
      simpa using List.find?_some found⟩
  · rintro ⟨mem, rfl⟩
    cases found : table.lookup (key row) with
    | none =>
      have absent := List.find?_eq_none.mp found row mem
      simp at absent
    | some other =>
      have otherMember : other ∈ table := List.mem_of_find?_eq_some found
      have otherKey : key other = key row := by simpa using List.find?_some found
      rw [eq_of_key_eq otherMember mem otherKey]

theorem lookup_eq_none {table : Table key} :
    table.lookup k = none ↔ ∀ row ∈ table, key row ≠ k := by
  simp [lookup, List.find?_eq_none, mem_def]

theorem lookup_key {table : Table key} (mem : row ∈ table) : table.lookup (key row) = some row :=
  lookup_eq_some.mpr ⟨mem, rfl⟩

theorem mem_keys_select {table : Table key} :
    k ∈ (table.select chosen).map key ↔ (table.lookup k).any chosen := by
  simp only [List.mem_map, mem_select, Option.any_eq_true, lookup_eq_some]
  constructor <;> rintro ⟨row, ⟨mem, hit⟩, rest⟩
  · exact ⟨row, ⟨mem, rest⟩, hit⟩
  · exact ⟨row, ⟨mem, rest⟩, hit⟩

theorem lookup_isSome {table : Table key} :
    (table.lookup k).isSome ↔ ∃ row ∈ table, key row = k := by
  rw [Option.isSome_iff_exists]
  simp only [lookup_eq_some]

end

section

variable [DecidableEq κ]

def append (table : Table key) (row : ρ)
    (fresh : ∀ other ∈ table, key other ≠ key row) : Table key where
  rows := table.rows ++ [row]
  nodup := by
    rw [List.map_append, List.map_singleton, List.nodup_append]
    refine ⟨table.nodup, List.nodup_singleton _, ?_⟩
    intro first hfirst second hsecond
    obtain ⟨other, mem, rfl⟩ := List.mem_map.mp hfirst
    rw [List.mem_singleton.mp hsecond]
    exact fresh other mem

def insert (table : Table key) (row : ρ) : Option (Table key) :=
  match found : table.lookup (key row) with
  | some _ => none
  | none => some (table.append row (lookup_eq_none.mp found))

theorem insert_eq_some {table result : Table key} : table.insert row = some result ↔
      table.lookup (key row) = none ∧ result.rows = table.rows ++ [row] := by
  unfold insert
  constructor
  · intro inserted
    split at inserted
    · cases inserted
    · rename_i found
      cases inserted
      exact ⟨found, rfl⟩
  · rintro ⟨found, rows⟩
    split
    · rename_i taken
      rw [found] at taken
      cases taken
    · exact congrArg some (ext rows.symm)

theorem mem_insert {table : Table key} (inserted : table.insert row = some result) :
    other ∈ result ↔ other ∈ table ∨ other = row := by
  rw [mem_def, (insert_eq_some.mp inserted).2, List.mem_append, List.mem_singleton, mem_def]

theorem insert_eq_none {table : Table key} :
    table.insert row = none ↔ (table.lookup (key row)).isSome := by
  unfold insert
  constructor
  · intro refused
    split at refused
    · rename_i taken
      rw [taken]
      rfl
    · cases refused
  · intro taken
    split
    · rfl
    · rename_i found
      rw [found] at taken
      cases taken

theorem lookup_append {table : Table key} (fresh : ∀ other ∈ table, key other ≠ key row) (k : κ) :
    (table.append row fresh).lookup k = if key row = k then some row else table.lookup k := by
  unfold lookup append
  by_cases same : key row = k
  · have absent : table.rows.find? (fun row => key row = k) = none := by
      rw [List.find?_eq_none]
      intro other mem
      simpa [← same] using fresh other mem
    simp [absent, same]
  · simp [same]

theorem lookup_insert {table result : Table key}
    (inserted : table.insert row = some result) (k : κ) :
    result.lookup k = if key row = k then some row else table.lookup k := by
  obtain ⟨fresh, rows⟩ := insert_eq_some.mp inserted
  have same : result = table.append row (lookup_eq_none.mp fresh) := ext rows
  rw [same, lookup_append]

theorem select_insert_of_disjoint {table result : Table key}
    (inserted : table.insert row = some result) (disjoint : kept row = false) :
    result.select kept = table.select kept := by
  unfold select
  rw [(insert_eq_some.mp inserted).2]
  simp [disjoint]

theorem insert_of_fresh {table : Table key} (row : ρ) (fresh : table.lookup (key row) = none) :
    ∃ result, table.insert row = some result ∧ result.rows = table.rows ++ [row] :=
  ⟨table.append row (lookup_eq_none.mp fresh), insert_eq_some.mpr ⟨fresh, rfl⟩, rfl⟩

end

/-- `UPDATE ... SET ... WHERE`: the assignment keeps the key. -/
def update (table : Table key) (chosen : ρ → Bool) (assign : ρ → ρ)
    (keepsKey : ∀ row, key (assign row) = key row) : Table key where
  rows := table.rows.map fun row => if chosen row then assign row else row
  nodup := by
    have keys : (table.rows.map fun row =>
        if chosen row then assign row else row).map key =
        table.rows.map key := by
      rw [List.map_map]
      refine List.map_congr_left fun row _ => ?_
      simp only [Function.comp_apply]
      split
      · exact keepsKey row
      · rfl
    rw [keys]
    exact table.nodup

section

variable {table : Table key} {assign : ρ → ρ}

theorem mem_update : row ∈ table.update chosen assign keepsKey ↔ ∃ source ∈ table,
        (if chosen source then assign source else source) = row :=
  List.mem_map

theorem mem_update_of_not_chosen (mem : row ∈ table) (skipped : chosen row = false) :
    row ∈ table.update chosen assign keepsKey :=
  mem_update.mpr ⟨row, mem, by simp [skipped]⟩

theorem mem_update_of_chosen (mem : row ∈ table) (hit : chosen row = true) :
    assign row ∈ table.update chosen assign keepsKey :=
  mem_update.mpr ⟨row, mem, by simp [hit]⟩

theorem lookup_update [DecidableEq κ] (k : κ) : (table.update chosen assign keepsKey).lookup k =
      (table.lookup k).map fun row =>
        if chosen row then assign row else row := by
  cases found : table.lookup k with
  | none =>
    rw [Option.map_none, lookup_eq_none]
    intro row mem
    obtain ⟨source, sourceMember, rfl⟩ := mem_update.mp mem
    have absent := lookup_eq_none.mp found source sourceMember
    split
    · rwa [keepsKey]
    · exact absent
  | some row =>
    obtain ⟨mem, rfl⟩ := lookup_eq_some.mp found
    rw [Option.map_some, lookup_eq_some]
    refine ⟨mem_update.mpr ⟨row, mem, rfl⟩, ?_⟩
    split
    · exact keepsKey row
    · rfl

theorem lookup_update_key [DecidableEq κ] (k other : κ)
    (keepsKey : ∀ row, key (assign row) = key row) :
    (table.update (fun row => key row = k) assign keepsKey).lookup other =
      if other = k then (table.lookup k).map assign else table.lookup other := by
  rw [lookup_update]
  split
  · rename_i same
    subst same
    cases found : table.lookup other with
    | none => rfl
    | some row => simp [(lookup_eq_some.mp found).2]
  · rename_i differs
    cases found : table.lookup other with
    | none => rfl
    | some row => simp [(lookup_eq_some.mp found).2, differs]

/-- A statement that touches none of the selected rows leaves the selection
alone, provided that it brings no row into it. -/
theorem select_update_of_disjoint (disjoint : ∀ row ∈ table, chosen row = true →
      kept row = false ∧ kept (assign row) = false)
    (keepsKey : ∀ row, key (assign row) = key row) :
    (table.update chosen assign keepsKey).select kept = table.select kept := by
  have general : ∀ rows : List ρ, (∀ row ∈ rows, row ∈ table) →
      (rows.map fun row => if chosen row then assign row else row).filter
        kept = rows.filter kept := by
    intro rows
    induction rows with
    | nil => intro _; rfl
    | cons row rest ih =>
      intro members
      have tail := ih fun other mem =>
        members other (List.mem_cons_of_mem _ mem)
      rw [List.map_cons]
      cases hit : chosen row with
      | false => simp [List.filter_cons, tail]
      | true =>
        obtain ⟨before, after⟩ := disjoint row (members row List.mem_cons_self) hit
        simp [tail, before, after]
  exact general table.rows fun _ mem => mem

theorem update_update (settled : ∀ row, assign (assign row) = assign row)
    (unmoved : ∀ row, again (assign row) = again row) :
    (table.update chosen assign keepsKey).update again assign keepsKey =
      table.update (fun row => chosen row || again row) assign keepsKey := by
  apply ext
  simp only [update, List.map_map]
  refine List.map_congr_left fun row _ => ?_
  by_cases first : chosen row = true <;> by_cases second : again row = true <;>
    simp [first, second, settled, unmoved]

end

/-- `UPDATE` of a key column: refused when two rows would share a key. -/
def reassign [DecidableEq κ] (table : Table key) (assign : ρ → ρ) : Option (Table key) :=
  if nodup : ((table.rows.map assign).map key).Nodup then
    some ⟨table.rows.map assign, nodup⟩
  else none

theorem reassign_eq_some [DecidableEq κ] {table result : Table key} :
    table.reassign assign = some result ↔ result.rows = table.rows.map assign := by
  unfold reassign
  constructor
  · intro moved
    split at moved
    · cases moved
      rfl
    · cases moved
  · intro rows
    have nodup := result.nodup
    rw [rows] at nodup
    rw [dif_pos nodup]
    exact congrArg some (ext rows.symm)

theorem reassign_isSome [DecidableEq κ] {table : Table key} :
    (table.reassign assign).isSome = true ↔ ((table.rows.map assign).map key).Nodup := by
  unfold reassign
  split
  · rename_i nodup
    exact iff_of_true rfl nodup
  · rename_i clash
    exact iff_of_false nofun clash

def delete (table : Table key) (chosen : ρ → Bool) : Table key where
  rows := table.rows.filter fun row => !chosen row
  nodup := (List.filter_sublist.map key).nodup table.nodup

section

variable {table : Table key}

@[simp] theorem mem_delete {row : ρ} :
    row ∈ table.delete chosen ↔ row ∈ table ∧ chosen row = false := by
  rw [mem_def, delete, List.mem_filter, mem_def]
  simp

theorem delete_delete : (table.delete chosen).delete again =
      table.delete fun row => chosen row || again row := by
  apply ext
  simp only [delete, List.filter_filter]
  refine List.filter_congr fun row _ => ?_
  rw [Bool.not_or, Bool.and_comm]

theorem lookup_delete [DecidableEq κ] (k : κ) : (table.delete chosen).lookup k =
      (table.lookup k).filter fun row => !chosen row := by
  cases found : table.lookup k with
  | none =>
    rw [Option.filter_none, lookup_eq_none]
    intro row mem
    exact lookup_eq_none.mp found row (mem_delete.mp mem).1
  | some row =>
    obtain ⟨mem, rfl⟩ := lookup_eq_some.mp found
    cases hit : chosen row with
    | false =>
      rw [Option.filter_some_pos (by simp [hit]), lookup_eq_some]
      exact ⟨mem_delete.mpr ⟨mem, hit⟩, rfl⟩
    | true =>
      rw [Option.filter_some_neg (by simp [hit]), lookup_eq_none]
      intro other otherMember same
      obtain ⟨otherMember, otherKept⟩ := mem_delete.mp otherMember
      rw [eq_of_key_eq otherMember mem same, hit] at otherKept
      cases otherKept

theorem map_lookup_delete [DecidableEq κ] (f : ρ → β) (chosen : ρ → Bool) (k : κ) :
    ((table.delete chosen).lookup k).map f = if (table.lookup k).any chosen = true then none
      else (table.lookup k).map f := by
  rw [lookup_delete]
  cases table.lookup k with
  | none => rfl
  | some row => by_cases hit : chosen row = true <;> simp [Option.filter, hit]

theorem lookup_delete_key [DecidableEq κ] (k other : κ) :
    (table.delete fun row => key row = k).lookup other =
      if other = k then none else table.lookup other := by
  rw [lookup_delete]
  cases found : table.lookup other with
  | none => simp
  | some row => by_cases same : other = k <;> simp [(lookup_eq_some.mp found).2, same]

theorem select_delete_of_disjoint (disjoint : ∀ row ∈ table, chosen row = true → kept row = false) :
    (table.delete chosen).select kept = table.select kept := by
  unfold select delete
  rw [List.filter_filter]
  refine List.filter_congr fun row mem => ?_
  cases hit : chosen row with
  | false => simp
  | true => simp [disjoint row mem hit]

end

section

variable [DecidableEq κ]

/-- `INSERT OR REPLACE`: a row with the same key makes room first. -/
def upsert (table : Table key) (row : ρ) : Table key :=
  (table.delete fun other => key other = key row).append row (by
    intro other mem
    simpa using (mem_delete.mp mem).2)

theorem mem_upsert {table : Table key} : other ∈ table.upsert row ↔
      other = row ∨ other ∈ table ∧ key other ≠ key row := by
  unfold upsert append
  rw [mem_def, List.mem_append, List.mem_singleton, ← mem_def, mem_delete]
  simp only [decide_eq_false_iff_not, ne_eq]
  exact or_comm

theorem lookup_upsert (table : Table key) (row : ρ) (k : κ) : (table.upsert row).lookup k =
      if key row = k then some row else table.lookup k := by
  unfold upsert
  rw [lookup_append]
  split
  · rfl
  · rename_i other
    rw [lookup_delete]
    cases found : table.lookup k with
    | none => rfl
    | some found =>
      have same := (lookup_eq_some.mp ‹_›).2
      simpa [same] using fun eq : k = key row => other eq.symm

theorem select_upsert_of_disjoint {table : Table key} (disjoint : kept row = false)
    (replaced : ∀ other ∈ table, key other = key row → kept other = false) :
    (table.upsert row).select kept = table.select kept := by
  have deleted : (table.delete fun other => key other = key row).select kept =
      table.select kept :=
    select_delete_of_disjoint fun other mem same =>
      replaced other mem (by simpa using same)
  unfold upsert append
  rw [← deleted]
  simp [select, disjoint]

def insertOrIgnore (table : Table key) (row : ρ) : Table key := (table.insert row).getD table

theorem mem_insertOrIgnore {table : Table key} : other ∈ table.insertOrIgnore row ↔
      other ∈ table ∨ other = row ∧ table.lookup (key row) = none := by
  unfold insertOrIgnore
  cases inserted : table.insert row with
  | none =>
    have taken := insert_eq_none.mp inserted
    constructor
    · exact Or.inl
    · rintro (mem | ⟨rfl, fresh⟩)
      · exact mem
      · rw [fresh] at taken
        cases taken
  | some result =>
    simp only [Option.getD_some, mem_insert inserted, (insert_eq_some.mp inserted).1, and_true]

theorem lookup_insertOrIgnore_of_some {table : Table key} (found : table.lookup k = some old) :
    (table.insertOrIgnore row).lookup k = some old := by
  unfold insertOrIgnore
  cases inserted : table.insert row with
  | none => exact found
  | some result =>
    obtain ⟨fresh, -⟩ := insert_eq_some.mp inserted
    refine (lookup_insert inserted k).trans ?_
    rw [if_neg]
    · exact found
    · rintro rfl
      cases fresh.symm.trans found

theorem lookup_insertOrIgnore_of_fresh {table : Table key} (fresh : table.lookup (key row) = none) :
    (table.insertOrIgnore row).lookup (key row) = some row := by
  obtain ⟨result, inserted, -⟩ := insert_of_fresh row fresh
  rw [insertOrIgnore, inserted]
  exact (lookup_insert inserted _).trans (if_pos rfl)

theorem isSome_lookup_insertOrIgnore {table : Table key} :
    ((table.insertOrIgnore row).lookup wanted).isSome = true ↔
      wanted = key row ∨ (table.lookup wanted).isSome = true := by
  rw [lookup_isSome, lookup_isSome]
  constructor
  · rintro ⟨other, mem, rfl⟩
    rcases mem_insertOrIgnore.mp mem with old | ⟨rfl, -⟩
    · exact .inr ⟨other, old, rfl⟩
    · exact .inl rfl
  · rintro (rfl | ⟨other, mem, rfl⟩)
    · cases taken : table.lookup (key row) with
      | none => exact ⟨row, mem_insertOrIgnore.mpr (.inr ⟨rfl, taken⟩), rfl⟩
      | some old =>
        obtain ⟨mem, same⟩ := lookup_eq_some.mp taken
        exact ⟨old, mem_insertOrIgnore.mpr (.inl mem), same⟩
    · exact ⟨other, mem_insertOrIgnore.mpr (.inl mem), rfl⟩

end

/-- Of every owner but `mine`, both tables hold the same rows in the same
order. -/
def SameBut {β : Type} [DecidableEq β] (owner : ρ → β) (mine : β)
    (before after : Table key) : Prop :=
  ∀ other, other ≠ mine → after.select (fun row => owner row = other) =
      before.select fun row => owner row = other

namespace SameBut

variable {β : Type} [DecidableEq β] {mine : β} {table : Table key}

theorem refl (owner : ρ → β) (mine : β) (table : Table key) :
    SameBut owner mine table table :=
  fun _ _ => rfl

theorem trans (left : SameBut owner mine table second) (right : SameBut owner mine second third) :
    SameBut owner mine table third :=
  fun other foreign => (right other foreign).trans (left other foreign)

theorem symm (same : SameBut owner mine table after) :
    SameBut owner mine after table :=
  fun other foreign => (same other foreign).symm

theorem mem_iff (same : SameBut owner mine table after)
    (foreign : owner row ≠ mine) : row ∈ after ↔ row ∈ table := by
  have members : ∀ source : Table key, row ∈ source ↔
      row ∈ source.select fun other => owner other = owner row := by
    simp
  rw [members, members table, same _ foreign]

theorem update (keepsKey : ∀ row, key (assign row) = key row)
    (own : ∀ row ∈ table, chosen row = true → owner row = mine ∧ owner (assign row) = mine) :
    SameBut owner mine table (table.update chosen assign keepsKey) := by
  intro other foreign
  refine select_update_of_disjoint (fun row mem hit => ?_) keepsKey
  obtain ⟨before, after⟩ := own row mem hit
  simp [before, after, foreign.symm]

theorem delete (own : ∀ row ∈ table, chosen row = true → owner row = mine) :
    SameBut owner mine table (table.delete chosen) := by
  intro other foreign
  refine select_delete_of_disjoint fun row mem hit => ?_
  simp [own row mem hit, foreign.symm]

theorem update_iff {chosen : ρ → Bool} (keepsKey : ∀ row, key (assign row) = key row)
    (owned : ∀ row, owner (assign row) = owner row) :
    SameBut owner mine table (table.update chosen assign keepsKey) ↔
      ∀ row ∈ table, chosen row = true → owner row ≠ mine → assign row = row := by
  constructor
  · intro same row mem hit foreign
    have stays := (same.mem_iff foreign).mpr mem
    exact eq_of_key_eq (mem_update_of_chosen mem hit) stays (keepsKey row)
  · intro kept other foreign
    unfold select Table.update
    rw [List.filter_map]
    refine (List.map_congr_left fun row mem => ?_).trans
      ((List.map_id _).trans (List.filter_congr fun row mem => ?_))
    · obtain ⟨mem, mine⟩ := List.mem_filter.mp mem
      cases hit : chosen row with
      | false => rfl
      | true =>
        simp only [Function.comp_apply, hit, if_true, owned, decide_eq_true_eq] at mine
        exact kept row mem hit (mine ▸ foreign)
    · simp only [Function.comp_apply]
      split
      · rw [owned]
      · rfl

theorem delete_iff : SameBut owner mine table (table.delete chosen) ↔
      ∀ row ∈ table, chosen row = true → owner row = mine := by
  refine ⟨fun same row mem hit => ?_, delete⟩
  by_contra foreign
  have stays := (same.mem_iff foreign).mpr mem
  rw [(mem_delete.mp stays).2] at hit
  cases hit

variable [DecidableEq κ]

theorem lookup_eq (same : SameBut owner mine table after) (foreign : owner row ≠ mine) :
    after.lookup k = some row ↔ table.lookup k = some row := by
  rw [lookup_eq_some, lookup_eq_some, same.mem_iff foreign]

theorem insert (inserted : table.insert row = some result) (own : owner row = mine) :
    SameBut owner mine table result := by
  intro other foreign
  exact select_insert_of_disjoint inserted (by simp [own, foreign.symm])

theorem upsert (own : owner row = mine)
    (replaced : ∀ other ∈ table, key other = key row → owner other = mine) :
    SameBut owner mine table (table.upsert row) := by
  intro other foreign
  refine select_upsert_of_disjoint (by simp [own, foreign.symm]) ?_
  intro entry mem same
  simp [replaced entry mem same, foreign.symm]

theorem insertOrIgnore (own : owner row = mine) :
    SameBut owner mine table (table.insertOrIgnore row) := by
  unfold Table.insertOrIgnore
  cases inserted : table.insert row with
  | none => exact refl owner mine table
  | some result => exact insert inserted own

end SameBut

end Table

end SChatCore.Data
