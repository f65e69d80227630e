import SChatCore.Data.Table
import Mathlib.Data.List.Sort

namespace SChatCore.Data.Table

variable {ρ κ : Type} {key : ρ → κ}

/-! Keeping the highest ranked of the chosen rows, ties broken either way. -/

def ranked (rank : ρ → Nat) (rows : List ρ) : List ρ :=
  rows.insertionSort fun first second => rank second ≤ rank first

structure Trims (chosen : ρ → Bool) (rank : ρ → Nat) (cap : Nat)
    (table after : Table key) : Prop where
  subset : ∀ row ∈ after, row ∈ table
  others : ∀ row ∈ table, chosen row = false → row ∈ after
  count : (after.select chosen).length = min cap (table.select chosen).length
  highest : ∀ row ∈ table, chosen row = true → row ∉ after →
    ∀ kept ∈ after, chosen kept = true → rank row ≤ rank kept

section

variable {table : Table key} {chosen dropped : ρ → Bool}

theorem mem_ranked {rows : List ρ} : row ∈ ranked rank rows ↔ row ∈ rows := List.mem_insertionSort _

theorem nodup_ranked_select (table : Table key) (chosen : ρ → Bool) :
    (ranked rank (table.select chosen)).Nodup :=
  (List.perm_insertionSort _ _).nodup_iff.mpr
    (List.filter_sublist.nodup (List.Nodup.of_map key table.nodup))

theorem mem_take_iff {rows : List ρ} (distinct : rows.Nodup)
    (mem : row ∈ rows) : row ∈ rows.take cap ↔ row ∉ rows.drop cap := by
  rw [← List.take_append_drop cap rows] at distinct mem
  constructor
  · intro early late
    exact (List.nodup_append.mp distinct).2.2 row early row late rfl
  · exact (List.mem_append.mp mem).resolve_right

theorem rank_le_of_take_of_drop {rows : List ρ} (early : first ∈ (ranked rank rows).take cap)
    (late : second ∈ (ranked rank rows).drop cap) :
    rank second ≤ rank first := by
  have sorted : (ranked rank rows).Pairwise fun first second =>
      rank second ≤ rank first := by
    let _ : Std.Total fun first second => rank second ≤ rank first := ⟨fun _ _ => Nat.le_total _ _⟩
    let _ : IsTrans ρ fun first second => rank second ≤ rank first :=
      ⟨fun _ _ _ before after => after.trans before⟩
    exact List.pairwise_insertionSort _ _
  rw [← List.take_append_drop cap (ranked rank rows)] at sorted
  exact (List.pairwise_append.mp sorted).2.2 first early second late

theorem trims_delete (exact' : ∀ row ∈ table.select chosen, (dropped row = true ↔
        row ∈ (ranked rank (table.select chosen)).drop cap)) :
    Trims chosen rank cap table (table.delete fun row => chosen row && dropped row) := by
  have distinct : (ranked rank (table.select chosen)).Nodup := nodup_ranked_select table chosen
  have stays : ∀ row ∈ table, chosen row = true → (dropped row = false ↔
        row ∈ (ranked rank (table.select chosen)).take cap) := by
    intro row mem hit
    have listed := mem_select.mpr ⟨mem, hit⟩
    rw [mem_take_iff distinct (mem_ranked.mpr listed), ← exact' row listed, Bool.not_eq_true]
  refine ⟨fun row mem => (mem_delete.mp mem).1, ?_, ?_, ?_⟩
  · intro row mem passed
    exact mem_delete.mpr ⟨mem, by simp [passed]⟩
  · have same : ((table.delete fun row => chosen row && dropped row).select
        chosen).Perm ((ranked rank (table.select chosen)).take cap) := by
      refine (List.perm_ext_iff_of_nodup ?_
        ((List.take_sublist _ _).nodup distinct)).mpr fun row => ?_
      · exact List.filter_sublist.nodup (List.Nodup.of_map key (nodup _))
      · rw [mem_select, mem_delete]
        constructor
        · rintro ⟨⟨mem, kept⟩, hit⟩
          exact (stays row mem hit).mp (by simpa [hit] using kept)
        · intro early
          obtain ⟨mem, hit⟩ := mem_select.mp (mem_ranked.mp (List.mem_of_mem_take early))
          exact ⟨⟨mem, by simp [(stays row mem hit).mpr early]⟩, hit⟩
    rw [same.length_eq, List.length_take, ranked, List.length_insertionSort]
  · intro row mem hit gone kept keptMember keptHit
    obtain ⟨stored, spared⟩ := mem_delete.mp keptMember
    have early := (stays kept stored keptHit).mp (by simpa [keptHit] using spared)
    refine rank_le_of_take_of_drop early ?_
    rw [← exact' row (mem_select.mpr ⟨mem, hit⟩)]
    simpa [mem, hit] using gone

end

/-! The rows to go, named by a column that tells the chosen rows apart. -/

variable {table : Table key} {chosen : ρ → Bool} {column : ρ → β}
  [DecidableEq β]
  (keyed : ∀ {first second}, chosen first = true → chosen second = true →
    column first = column second → key first = key second)

include keyed

theorem contains_column_iff {rows : List ρ} (listed : ∀ row ∈ rows, row ∈ table.select chosen)
    (mem : row ∈ table.select chosen) :
    (rows.map column).contains (column row) = true ↔ row ∈ rows := by
  rw [List.contains_iff_mem, List.mem_map]
  constructor
  · rintro ⟨other, found, same⟩
    obtain ⟨stored, hit⟩ := mem_select.mp mem
    obtain ⟨otherStored, otherHit⟩ := mem_select.mp (listed other found)
    rwa [← eq_of_key_eq otherStored stored (keyed otherHit hit same)]
  · exact fun found => ⟨row, found, rfl⟩

theorem trims_outside (cap : Nat) :
    Trims chosen rank cap table (table.delete fun row => chosen row &&
      (((ranked rank (table.select chosen)).drop cap).map column).contains (column row)) :=
  trims_delete fun _ mem => contains_column_iff keyed
    (fun _ late => mem_ranked.mp (List.mem_of_mem_drop late)) mem

end SChatCore.Data.Table
