import SChatCore.Engine.Sync

namespace SChatCore.Repair

open Data Wire Store Engine

/-! The receive view of a scan whose numbers ascend as unsigned values. -/

def Ascending (seqs : List UInt64) : Prop :=
  seqs.Pairwise fun first second => first.toNat < second.toNat

structure Walked (max : UInt64) (seqs : List UInt64)
    (result : UInt64 × List UInt64) : Prop where
  le : max.toNat ≤ result.1.toNat
  covered : ∀ seq : UInt64, max.toNat < seq.toNat → seq.toNat ≤ result.1.toNat → seq ∈ seqs
  remain : ∀ seq ∈ seqs, result.1.toNat < seq.toNat → seq ∈ result.2
  within : ∀ seq ∈ result.2, seq ∈ seqs
  gap : ∀ seq ∈ result.2, result.1.toNat + 1 < seq.toNat
  ascending : Ascending result.2

theorem toNat_succ {value above : UInt64} (bound : value.toNat < above.toNat) :
    (value + 1).toNat = value.toNat + 1 := by
  have top := above.toNat_lt
  rw [UInt64.toNat_add]
  exact Nat.mod_eq_of_lt (by simp; omega)

theorem walked_walkHorizon {max : UInt64} (ascending : Ascending seqs)
    (above : ∀ seq ∈ seqs, max.toNat < seq.toNat) :
    Walked max seqs (Db.walkHorizon max seqs) := by
  induction seqs generalizing max with
  | nil =>
    refine ⟨Nat.le_refl _, fun seq low high => ?_, ?_, ?_, ?_, .nil⟩
    · exact absurd high (Nat.not_le.mpr low)
    · exact fun _ mem => nomatch mem
    · exact fun _ mem => nomatch mem
    · exact fun _ mem => nomatch mem
  | cons head rest ih =>
    obtain ⟨first, others⟩ := List.pairwise_cons.mp ascending
    have start := above head List.mem_cons_self
    have next := toNat_succ start
    unfold Db.walkHorizon
    split
    · rename_i reached
      have height : head.toNat = max.toNat + 1 := reached ▸ next
      have walked := ih others first
      have up := walked.le
      refine ⟨by omega, fun seq low high => ?_, fun seq mem high => ?_,
        fun seq mem => .tail _ (walked.within seq mem), walked.gap,
        walked.ascending⟩
      · by_cases same : seq.toNat = max.toNat + 1
        · rw [UInt64.toNat_inj.mp (same.trans height.symm)]
          exact List.mem_cons_self
        · exact .tail _ (walked.covered seq (by omega) high)
      · cases mem with
        | head => omega
        | tail _ mem => exact walked.remain seq mem high
    · rename_i missed
      have apart : head.toNat ≠ max.toNat + 1 := fun same =>
        missed (UInt64.toNat_inj.mp (same.trans next.symm))
      refine ⟨Nat.le_refl _, fun seq low high => ?_, fun seq mem _ => mem, fun seq mem => mem,
        fun seq mem => ?_, ascending⟩
      · exact absurd high (Nat.not_le.mpr low)
      show max.toNat + 1 < seq.toNat
      cases mem with
      | head => omega
      | tail _ mem =>
        have := first seq mem
        omega

theorem has_markWindow (ascending : Ascending seqs) (above : ∀ seq ∈ seqs, base.toNat ≤ seq.toNat)
    (room : bits ≤ 8 * bitmap.length) (index : Nat) :
    Bitmap.has (Db.markWindow base bits seqs bitmap lastSet).1 index = true ↔
      Bitmap.has bitmap index = true ∨
        index < bits ∧ ∃ seq ∈ seqs, seq.toNat = base.toNat + index := by
  induction seqs generalizing bitmap lastSet with
  | nil => simp [Db.markWindow]
  | cons head rest ih =>
    obtain ⟨first, others⟩ := List.pairwise_cons.mp ascending
    have start := above head List.mem_cons_self
    unfold Db.markWindow
    simp only
    split
    · rename_i past
      constructor
      · exact .inl
      · rintro (marked | ⟨inside, seq, mem, same⟩)
        · exact marked
        · cases mem with
          | head => omega
          | tail _ mem =>
            have := first seq mem
            omega
    · rename_i inside
      have placed : (head.toNat - base.toNat) / 8 < bitmap.length := by omega
      rw [ih others (fun seq mem => above seq (.tail _ mem))
        (by rwa [Bitmap.length_set]), Bitmap.has_set placed]
      constructor
      · rintro ((rfl | marked) | ⟨bound, seq, mem, same⟩)
        · exact .inr ⟨by omega, head, List.mem_cons_self, by omega⟩
        · exact .inl marked
        · exact .inr ⟨bound, seq, .tail _ mem, same⟩
      · rintro (marked | ⟨bound, seq, mem, same⟩)
        · exact .inl (.inr marked)
        · cases mem with
          | head => exact .inl (.inl (by omega))
          | tail _ mem => exact .inr ⟨bound, seq, mem, same⟩

/-- No bit is set past the last one. -/
def Marked (bitmap : Bytes) (lastSet : Option Nat) : Prop :=
  ∀ index, Bitmap.has bitmap index = true → ∃ last, lastSet = some last ∧ index ≤ last

theorem marked_markWindow (ascending : Ascending seqs)
    (above : ∀ seq ∈ seqs, base.toNat ≤ seq.toNat)
    (later : ∀ last, lastSet = some last → ∀ seq ∈ seqs,
      base.toNat + last ≤ seq.toNat) (room : bits ≤ 8 * bitmap.length)
    (marked : Marked bitmap lastSet) :
    Marked (Db.markWindow base bits seqs bitmap lastSet).1
      (Db.markWindow base bits seqs bitmap lastSet).2 := by
  induction seqs generalizing bitmap lastSet with
  | nil => exact marked
  | cons head rest ih =>
    obtain ⟨first, others⟩ := List.pairwise_cons.mp ascending
    have start := above head List.mem_cons_self
    unfold Db.markWindow
    simp only
    split
    · exact marked
    · rename_i inside
      have placed : (head.toNat - base.toNat) / 8 < bitmap.length := by omega
      refine ih others (fun seq mem => above seq (.tail _ mem)) ?_ (by rwa [Bitmap.length_set]) ?_
      · rintro last ⟨⟩ seq mem
        have := first seq mem
        omega
      · intro index has
        rw [Bitmap.has_set placed] at has
        rcases has with rfl | has
        · exact ⟨_, rfl, Nat.le_refl _⟩
        · obtain ⟨last, same, bound⟩ := marked index has
          have := later last same head List.mem_cons_self
          exact ⟨_, rfl, by omega⟩

theorem has_trimmed (marked : Marked bitmap lastSet) (index : Nat) :
    Bitmap.has (bitmap.take (lastSet.elim 0 (· / 8 + 1))) index =
      Bitmap.has bitmap index := by
  rw [Bitmap.has_take]
  cases has : Bitmap.has bitmap index with
  | false => rw [Bool.and_false]
  | true =>
    obtain ⟨last, rfl, bound⟩ := marked index has
    have inside : index / 8 < last / 8 + 1 := by omega
    simp [inside]

structure Viewed (seqs : List UInt64) (bits : Nat) (view : ReceiveView) :
    Prop where
  covered : ∀ seq : UInt64, 0 < seq.toNat → seq.toNat ≤ view.maxContiguousSeq.toNat → seq ∈ seqs
  stops : ∀ seq ∈ seqs, seq.toNat ≠ view.maxContiguousSeq.toNat + 1
  marks : ∀ index, Bitmap.has view.bitmap index = true ↔ index < bits ∧ ∃ seq ∈ seqs,
      seq.toNat = view.maxContiguousSeq.toNat + 1 + index

theorem viewed_viewOf (bits : Nat) (ascending : Ascending seqs)
    (positive : ∀ seq ∈ seqs, 0 < seq.toNat) :
    Viewed seqs bits (Db.viewOf seqs bits) := by
  have walked : Walked 0 seqs (Db.walkHorizon 0 seqs) := walked_walkHorizon ascending positive
  have room : bits ≤ 8 * (List.replicate ((bits + 7) / 8) (0 : UInt8)).length := by
    rw [List.length_replicate]
    omega
  unfold Db.viewOf
  simp only
  generalize Db.walkHorizon 0 seqs = result at walked
  obtain ⟨max, rest⟩ := result
  have gap : ∀ seq ∈ rest, max.toNat + 1 < seq.toNat := walked.gap
  have remain : ∀ seq ∈ seqs, max.toNat < seq.toNat → seq ∈ rest := walked.remain
  have height : ∀ seq ∈ rest, (max + 1).toNat = max.toNat + 1 :=
    fun seq mem => toNat_succ (Nat.lt_of_succ_lt (gap seq mem))
  have above : ∀ seq ∈ rest, (max + 1).toNat ≤ seq.toNat := by
    intro seq mem
    rw [height seq mem]
    exact Nat.le_of_lt (gap seq mem)
  have clear : Marked (List.replicate ((bits + 7) / 8) 0) none := by
    intro index has
    rw [Bitmap.has_zeros] at has
    cases has
  have nothing : ∀ last, none = some last → ∀ seq ∈ rest,
      (max + 1).toNat + last ≤ seq.toNat := fun _ never => nomatch never
  refine ⟨walked.covered, fun seq mem same => ?_, fun index => ?_⟩
  · have same : seq.toNat = max.toNat + 1 := same
    have late := gap seq (remain seq mem (by omega))
    omega
  · show _ ↔ index < bits ∧ ∃ seq ∈ seqs, seq.toNat = max.toNat + 1 + index
    rw [has_trimmed (marked_markWindow walked.ascending above nothing room
        clear), has_markWindow walked.ascending above room, Bitmap.has_zeros]
    constructor
    · rintro (never | ⟨bound, seq, mem, same⟩)
      · cases never
      · rw [height seq mem] at same
        exact ⟨bound, seq, walked.within seq mem, same⟩
    · rintro ⟨bound, seq, mem, same⟩
      have kept : seq ∈ rest := remain seq mem (by omega)
      exact .inr ⟨bound, seq, kept, by rw [height seq kept, same]⟩

theorem isMissing_eq_false_iff {max : UInt64} (positive : 0 < seq.toNat) :
    isMissing max bitmap seq = false ↔ seq.toNat ≤ max.toNat ∨
      max.toNat < seq.toNat ∧ seq.toNat - max.toNat - 1 < bitmapBits ∧
        Bitmap.has bitmap (seq.toNat - max.toNat - 1) = true := by
  have nonzero : seq ≠ 0 := by
    rintro rfl
    exact absurd positive (by decide)
  unfold isMissing
  by_cases low : seq.toNat ≤ max.toNat
  · simp [nonzero, UInt64.le_iff_toNat_le, low]
  · have bound := seq.toNat_lt
    have offset : (seq - max - 1).toNat = seq.toNat - max.toNat - 1 := by
      rw [UInt64.toNat_sub_of_le _ _ (by
          rw [UInt64.le_iff_toNat_le, UInt64.toNat_sub_of_le _ _ (by
            rw [UInt64.le_iff_toNat_le]; omega)]
          show 1 ≤ _
          omega),
        UInt64.toNat_sub_of_le _ _ (by rw [UInt64.le_iff_toNat_le]; omega)]
      rfl
    have high : max.toNat < seq.toNat := Nat.not_le.mp low
    simp only [nonzero, UInt64.le_iff_toNat_le, low, or_self, if_false, offset,
      false_or, high, true_and]
    by_cases inside : seq.toNat - max.toNat - 1 < bitmapBits
    · simp [inside, Nat.not_le.mpr inside]
    · simp [inside, Nat.not_lt.mp inside]

theorem Viewed.isMissing_eq_false_iff (viewed : Viewed seqs bitmapBits view)
    (positive : 0 < seq.toNat) :
    isMissing view.maxContiguousSeq view.bitmap seq = false ↔
      seq.toNat ≤ view.maxContiguousSeq.toNat ∨ seq ∈ seqs ∧
        seq.toNat ≤ view.maxContiguousSeq.toNat + bitmapBits := by
  rw [Repair.isMissing_eq_false_iff positive, viewed.marks]
  constructor
  · rintro (low | ⟨high, -, bound, other, mem, same⟩)
    · exact .inl low
    · have equal : other = seq := UInt64.toNat_inj.mp (by omega)
      exact .inr ⟨equal ▸ mem, by omega⟩
  · rintro (low | ⟨mem, bound⟩)
    · exact .inl low
    · by_cases low : seq.toNat ≤ view.maxContiguousSeq.toNat
      · exact .inl low
      · exact .inr ⟨by omega, by omega, by omega, seq, mem, by omega⟩

end SChatCore.Repair
