import SChatCore.Repair.View

namespace SChatCore.Repair

open Data Wire Store Engine

/-! Noted numbers in the order the scan reads them: by their signed value. -/

theorem signed_eq (seq : UInt64) : signed seq = if 2 * seq.toNat < 2 ^ 64 then (seq.toNat : Int)
      else (seq.toNat : Int) - (2 ^ 64 : Nat) :=
  BitVec.toInt_eq_toNat_cond seq.toBitVec

theorem signed_of_lt (low : seq.toNat < 2 ^ 63) : signed seq = seq.toNat := by
  rw [signed_eq, if_pos (by omega)]

theorem signed_neg_iff (seq : UInt64) : signed seq < 0 ↔ 2 ^ 63 ≤ seq.toNat := by
  have bound := seq.toNat_lt
  rw [signed_eq]
  split <;> omega

theorem signed_injective (same : signed first = signed second) : first = second := by
  have one := first.toNat_lt
  have two := second.toNat_lt
  rw [signed_eq, signed_eq] at same
  apply UInt64.toNat_inj.mp
  split at same <;> split at same <;> omega

variable {db : Db}

theorem mem_inboundSeqsOf : seq ∈ db.inboundSeqsOf rel ↔ db.hasInboundSeq rel seq = true := by
  unfold Db.inboundSeqsOf Db.hasInboundSeq
  rw [List.mem_insertionSort, List.mem_map, Table.lookup_isSome]
  constructor
  · rintro ⟨row, mem, rfl⟩
    obtain ⟨mem, own⟩ := Table.mem_select.mp mem
    refine ⟨row, mem, ?_⟩
    rw [← of_decide_eq_true own]
    rfl
  · rintro ⟨row, mem, same⟩
    obtain rfl : row = { relId := rel, appSeq := seq } := same
    exact ⟨_, Table.mem_select.mpr ⟨mem, decide_eq_true rfl⟩, rfl⟩

theorem nodup_inboundSeqsOf : (db.inboundSeqsOf rel).Nodup := by
  unfold Db.inboundSeqsOf
  refine (List.perm_insertionSort _ _).nodup_iff.mpr ?_
  have rows := db.inboundSeqs.nodup
  rw [List.map_id] at rows
  refine List.Nodup.map_on ?_ (rows.filter _)
  intro first mem second other same
  have one := of_decide_eq_true (Table.mem_select.mp mem).2
  have two := of_decide_eq_true (Table.mem_select.mp other).2
  cases first
  cases second
  simp_all

theorem pairwise_inboundSeqsOf : (db.inboundSeqsOf rel).Pairwise fun first second =>
      signed first < signed second := by
  have sorted : (db.inboundSeqsOf rel).Pairwise fun first second =>
      signed first ≤ signed second := by
    unfold Db.inboundSeqsOf
    have : IsTrans UInt64 fun first second => signed first ≤ signed second :=
      ⟨fun _ _ _ => le_trans⟩
    have : Std.Total fun first second : UInt64 =>
      signed first ≤ signed second := ⟨fun _ _ => le_total _ _⟩
    exact List.pairwise_insertionSort _ _
  refine (sorted.and nodup_inboundSeqsOf).imp fun ⟨le, ne⟩ => ?_
  exact lt_of_le_of_ne le fun same => ne (signed_injective same)

theorem ascending_inboundSeqsOf
    (low : ∀ seq, db.hasInboundSeq rel seq = true → seq.toNat < 2 ^ 63) :
    Ascending (db.inboundSeqsOf rel) := by
  refine pairwise_inboundSeqsOf.imp_of_mem fun one two before => ?_
  rw [signed_of_lt (low _ (mem_inboundSeqsOf.mp one)),
    signed_of_lt (low _ (mem_inboundSeqsOf.mp two))] at before
  exact Int.ofNat_lt.mp before

def notedThrough (db : Db) (rel : RelId) (bound : Nat) : Nat :=
  (db.inboundSeqs.select fun row =>
    row.relId = rel && row.appSeq.toNat ≤ bound).length

theorem notedThrough_eq (bound : Nat) : notedThrough db rel bound = ((db.inboundSeqsOf rel).filter
      fun seq => seq.toNat ≤ bound).length := by
  unfold Db.inboundSeqsOf
  rw [((List.perm_insertionSort _ _).filter _).length_eq, List.filter_map, List.length_map]
  unfold notedThrough Table.select
  rw [List.filter_filter]
  simp only [Function.comp_def, Bool.and_comm]

theorem mem_take_of_filter (ascending : Ascending seqs)
    (few : (seqs.filter fun seq => seq.toNat ≤ bound).length ≤ limit)
    (mem : seq ∈ seqs) (low : seq.toNat ≤ bound) :
    seq ∈ seqs.take limit := by
  rw [← List.take_append_drop limit seqs] at mem ascending few
  rcases List.mem_append.mp mem with front | back
  · exact front
  · exfalso
    obtain ⟨-, -, across⟩ := List.pairwise_append.mp ascending
    have whole : (seqs.take limit).filter (fun seq => seq.toNat ≤ bound) =
        seqs.take limit := by
      rw [List.filter_eq_self]
      intro other inside
      have := across other inside seq back
      exact decide_eq_true (by omega)
    have full : (seqs.take limit).length = limit := by
      have := List.length_pos_of_mem back
      rw [List.length_drop] at this
      rw [List.length_take]
      omega
    have extra : 0 < ((seqs.drop limit).filter fun seq => seq.toNat ≤ bound).length :=
      List.length_pos_of_mem (List.mem_filter.mpr ⟨back, decide_eq_true low⟩)
    rw [List.filter_append, whole, List.length_append, full] at few
    omega

def IsHorizon (noted : UInt64 → Prop) (max : UInt64) : Prop :=
  (∀ seq : UInt64, 1 ≤ seq → seq ≤ max → noted seq) ∧
    ∀ other : UInt64, (∀ seq : UInt64, 1 ≤ seq → seq ≤ other → noted seq) → other ≤ max

theorem one_le_iff {seq : UInt64} : 1 ≤ seq ↔ 0 < seq.toNat := by
  rw [UInt64.le_iff_toNat_le]
  exact Iff.rfl

theorem isHorizon_of_stop {max : UInt64}
    (covered : ∀ seq : UInt64, 0 < seq.toNat → seq.toNat ≤ max.toNat → noted seq)
    (stops : ∀ seq : UInt64, seq.toNat = max.toNat + 1 → ¬ noted seq) :
    IsHorizon noted max := by
  refine ⟨fun seq low high => covered seq (one_le_iff.mp low)
    (UInt64.le_iff_toNat_le.mp high), fun other reached => ?_⟩
  rw [UInt64.le_iff_toNat_le]
  by_contra above
  have next := toNat_succ (Nat.not_le.mp above)
  refine stops (max + 1) next (reached _ ?_ ?_)
  · rw [one_le_iff, next]
    omega
  · rw [UInt64.le_iff_toNat_le, next]
    omega

/-- The view tells exactly what was noted, inside its window. -/
def ExactView (db : Db) (rel : RelId) : Prop :=
  let view := db.receiveView rel bitmapBits
  IsHorizon (fun seq => db.hasInboundSeq rel seq = true) view.maxContiguousSeq ∧
    ∀ seq : UInt64, 1 ≤ seq → (isMissing view.maxContiguousSeq view.bitmap seq = false ↔
        seq ≤ view.maxContiguousSeq ∨ db.hasInboundSeq rel seq = true ∧
          seq.toNat ≤ view.maxContiguousSeq.toNat + bitmapBits)

theorem viewed_receiveView (plain : ∀ seq, db.hasInboundSeq rel seq = true →
      0 < seq.toNat ∧ seq.toNat < 2 ^ 63) :
    Viewed ((db.inboundSeqsOf rel).take viewScanLimit) bitmapBits
      (db.receiveView rel bitmapBits) := by
  refine viewed_viewOf bitmapBits ?_ fun seq mem => ?_
  · exact (ascending_inboundSeqsOf fun seq noted => (plain seq noted).2).sublist
      (List.take_sublist _ _)
  · exact (plain seq (mem_inboundSeqsOf.mp (List.mem_of_mem_take mem))).1

/-- Plain numbers: the view is exact if the scan reaches the end of the
window. -/
theorem exactView_of_plain (plain : ∀ seq, db.hasInboundSeq rel seq = true →
      0 < seq.toNat ∧ seq.toNat < 2 ^ 63) :
    ExactView db rel ↔ ∃ max, IsHorizon (fun seq => db.hasInboundSeq rel seq = true) max ∧
        notedThrough db rel (max.toNat + bitmapBits) ≤ viewScanLimit := by
  have viewed := viewed_receiveView plain
  have ascending := ascending_inboundSeqsOf fun seq noted => (plain seq noted).2
  have scanned : ∀ seq, seq ∈ (db.inboundSeqsOf rel).take viewScanLimit →
      db.hasInboundSeq rel seq = true := fun seq mem =>
    mem_inboundSeqsOf.mp (List.mem_of_mem_take mem)
  constructor
  · rintro ⟨horizon, exact⟩
    refine ⟨_, horizon, ?_⟩
    rw [notedThrough_eq]
    have inside : (db.inboundSeqsOf rel).filter (fun seq => seq.toNat ≤
        (db.receiveView rel bitmapBits).maxContiguousSeq.toNat + bitmapBits) ⊆
          (db.inboundSeqsOf rel).take viewScanLimit := by
      intro seq mem
      obtain ⟨mem, low⟩ := List.mem_filter.mp mem
      have noted := mem_inboundSeqsOf.mp mem
      have positive := (plain seq noted).1
      have told := (exact seq (one_le_iff.mpr positive)).mpr (.inr ⟨noted, of_decide_eq_true low⟩)
      rcases (viewed.isMissing_eq_false_iff positive).mp told with low | high
      · exact viewed.covered seq positive low
      · exact high.1
    have fewer := (nodup_inboundSeqsOf.filter _).length_le_of_subset inside
    exact fewer.trans (List.length_take_le _ _)
  · rintro ⟨max, horizon, few⟩
    rw [notedThrough_eq] at few
    have reached : ∀ seq, db.hasInboundSeq rel seq = true → seq.toNat ≤ max.toNat + bitmapBits →
          seq ∈ (db.inboundSeqsOf rel).take viewScanLimit :=
      fun seq noted low =>
        mem_take_of_filter ascending few (mem_inboundSeqsOf.mpr noted) low
    have below : (db.receiveView rel bitmapBits).maxContiguousSeq ≤ max :=
      horizon.2 _ fun seq low high => scanned seq
        (viewed.covered seq (one_le_iff.mp low) (UInt64.le_iff_toNat_le.mp high))
    rw [UInt64.le_iff_toNat_le] at below
    have seen : IsHorizon (fun seq => db.hasInboundSeq rel seq = true)
        (db.receiveView rel bitmapBits).maxContiguousSeq := by
      refine isHorizon_of_stop (fun seq low high =>
        scanned seq (viewed.covered seq low high)) fun seq next noted => ?_
      refine viewed.stops seq (reached seq noted ?_) next
      show _ ≤ _ + 4096
      omega
    obtain rfl := UInt64.le_antisymm (horizon.2 _ seen.1) (seen.2 _ horizon.1)
    refine ⟨seen, fun seq low => ?_⟩
    have positive := one_le_iff.mp low
    rw [viewed.isMissing_eq_false_iff positive, UInt64.le_iff_toNat_le]
    refine or_congr_right (and_congr_left fun window => ?_)
    exact ⟨scanned seq, fun noted => reached seq noted window⟩

theorem exactView_of_few (plain : ∀ seq, db.hasInboundSeq rel seq = true →
      0 < seq.toNat ∧ seq.toNat < 2 ^ 63)
    (few : (db.inboundSeqsOf rel).length ≤ viewScanLimit) :
    ExactView db rel := by
  have viewed := viewed_receiveView plain
  rw [List.take_of_length_le few] at viewed
  have horizon := isHorizon_of_stop
    (fun seq low high => mem_inboundSeqsOf.mp (viewed.covered seq low high))
    fun seq next noted => viewed.stops seq (mem_inboundSeqsOf.mpr noted) next
  refine (exactView_of_plain plain).mpr ⟨_, horizon, ?_⟩
  rw [notedThrough_eq]
  exact (List.length_filter_le _ _).trans few

theorem maxContiguousSeq_lt (room : 0 < bound) (plain : ∀ seq, db.hasInboundSeq rel seq = true →
      0 < seq.toNat ∧ seq.toNat < 2 ^ 63)
    (below : ∀ seq, db.hasInboundSeq rel seq = true → seq.toNat < bound) :
    (db.receiveView rel bitmapBits).maxContiguousSeq.toNat < bound := by
  have viewed := viewed_receiveView plain
  rcases Nat.eq_zero_or_pos (db.receiveView rel bitmapBits).maxContiguousSeq.toNat with zero | high
  · rw [zero]
    exact room
  · have mem := viewed.covered _ high (Nat.le_refl _)
    exact below _ (mem_inboundSeqsOf.mp (List.mem_of_mem_take mem))

theorem receiveView_of_high (noted : db.hasInboundSeq rel high = true)
    (past : 2 ^ 63 ≤ high.toNat) :
    db.receiveView rel bitmapBits = ⟨0, []⟩ := by
  have mem := mem_inboundSeqsOf.mpr noted
  have sorted := @pairwise_inboundSeqsOf db rel
  unfold Db.receiveView
  cases scan : db.inboundSeqsOf rel with
  | nil =>
    rw [scan] at mem
    cases mem
  | cons head rest =>
    rw [scan] at mem sorted
    have negative : signed head < 0 := by
      rw [← signed_neg_iff] at past
      cases mem with
      | head => exact past
      | tail _ mem => exact ((List.pairwise_cons.mp sorted).1 high mem).trans past
    have above := (signed_neg_iff head).mp negative
    have apart : head ≠ 0 + 1 := by
      rintro rfl
      exact absurd above (by decide)
    have outside : head.toNat - (0 + 1 : UInt64).toNat ≥ bitmapBits := by
      show _ ≤ head.toNat - 1
      unfold bitmapBits maxBitmapBytes
      omega
    show Db.viewOf (head :: rest.take 65535) bitmapBits = _
    unfold Db.viewOf Db.walkHorizon
    rw [if_neg apart]
    unfold Db.markWindow
    simp only [if_pos outside]
    rfl

theorem receiveView_of_zero (low : ∀ seq, db.hasInboundSeq rel seq = true → seq.toNat < 2 ^ 63)
    (noted : db.hasInboundSeq rel 0 = true) :
    (db.receiveView rel bitmapBits).maxContiguousSeq = 0 ∧
      Bitmap.has (db.receiveView rel bitmapBits).bitmap 0 = true := by
  have mem := mem_inboundSeqsOf.mpr noted
  have sorted := ascending_inboundSeqsOf low
  unfold Db.receiveView
  cases scan : db.inboundSeqsOf rel with
  | nil =>
    rw [scan] at mem
    cases mem
  | cons head rest =>
    rw [scan] at mem sorted
    obtain ⟨first, others⟩ := List.pairwise_cons.mp sorted
    obtain rfl : (0 : UInt64) = head := by
      cases mem with
      | head => rfl
      | tail _ mem => exact absurd (first 0 mem) (Nat.not_lt_zero _)
    have positive : ∀ seq ∈ rest.take 65535, (0 + 1 : UInt64).toNat ≤ seq.toNat := fun seq mem =>
      first seq (List.mem_of_mem_take mem)
    have taken : Ascending (rest.take 65535) := others.sublist (List.take_sublist _ _)
    have inside : 0 / 8 < (List.replicate ((bitmapBits + 7) / 8) (0 : UInt8)).length := by
      rw [List.length_replicate]
      decide
    have room : bitmapBits ≤ 8 * (Bitmap.set (List.replicate
        ((bitmapBits + 7) / 8) 0) 0).length := by
      rw [Bitmap.length_set, List.length_replicate]
      decide
    have marked : Marked (Bitmap.set (List.replicate ((bitmapBits + 7) / 8) 0) 0) (some 0) := by
      intro index has
      rw [Bitmap.has_set inside, Bitmap.has_zeros] at has
      rcases has with rfl | never
      · exact ⟨0, rfl, Nat.le_refl _⟩
      · cases never
    have later : ∀ last, some 0 = some last → ∀ seq ∈ rest.take 65535,
        (0 + 1 : UInt64).toNat + last ≤ seq.toNat := by
      rintro last ⟨⟩ seq mem
      exact positive seq mem
    show (Db.viewOf (0 :: rest.take 65535) bitmapBits).maxContiguousSeq = 0 ∧
      Bitmap.has (Db.viewOf (0 :: rest.take 65535) bitmapBits).bitmap 0 = true
    unfold Db.viewOf Db.walkHorizon
    rw [if_neg (by decide)]
    unfold Db.markWindow
    have offset : (0 : UInt64).toNat - (0 + 1 : UInt64).toNat = 0 := rfl
    simp only [offset, if_neg (show ¬ 0 ≥ bitmapBits by decide), true_and]
    rw [has_trimmed (marked_markWindow taken positive later room marked),
      has_markWindow taken positive room]
    exact .inl ((Bitmap.has_set inside 0).mpr (.inl rfl))

def Scannable (db : Db) (rel : RelId) : Prop :=
  (∃ seq, db.hasInboundSeq rel seq = true ∧ 2 ^ 63 ≤ seq.toNat) ∧
      (∀ seq, db.hasInboundSeq rel seq = true → seq = 0 ∨ bitmapBits < seq.toNat) ∨
    (∀ seq, db.hasInboundSeq rel seq = true → 0 < seq.toNat ∧ seq.toNat < 2 ^ 63) ∧
      ∃ max, IsHorizon (fun seq => db.hasInboundSeq rel seq = true) max ∧
        notedThrough db rel (max.toNat + bitmapBits) ≤ viewScanLimit

theorem isMissing_nil (positive : 0 < seq.toNat) : isMissing 0 [] seq = true := by
  rw [← Bool.not_eq_false, isMissing_eq_false_iff positive]
  rintro (low | ⟨-, -, never⟩)
  · exact absurd low (Nat.not_le.mpr positive)
  · cases never

theorem exactView_of_high (noted : db.hasInboundSeq rel high = true) (past : 2 ^ 63 ≤ high.toNat) :
    ExactView db rel ↔ ∀ seq, db.hasInboundSeq rel seq = true →
      seq = 0 ∨ bitmapBits < seq.toNat := by
  unfold ExactView
  rw [receiveView_of_high noted past]
  constructor
  · rintro ⟨-, exact⟩ seq told
    by_contra! window
    obtain ⟨nonzero, low⟩ := window
    have positive : 0 < seq.toNat :=
      Nat.pos_of_ne_zero fun zero => nonzero (UInt64.toNat_inj.mp zero)
    have seen := (exact seq (one_le_iff.mpr positive)).mpr
      (.inr ⟨told, (Nat.zero_add _).symm ▸ low⟩)
    rw [isMissing_nil positive] at seen
    cases seen
  · intro outside
    refine ⟨isHorizon_of_stop (fun seq low high => ?_) fun seq next told => ?_, fun seq low => ?_⟩
    · exact absurd high (Nat.not_le.mpr low)
    · have next : seq.toNat = 1 := next
      rcases outside seq told with rfl | far
      · cases next
      · rw [next] at far
        exact absurd far (by decide)
    · have positive := one_le_iff.mp low
      rw [isMissing_nil positive]
      constructor
      · exact fun never => nomatch never
      · rintro (zero | ⟨told, window⟩)
        · rw [UInt64.le_iff_toNat_le] at zero
          exact absurd zero (Nat.not_le.mpr positive)
        · have window : seq.toNat ≤ 0 + bitmapBits := window
          rcases outside seq told with rfl | far
          · exact absurd positive (by decide)
          · omega

/-- Exact or not, for every set of noted numbers. -/
theorem exactView_iff_scannable (db : Db) (rel : RelId) : ExactView db rel ↔ Scannable db rel := by
  by_cases high : ∃ seq, db.hasInboundSeq rel seq = true ∧ 2 ^ 63 ≤ seq.toNat
  · obtain ⟨seq, noted, past⟩ := high
    rw [exactView_of_high noted past]
    constructor
    · exact fun outside => .inl ⟨⟨seq, noted, past⟩, outside⟩
    · rintro (⟨-, outside⟩ | ⟨plain, -⟩)
      · exact outside
      · exact absurd (plain seq noted).2 (Nat.not_lt.mpr past)
  · have low : ∀ seq, db.hasInboundSeq rel seq = true → seq.toNat < 2 ^ 63 := by
      intro seq noted
      by_contra past
      exact high ⟨seq, noted, Nat.not_lt.mp past⟩
    by_cases zero : db.hasInboundSeq rel 0 = true
    · refine iff_of_false ?_ ?_
      · rintro ⟨horizon, exact⟩
        obtain ⟨bottom, bit⟩ := receiveView_of_zero low zero
        rw [bottom] at horizon exact
        have told := (exact 1 (UInt64.le_refl 1)).mp
          ((isMissing_eq_false_iff (by decide)).mpr (.inr ⟨by decide, by decide, bit⟩))
        rcases told with never | ⟨noted, -⟩
        · exact absurd never (by decide)
        · refine absurd (horizon.2 1 fun seq least most => ?_) (by decide)
          rwa [UInt64.le_antisymm most least]
      · rintro (⟨past, -⟩ | ⟨plain, -⟩)
        · exact high past
        · exact absurd (plain 0 zero).1 (Nat.lt_irrefl 0)
    · have plain : ∀ seq, db.hasInboundSeq rel seq = true → 0 < seq.toNat ∧ seq.toNat < 2 ^ 63 := by
        intro seq noted
        refine ⟨Nat.pos_of_ne_zero fun same => zero ?_, low seq noted⟩
        obtain rfl : seq = 0 := UInt64.toNat_inj.mp same
        exact noted
      rw [exactView_of_plain plain]
      exact ⟨fun exact => .inr ⟨plain, exact⟩, fun
        | .inl past => absurd past.1 high
        | .inr exact => exact.2⟩

theorem noted_of_told (nonzero : ¬ db.hasInboundSeq rel 0 = true)
    (told : isMissing (db.receiveView rel bitmapBits).maxContiguousSeq
      (db.receiveView rel bitmapBits).bitmap seq = false) :
    db.hasInboundSeq rel seq = true := by
  have positive : 0 < seq.toNat := by
    refine Nat.pos_of_ne_zero fun same => ?_
    obtain rfl : seq = 0 := UInt64.toNat_inj.mp same
    unfold isMissing at told
    simp at told
  by_cases high : ∃ other, db.hasInboundSeq rel other = true ∧ 2 ^ 63 ≤ other.toNat
  · obtain ⟨other, noted, past⟩ := high
    rw [receiveView_of_high noted past, isMissing_nil positive] at told
    cases told
  · have plain : ∀ other, db.hasInboundSeq rel other = true →
        0 < other.toNat ∧ other.toNat < 2 ^ 63 := by
      intro other noted
      constructor
      · refine Nat.pos_of_ne_zero fun same => nonzero ?_
        obtain rfl : other = 0 := UInt64.toNat_inj.mp same
        exact noted
      · by_contra past
        exact high ⟨other, noted, Nat.not_lt.mp past⟩
    have viewed := viewed_receiveView plain
    have scanned : seq ∈ (db.inboundSeqsOf rel).take viewScanLimit := by
      rcases (viewed.isMissing_eq_false_iff positive).mp told with low | high
      · exact viewed.covered seq positive low
      · exact high.1
    exact mem_inboundSeqsOf.mp (List.mem_of_mem_take scanned)

/-- One noted zero, and the view claims that one was received. -/
theorem not_exactView_zero : ¬ ExactView (Db.empty.noteInboundSeq "bob" 0) "bob" := by
  rintro ⟨-, exact⟩
  have told := (exact 1 (UInt64.le_refl 1)).mp (by decide)
  revert told
  decide

end SChatCore.Repair
