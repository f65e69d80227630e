import SChatCore.Engine.Api
import SChatCore.Engine.Burst
import SChatCore.Repair.Exact

namespace SChatCore.Repair

open Data Wire Store Engine

/-! The digest of a request: read from the store on one side, computed from the
horizon on the other. -/

theorem toNat_ofNat_of_seq (small : value < 2 ^ 64) : (UInt64.ofNat value).toNat = value :=
  UInt64.toNat_ofNat_of_lt' small

theorem toNat_deepBase (max : UInt64) : (deepBase max).toNat = max.toNat - 4096 + 1 := by
  have bound := max.toNat_lt
  have window : deepWindow.toNat = 4096 := rfl
  unfold deepBase
  rw [toNat_ofNat_of_seq (by omega), window]
  omega

theorem mem_contiguousSeqs {max seq : UInt64} : seq ∈ contiguousSeqs max ↔
      max.toNat - 4096 + 1 ≤ seq.toNat ∧ seq.toNat ≤ max.toNat := by
  have bound := max.toNat_lt
  unfold contiguousSeqs
  rw [List.mem_map, toNat_deepBase]
  constructor
  · rintro ⟨value, mem, rfl⟩
    obtain ⟨low, high⟩ := List.mem_range'_1.mp mem
    rw [toNat_ofNat_of_seq (by omega)]
    omega
  · rintro ⟨low, high⟩
    exact ⟨seq.toNat, List.mem_range'_1.mpr (by omega), UInt64.ofNat_toNat⟩

theorem ascending_contiguousSeqs (max : UInt64) : Ascending (contiguousSeqs max) := by
  have bound := max.toNat_lt
  unfold contiguousSeqs Ascending
  rw [List.pairwise_map, toNat_deepBase]
  refine List.Pairwise.imp_of_mem (fun one two before => ?_) List.pairwise_lt_range'
  have first := (List.mem_range'_1.mp one).2
  have second := (List.mem_range'_1.mp two).2
  rw [toNat_ofNat_of_seq (by omega), toNat_ofNat_of_seq (by omega)]
  exact before

theorem Ascending.eq_of_mem_iff (one : Ascending first)
    (two : Ascending second) (same : ∀ seq, seq ∈ first ↔ seq ∈ second) :
    first = second := by
  have distinct : ∀ {seqs : List UInt64}, Ascending seqs → seqs.Nodup :=
    fun ascending => ascending.imp fun before equal =>
      absurd (congrArg UInt64.toNat equal) (ne_of_lt before)
  refine List.Perm.eq_of_pairwise (fun _ _ _ _ before after => ?_) one two
    ((List.perm_ext_iff_of_nodup (distinct one) (distinct two)).mpr same)
  exact absurd after (lt_asymm before)

theorem deepSeqs_eq {db : Db} (plain : ∀ seq, db.hasInboundSeq rel seq = true →
      0 < seq.toNat ∧ seq.toNat < 2 ^ 63) :
    db.deepSeqs rel (deepBase (db.receiveView rel bitmapBits).maxContiguousSeq)
        (db.receiveView rel bitmapBits).maxContiguousSeq =
      contiguousSeqs (db.receiveView rel bitmapBits).maxContiguousSeq := by
  have covered := (viewed_receiveView plain).covered
  have small := maxContiguousSeq_lt (by decide) plain fun seq noted =>
    (plain seq noted).2
  generalize (db.receiveView rel bitmapBits).maxContiguousSeq = max at *
  have base := toNat_deepBase max
  refine Ascending.eq_of_mem_iff ?_ (ascending_contiguousSeqs max) fun seq => ?_
  · exact (ascending_inboundSeqsOf fun seq noted =>
      (plain seq noted).2).sublist List.filter_sublist
  rw [mem_contiguousSeqs, Db.deepSeqs, List.mem_filter, mem_inboundSeqsOf,
    Bool.and_eq_true, decide_eq_true_eq, decide_eq_true_eq,
    signed_of_lt (by omega), signed_of_lt small]
  constructor
  · rintro ⟨noted, low, high⟩
    rw [signed_of_lt (plain seq noted).2] at low high
    omega
  · rintro ⟨low, high⟩
    rw [signed_of_lt (by omega)]
    refine ⟨mem_inboundSeqsOf.mp (List.mem_of_mem_take
      (covered seq (by omega) high)), by omega, by omega⟩

theorem historyHash_eq_contiguous (sys : Platform) (unbroken : sessionState eng.db rel ≠ .broken)
    (plain : ∀ seq, eng.db.hasInboundSeq rel seq = true → 0 < seq.toNat ∧ seq.toNat < 2 ^ 63) :
    ∃ request, (buildRequest sys rel).run eng = .ok request eng ∧
      request.historyHash = hashContiguous sys.sha256
        request.maxContiguousSeq request.receivedSeqBitmap := by
  refine ⟨_, run_buildRequest unbroken, ?_⟩
  show historyHash sys.sha256 _ _ (Db.deepSeqs _ _ _ _) = _
  rw [deepSeqs_eq plain]
  rfl

def gapped : Engine :=
  Engine.new ((((paired (newRelationship "bob" .inviter .active "" [] false
    0)).noteInboundSeq "bob" 1).noteInboundSeq "bob" 2).noteInboundSeq "bob" 4)
    0

theorem gapped_hash : ∃ request, (buildRequest .loopback "bob").run gapped = .ok request gapped ∧
      request.historyHash = hashContiguous Platform.loopback.sha256
        request.maxContiguousSeq request.receivedSeqBitmap := by
  refine historyHash_eq_contiguous .loopback (by decide +kernel) fun seq => ?_
  simp only [gapped, Engine.new, Db.hasInboundSeq_noteInboundSeq]
  rintro (⟨-, rfl⟩ | ⟨-, rfl⟩ | ⟨-, rfl⟩ | noted)
  · decide
  · decide
  · decide
  · cases noted

end SChatCore.Repair
