import SChatCore.Engine.Attach
import Mathlib.Algebra.Order.BigOperators.Group.List

namespace SChatCore.Attach

open Data Wire Store Engine

/-! The chunk rows of one transfer. -/

/-- The rows under `headId` are exactly the pieces of `bytes` at the indexes in
`stored`, and the relationship has no other chunks. -/
structure Stored (rel : RelId) (headId : MsgId) (bytes : Bytes) (db : Db)
    (stored : Finset Nat) : Prop where
  inside : stored ⊆ Finset.range (pieceCount chunkDataMax bytes)
  sound : ∀ row ∈ db.chunks, row.headId = headId →
    row.idx.toNat ∈ stored ∧ row.data = piece chunkDataMax bytes row.idx.toNat
  present : ∀ index ∈ stored, ∃ row ∈ db.chunks, row.headId = headId ∧ row.idx.toNat = index
  alone : ∀ row ∈ db.chunks, row.relId = rel → row.headId = headId

namespace Stored

theorem empty (foreign : ∀ row ∈ db.chunks, row.headId ≠ headId ∧ row.relId ≠ rel) :
    Stored rel headId bytes db ∅ where
  inside := Finset.empty_subset _
  sound := fun row mem same => absurd same (foreign row mem).1
  present := fun index mem => absurd mem (Finset.notMem_empty index)
  alone := fun row mem same => absurd same (foreign row mem).2

theorem congr (holds : Stored rel headId bytes db stored)
    (same : db'.chunks = db.chunks) : Stored rel headId bytes db' stored where
  inside := holds.inside
  sound := same ▸ holds.sound
  present := same ▸ holds.present
  alone := same ▸ holds.alone

/-- Rows of the transfer as the store selects them. -/
abbrev rows (headId : MsgId) (db : Db) : List ChunkRow :=
  db.chunks.select fun row => row.headId = headId

theorem mem_rows : row ∈ rows headId db ↔ row ∈ db.chunks ∧ row.headId = headId := by
  simp [rows]

theorem nodup_rows (headId : MsgId) (db : Db) : (rows headId db).Nodup :=
  (List.Nodup.of_map _ db.chunks.nodup).filter _

theorem nodup_indexes (headId : MsgId) (db : Db) :
    ((rows headId db).map fun row => row.idx.toNat).Nodup := by
  refine (List.nodup_map_iff_inj_on (nodup_rows headId db)).mpr ?_
  intro first hfirst second hsecond same
  obtain ⟨memberFirst, headFirst⟩ := mem_rows.mp hfirst
  obtain ⟨memberSecond, headSecond⟩ := mem_rows.mp hsecond
  refine Table.eq_of_key_eq memberFirst memberSecond ?_
  unfold ChunkRow.key
  rw [headFirst, headSecond, UInt16.toNat_inj.mp same]

theorem toFinset_indexes (holds : Stored rel headId bytes db stored) :
    ((rows headId db).map fun row => row.idx.toNat).toFinset = stored := by
  ext index
  rw [List.mem_toFinset, List.mem_map]
  constructor
  · rintro ⟨row, mem, rfl⟩
    obtain ⟨here, head⟩ := mem_rows.mp mem
    exact (holds.sound row here head).1
  · intro mem
    obtain ⟨row, here, head, rfl⟩ := holds.present index mem
    exact ⟨row, mem_rows.mpr ⟨here, head⟩, rfl⟩

theorem length_rows (holds : Stored rel headId bytes db stored) :
    (rows headId db).length = stored.card := by
  rw [← holds.toFinset_indexes,
    List.toFinset_card_of_nodup (nodup_indexes headId db), List.length_map]

theorem sum_rows (holds : Stored rel headId bytes db stored) :
    ((rows headId db).map fun row => row.data.length).sum =
      ∑ index ∈ stored, (piece chunkDataMax bytes index).length := by
  rw [← holds.toFinset_indexes, List.sum_toFinset _ (nodup_indexes headId db), List.map_map]
  refine congrArg List.sum (List.map_congr_left fun row mem => ?_)
  obtain ⟨here, head⟩ := mem_rows.mp mem
  rw [(holds.sound row here head).2]
  rfl

theorem chunk_of_mem (holds : Stored rel headId bytes db stored) (mem : index.toNat ∈ stored) :
    db.chunk headId index = some (piece chunkDataMax bytes index.toNat) := by
  obtain ⟨row, here, head, same⟩ := holds.present _ mem
  have key : row.key = (headId, index) := by
    unfold ChunkRow.key
    rw [head, UInt16.toNat_inj.mp same]
  unfold Db.chunk
  rw [Table.lookup_eq_some.mpr ⟨here, key⟩, Option.map_some, (holds.sound row here head).2, same]

theorem lookup_of_not_mem (holds : Stored rel headId bytes db stored)
    (missing : index.toNat ∉ stored) :
    db.chunks.lookup (headId, index) = none := by
  rw [Table.lookup_eq_none]
  intro row here key
  cases key
  exact missing (holds.sound row here rfl).1

theorem length_chunksFor (holds : Stored rel headId bytes db stored) :
    (db.chunksFor headId).length = stored.card := by
  unfold Db.chunksFor Db.chunkRowsFor
  rw [List.length_map, List.length_insertionSort]
  exact holds.length_rows

theorem pairwise_chunkRowsFor (headId : MsgId) (db : Db) :
    (db.chunkRowsFor headId).Pairwise fun first second =>
      first.idx ≤ second.idx := by
  have total : Std.Total fun first second : ChunkRow =>
      first.idx ≤ second.idx :=
    ⟨fun first second => UInt16.le_total first.idx second.idx⟩
  have trans : IsTrans ChunkRow fun first second => first.idx ≤ second.idx :=
    ⟨fun _ _ _ => UInt16.le_trans⟩
  exact List.pairwise_insertionSort _ _

theorem indexes_chunkRowsFor (holds : Stored rel headId bytes db
    (Finset.range (pieceCount chunkDataMax bytes))) :
    (db.chunkRowsFor headId).map (fun row => row.idx.toNat) =
      List.range (pieceCount chunkDataMax bytes) := by
  have perm : ((db.chunkRowsFor headId).map fun row => row.idx.toNat).Perm
      (List.range (pieceCount chunkDataMax bytes)) := by
    refine ((List.perm_insertionSort _ _).map _).trans ?_
    refine (List.perm_ext_iff_of_nodup (nodup_indexes headId db)
      List.nodup_range).mpr fun index => ?_
    rw [← List.mem_toFinset, holds.toFinset_indexes, Finset.mem_range, List.mem_range]
  have sorted : ((db.chunkRowsFor headId).map fun row =>
      row.idx.toNat).Pairwise (· ≤ ·) := by
    rw [List.pairwise_map]
    exact (pairwise_chunkRowsFor headId db).imp UInt16.le_iff_toNat_le.mp
  exact perm.eq_of_pairwise' sorted (List.pairwise_le_range)

theorem flatten_chunksFor (holds : Stored rel headId bytes db
    (Finset.range (pieceCount chunkDataMax bytes))) :
    (db.chunksFor headId).flatten = bytes := by
  have listed : db.chunksFor headId = pieces chunkDataMax bytes := by
    unfold pieces
    rw [← holds.indexes_chunkRowsFor, List.map_map]
    refine List.map_congr_left fun row mem => ?_
    have selected : row ∈ rows headId db := (List.perm_insertionSort _ _).mem_iff.mp mem
    obtain ⟨here, head⟩ := mem_rows.mp selected
    exact (holds.sound row here head).2
  rw [listed, flatten_pieces (by decide)]

theorem pieceCount_le (small : bytes.length ≤ maxAttach) : pieceCount chunkDataMax bytes ≤ 940 := by
  unfold pieceCount chunkDataMax
  unfold maxAttach at small
  omega

theorem sum_add_piece_le (holds : Stored rel headId bytes db stored) (missing : index ∉ stored)
    (bounded : index < pieceCount chunkDataMax bytes) :
    ∑ other ∈ stored, (piece chunkDataMax bytes other).length +
      (piece chunkDataMax bytes index).length ≤ bytes.length := by
  have joined := Finset.sum_insert missing
    (f := fun other => (piece chunkDataMax bytes other).length)
  have subset := Finset.insert_subset (Finset.mem_range.mpr bounded) holds.inside
  rw [Nat.add_comm, ← joined]
  refine (Finset.sum_le_sum_of_subset subset).trans_eq ?_
  exact sum_length_piece (by decide) bytes

theorem card_lt (holds : Stored rel headId bytes db stored) (missing : index ∉ stored)
    (bounded : index < pieceCount chunkDataMax bytes) :
    stored.card < pieceCount chunkDataMax bytes := by
  have card := Finset.card_le_card (Finset.insert_subset
    (Finset.mem_range.mpr bounded) holds.inside)
  rw [Finset.card_insert_of_notMem missing, Finset.card_range] at card
  omega

theorem orphanRel_sublist (holds : Stored rel headId bytes db stored) : (db.chunks.select fun row =>
      row.relId = rel && (db.attachment row.headId).isNone).Sublist
      (rows headId db) := by
  unfold Table.select
  have nested : db.chunks.rows.filter (fun row =>
      row.relId = rel && (db.attachment row.headId).isNone) =
      (rows headId db).filter fun row =>
        row.relId = rel && (db.attachment row.headId).isNone := by
    unfold rows Table.select
    rw [List.filter_filter]
    refine List.filter_congr fun row mem => ?_
    by_cases ours : row.relId = rel
    · simp [ours, holds.alone row mem ours]
    · simp [ours]
  rw [nested]
  exact List.filter_sublist

theorem not_orphanCapped (holds : Stored rel headId bytes db stored)
    (small : bytes.length ≤ maxAttach) (ours : chunk.headId = headId)
    (missing : chunk.index.toNat ∉ stored)
    (bounded : chunk.index.toNat < pieceCount chunkDataMax bytes)
    (data : chunk.data = piece chunkDataMax bytes chunk.index.toNat) :
    orphanCapped db rel chunk = false := by
  have count := pieceCount_le small
  have fewer := holds.card_lt missing bounded
  have room := holds.sum_add_piece_le missing bounded
  have relCount := holds.orphanRel_sublist.length_le
  have relBytes := (holds.orphanRel_sublist.map fun row =>
    row.data.length).sum_le_sum (fun _ _ => Nat.zero_le _)
  rw [holds.length_rows] at relCount
  rw [holds.sum_rows] at relBytes
  have headStats : db.orphanHeadStats chunk.headId = (stored.card,
      ∑ other ∈ stored, (piece chunkDataMax bytes other).length) := by
    unfold Db.orphanHeadStats Db.stats
    rw [ours, ← holds.length_rows, ← holds.sum_rows]
  unfold orphanCapped Db.orphanRelStats Db.stats
  rw [headStats, data]
  unfold maxOrphanChunksPerHead maxOrphanBytesPerHead maxOrphanChunksPerRel maxOrphanBytesPerRel
  unfold maxAttach at small
  simp only [Bool.or_eq_false_iff, decide_eq_false_iff_not]
  omega

theorem putChunk (holds : Stored rel headId bytes db stored)
    (bounded : index.toNat < pieceCount chunkDataMax bytes) (now : Nat) :
    ∃ chunks, db.putChunk headId index (piece chunkDataMax bytes index.toNat) rel now =
          .ok { db with chunks } ∧
      Stored rel headId bytes { db with chunks } (insert index.toNat stored) := by
  by_cases mem : index.toNat ∈ stored
  · refine ⟨db.chunks, ?_, ?_⟩
    · unfold Db.putChunk
      rw [holds.chunk_of_mem mem]
      simp
    · rw [Finset.insert_eq_self.mpr mem]
      exact holds
  · have fresh := holds.lookup_of_not_mem mem
    obtain ⟨chunks, inserted, -⟩ := Table.insert_of_fresh
      { headId, idx := index, data := piece chunkDataMax bytes index.toNat
        relId := rel, createdAt := now : ChunkRow } fresh
    refine ⟨chunks, ?_, ?_⟩
    · unfold Db.putChunk Db.chunk
      rw [fresh]
      simp [inserted]
    · constructor
      · exact Finset.insert_subset (Finset.mem_range.mpr bounded) holds.inside
      · intro row here head
        rcases (Table.mem_insert inserted).mp here with old | rfl
        · obtain ⟨known, data⟩ := holds.sound row old head
          exact ⟨Finset.mem_insert_of_mem known, data⟩
        · exact ⟨Finset.mem_insert_self _ _, rfl⟩
      · intro other known
        rcases Finset.mem_insert.mp known with rfl | known
        · exact ⟨_, (Table.mem_insert inserted).mpr (.inr rfl), rfl, rfl⟩
        · obtain ⟨row, here, found⟩ := holds.present other known
          exact ⟨row, (Table.mem_insert inserted).mpr (.inl here), found⟩
      · intro row here same
        rcases (Table.mem_insert inserted).mp here with old | rfl
        · exact holds.alone row old same
        · rfl

end Stored

end SChatCore.Attach
