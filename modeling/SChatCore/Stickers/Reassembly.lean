import Mathlib.Algebra.BigOperators.Fin
import SChatCore.Capability.Buffers
import SChatCore.Data.Gather
import SChatCore.Engine.Stickers

namespace SChatCore.Stickers

open Data Wire Engine

/-! The transfers that the reassembly buffers take. -/

inductive Transfer
  | item (sha : Array32)
  | pack (packId : Array16)
  | thumbs (packId : Array16)
  deriving DecidableEq

namespace Transfer

def map : Transfer → PendingBuffers → PendingMap
  | .item _, buffers => buffers.items
  | .pack _, buffers => buffers.packs
  | .thumbs _, buffers => buffers.thumbs

def key : Transfer → Bytes
  | .item sha => sha.toList
  | .pack packId => packId.toList
  | .thumbs packId => packId.toList

def maxEntries : Transfer → Nat
  | .item _ => maxPendingItems
  | .pack _ => maxPendingPacks
  | .thumbs _ => maxPendingPacks

def maxBytes : Transfer → Nat
  | .item _ => maxPendingItemBytes
  | .pack _ => Wire.Sticker.maxPackDocBytes
  | .thumbs _ => Wire.Sticker.maxThumbsDocBytes

def feed (index count : UInt16) (data : Bytes) (now : Nat)
    (buffers : PendingBuffers) : Transfer → Option Bytes × PendingBuffers
  | .item sha => feedItem sha index count data now buffers
  | .pack packId => feedPack packId index count data now buffers
  | .thumbs packId => feedThumbs packId index count data now buffers

def entry (transfer : Transfer) (buffers : PendingBuffers) :
    Option PendingEntry :=
  (transfer.map buffers).lookup transfer.key

variable {transfer : Transfer} {now : Nat}

theorem blob_feed : (transfer.feed index count data now buffers).1 =
      ((transfer.map buffers).feed transfer.maxEntries transfer.maxBytes
        transfer.key index count data now).1 := by
  cases transfer <;> rfl

theorem map_feed : transfer.map (transfer.feed index count data now buffers).2 =
      ((transfer.map buffers).feed transfer.maxEntries transfer.maxBytes
        transfer.key index count data now).2 := by
  cases transfer <;> rfl

/-- Two transfers share no entry: they have different keys or are kept in
different maps. -/
theorem entry_feed_of_ne (differs : other ≠ transfer) :
    other.entry (transfer.feed index count data now buffers).2 =
      other.entry buffers := by
  cases transfer with
  | item sha =>
    cases other with
    | item sha' =>
      refine PendingMap.lookup_feed_of_ne fun same => differs ?_
      rw [List.Vector.eq sha' sha same]
    | pack packId => rfl
    | thumbs packId => rfl
  | pack packId =>
    cases other with
    | item sha => rfl
    | pack packId' =>
      refine PendingMap.lookup_feed_of_ne fun same => differs ?_
      rw [List.Vector.eq packId' packId same]
    | thumbs packId' => rfl
  | thumbs packId =>
    cases other with
    | item sha => rfl
    | pack packId' => rfl
    | thumbs packId' =>
      refine PendingMap.lookup_feed_of_ne fun same => differs ?_
      rw [List.Vector.eq packId' packId same]

end Transfer

/-- The chunks on file are those of `held`, and are accounted for. -/
structure Holds (plan : List Bytes) (held : Finset (Fin plan.length))
    (pending : PendingChunks) : Prop where
  count : pending.chunkCount.toNat = plan.length
  total : pending.totalBytes = ∑ index ∈ held, plan[index].length
  number : pending.chunks.rows.length = held.card
  found : ∀ index : Fin plan.length, pending.chunks.lookup (UInt16.ofNat index) =
      if index ∈ held then some ⟨UInt16.ofNat index, plan[index]⟩ else none

theorem mapM_eq_map {α β : Type} {read : α → Option β} {value : α → β}
    {list : List α} (reads : ∀ each ∈ list, read each = some (value each)) :
    list.mapM read = some (list.map value) := by
  induction list with
  | nil => rfl
  | cons first rest ih =>
    rw [List.mapM_cons, reads first List.mem_cons_self,
      ih fun each mem => reads each (List.mem_cons_of_mem _ mem)]
    rfl

namespace Holds

theorem new (now : Nat) (short : plan.length < 2 ^ 16) :
    Holds plan ∅ (PendingChunks.new (UInt16.ofNat plan.length) now) where
  count := UInt16.toNat_ofNat_of_lt short
  total := rfl
  number := rfl
  found _ := rfl

theorem toNat_index (holds : Holds plan held pending) (index : Fin plan.length) :
    (UInt16.ofNat index).toNat = index := by
  have bound : plan.length < UInt16.size := holds.count ▸ pending.chunkCount.toNat_lt_size
  exact UInt16.toNat_ofNat_of_lt (index.isLt.trans bound)

theorem below_count (holds : Holds plan held pending) (index : Fin plan.length) :
    ¬ UInt16.ofNat index ≥ pending.chunkCount := by
  rw [ge_iff_le, UInt16.le_iff_toNat_le, holds.toNat_index, holds.count]
  exact not_le.mpr index.isLt

theorem blob_eq (holds : Holds plan Finset.univ pending) : pending.blob = some plan.flatten := by
  have reads : (List.range plan.length).mapM (fun index =>
      (pending.chunks.lookup (UInt16.ofNat index)).map PieceEntry.data) =
        some ((List.range plan.length).map fun index => plan.getD index []) := by
    refine mapM_eq_map fun index mem => ?_
    have bound := List.mem_range.mp mem
    have found := holds.found ⟨index, bound⟩
    rw [if_pos (Finset.mem_univ _)] at found
    rw [found, Option.map_some, List.getD_eq_getElem _ _ bound]
    rfl
  have all : (List.range plan.length).map (fun index => plan.getD index []) =
      plan := by
    refine List.ext_getElem (by simp) fun index inside bound => ?_
    simp [List.getElem?_eq_getElem bound]
  unfold PendingChunks.blob
  rw [holds.count, reads, all]
  rfl

theorem add_again (holds : Holds plan held pending) (again : index ∈ held) :
    pending.add (UInt16.ofNat index) plan[index] = (none, pending) := by
  refine PendingChunks.add_of_refused (.inr ?_)
  rw [holds.found, if_pos again]
  rfl

theorem add_missing (holds : Holds plan held pending) (missing : index ∉ held) :
    Holds plan (insert index held) (pending.add (UInt16.ofNat index) plan[index]).2 ∧
      (pending.add (UInt16.ofNat index) plan[index]).1 =
        if insert index held = Finset.univ then some plan.flatten
        else none := by
  have fresh : pending.chunks.lookup (UInt16.ofNat index) = none :=
    (holds.found index).trans (if_neg missing)
  have taken : ¬ (UInt16.ofNat index ≥ pending.chunkCount ∨
      (pending.chunks.lookup (UInt16.ofNat index)).isSome) := by
    rw [fresh]
    rintro (late | kept)
    · exact holds.below_count index late
    · cases kept
  obtain ⟨chunks, inserted, rows⟩ := Table.insert_of_fresh
    (PieceEntry.mk (UInt16.ofNat index) plan[index]) fresh
  have filed : pending.chunks.insertOrIgnore ⟨UInt16.ofNat index, plan[index]⟩ = chunks := by
    rw [Table.insertOrIgnore, inserted]
    rfl
  have next : Holds plan (insert index held) { pending with
      totalBytes := pending.totalBytes + plan[index].length
      chunks := chunks } := by
    refine ⟨holds.count, ?_, ?_, fun other => ?_⟩
    · rw [Finset.sum_insert missing, ← holds.total, Nat.add_comm]
    · rw [rows, List.length_append, holds.number, Finset.card_insert_of_notMem missing]
      rfl
    · refine (Table.lookup_insert inserted _).trans ?_
      by_cases same : index = other
      · subst same
        rw [if_pos rfl, if_pos (Finset.mem_insert_self _ _)]
      · have apart : UInt16.ofNat index ≠ UInt16.ofNat other := by
          intro equal
          have values := congrArg UInt16.toNat equal
          rw [holds.toNat_index, holds.toNat_index] at values
          exact same (Fin.ext values)
        rw [if_neg apart, holds.found]
        simp [Ne.symm same]
  unfold PendingChunks.add
  rw [if_neg taken, filed]
  refine ⟨next, ?_⟩
  have whole : chunks.rows.length = pending.chunkCount.toNat ↔ insert index held = Finset.univ := by
    rw [next.number, holds.count, ← Finset.card_eq_iff_eq_univ, Fintype.card_fin]
  by_cases complete : insert index held = Finset.univ
  · simp only [whole.mpr complete, complete, if_true]
    rw [complete] at next
    exact next.blob_eq
  · simp only [whole, complete, if_false]

end Holds

def sizes (plan : List Bytes) (index : Fin plan.length) : Nat := plan[index].length

def total (plan : List Bytes) : Nat := (plan.map List.length).sum

theorem sum_sizes (plan : List Bytes) : ∑ index, sizes plan index = total plan :=
  Fin.sum_univ_fun_getElem plan List.length

/-- What is on file under a key, as the set of the plan's chunks. -/
def Mirrors (plan : List Bytes) (held : Finset (Fin plan.length)) : Option PendingEntry → Prop
  | none => held = ∅
  | some entry => Holds plan held entry.pending

section

variable {plan : List Bytes} {held : Finset (Fin plan.length)}
  {index : Fin plan.length} {cap now : Nat}

theorem step_gathers (holds : Holds plan held pending) (part : held ≠ Finset.univ) :
    let fed := PendingMap.feed.step map cap key (UInt16.ofNat index)
      (UInt16.ofNat plan.length) plan[index] pending
      fun map => map.delete fun entry => entry.key = key
    let gathered := gather (sizes plan) cap held index
    fed.1 = (if gathered.1 then some plan.flatten else none) ∧
      Mirrors plan gathered.2 (fed.2.lookup key) := by
  have planned : pending.chunkCount = UInt16.ofNat plan.length := by
    rw [← holds.count, UInt16.ofNat_toNat]
  have gathered : gather (sizes plan) cap held index =
      if pending.totalBytes + plan[index].length > cap then (false, ∅)
      else if insert index held = Finset.univ then (true, ∅)
      else (false, insert index held) := by
    rw [holds.total]
    rfl
  simp only [PendingMap.blob_step, PendingMap.lookup_step, planned,
    ne_eq, not_true_eq_false, if_false, gathered]
  by_cases large : pending.totalBytes + plan[index].length > cap
  · rw [if_pos large, if_pos large, if_pos large]
    exact ⟨rfl, rfl⟩
  rw [if_neg large, if_neg large, if_neg large]
  by_cases again : index ∈ held
  · rw [holds.add_again again, Finset.insert_eq_of_mem again, if_neg part]
    exact ⟨rfl, holds⟩
  · obtain ⟨next, blob⟩ := holds.add_missing again
    by_cases whole : insert index held = Finset.univ
    · rw [if_pos whole] at blob ⊢
      rw [blob]
      exact ⟨rfl, rfl⟩
    · rw [if_neg whole] at blob ⊢
      rw [blob]
      exact ⟨rfl, next⟩

theorem feed_gathers {transfer : Transfer} {buffers : PendingBuffers}
    (short : plan.length < 2 ^ 16) (part : held ≠ Finset.univ)
    (room : transfer.entry buffers = none →
      (transfer.map buffers).rows.length < transfer.maxEntries)
    (mirrors : Mirrors plan held (transfer.entry buffers)) :
    let fed := transfer.feed (UInt16.ofNat index) (UInt16.ofNat plan.length) plan[index] now buffers
    let gathered := gather (sizes plan) transfer.maxBytes held index
    fed.1 = (if gathered.1 then some plan.flatten else none) ∧
      Mirrors plan gathered.2 (transfer.entry fed.2) := by
  simp only [Transfer.entry, Transfer.blob_feed, Transfer.map_feed]
  unfold Transfer.entry at mirrors room
  unfold PendingMap.feed
  cases found : (transfer.map buffers).lookup transfer.key with
  | none =>
    rw [found] at mirrors
    have empty : held = ∅ := mirrors
    subst empty
    simp only [ge_iff_le, not_le.mpr (room found), if_false]
    exact step_gathers (.new now short) part
  | some entry =>
    rw [found] at mirrors
    exact step_gathers mirrors part

end

/-! Deliveries of a plan, between those of other transfers. -/

inductive Delivery (transfer : Transfer) (plan : List Bytes)
  | own (now : Nat) (index : Fin plan.length)
  | other (now : Nat) (elsewhere : Transfer) (differs : elsewhere ≠ transfer)
      (index count : UInt16) (data : Bytes)

namespace Delivery

def feed (buffers : PendingBuffers) : Delivery transfer plan → Option Bytes × PendingBuffers
  | .own now index => transfer.feed (UInt16.ofNat index)
      (UInt16.ofNat plan.length) plan[index] now buffers
  | .other now elsewhere _ index count data => elsewhere.feed index count data now buffers

def piece : Delivery transfer plan → Option (Fin plan.length)
  | .own _ index => some index
  | .other .. => none

def returned : List (Delivery transfer plan) → PendingBuffers → List Bytes
  | [], _ => []
  | delivery :: rest, buffers =>
    (if delivery.piece.isSome then (delivery.feed buffers).1.toList
      else []) ++ returned rest (delivery.feed buffers).2

/-- Whenever the transfer needs a new entry, there is room for it. -/
def Roomy : List (Delivery transfer plan) → PendingBuffers → Prop
  | [], _ => True
  | delivery :: rest, buffers =>
    (transfer.entry buffers = none → (transfer.map buffers).rows.length < transfer.maxEntries) ∧
    Roomy rest (delivery.feed buffers).2

theorem returned_gathers {deliveries : List (Delivery transfer plan)}
    {buffers : PendingBuffers} {held : Finset (Fin plan.length)}
    (short : plan.length < 2 ^ 16) (part : held ≠ Finset.univ) (roomy : Roomy deliveries buffers)
    (mirrors : Mirrors plan held (transfer.entry buffers)) :
    (returned deliveries buffers ≠ [] ↔ finishes (sizes plan) transfer.maxBytes
      (deliveries.filterMap piece) held = true) ∧
      ∀ blob ∈ returned deliveries buffers, blob = plan.flatten := by
  induction deliveries generalizing buffers held with
  | nil => exact ⟨by simp [returned, finishes], nofun⟩
  | cons delivery rest ih =>
    cases delivery with
    | other now elsewhere differs index count data =>
      have kept : transfer.entry (elsewhere.feed index count data now
          buffers).2 = transfer.entry buffers :=
        Transfer.entry_feed_of_ne differs.symm
      exact ih part roomy.2 (kept ▸ mirrors)
    | own now index =>
      obtain ⟨blob, next⟩ := @feed_gathers plan held index now transfer
        buffers short part roomy.1 mirrors
      obtain ⟨later, same⟩ := ih (gather_unfinished ⟨index⟩ index) roomy.2 next
      have split : returned (.own now index :: rest) buffers =
          (transfer.feed (UInt16.ofNat index) (UInt16.ofNat plan.length)
            plan[index] now buffers).1.toList ++
          returned rest ((Delivery.own now index).feed buffers).2 := rfl
      have pieces : (Delivery.own now index :: rest).filterMap piece =
          index :: rest.filterMap piece := rfl
      rw [split, blob, pieces, finishes, Bool.or_eq_true]
      cases (gather (sizes plan) transfer.maxBytes held index).1 with
      | true =>
        refine ⟨by simp, fun out mem => ?_⟩
        rcases List.mem_cons.mp mem with now' | after
        · exact now'
        · exact same out after
      | false => exact ⟨by simpa using later, by simpa using same⟩

def Alone (transfer : Transfer) (buffers : PendingBuffers) : Prop :=
  ∀ entry ∈ transfer.map buffers, entry.key = transfer.key

theorem alone_empty : Alone transfer .empty := by
  cases transfer <;> exact nofun

theorem Alone.room (alone : Alone transfer buffers) (absent : transfer.entry buffers = none) :
    (transfer.map buffers).rows.length < transfer.maxEntries := by
  have empty : (transfer.map buffers).rows = [] := by
    refine List.eq_nil_iff_forall_not_mem.mpr fun entry mem => ?_
    exact Table.lookup_eq_none.mp absent entry mem (alone entry mem)
  rw [empty]
  cases transfer with
  | item sha => exact show 0 < maxPendingItems by decide
  | pack packId => exact show 0 < maxPendingPacks by decide
  | thumbs packId => exact show 0 < maxPendingPacks by decide

theorem Alone.feed {now : Nat} (alone : Alone transfer buffers) :
    Alone transfer (transfer.feed index count data now buffers).2 := by
  intro entry mem
  rw [Transfer.map_feed] at mem
  by_contra differs
  have kept := @PendingMap.lookup_feed_of_ne (transfer.map buffers) data
    transfer.key transfer.maxEntries transfer.maxBytes index count now _ differs
  rw [Table.lookup_key mem] at kept
  exact differs (alone entry (Table.lookup_eq_some.mp kept.symm).1)

theorem roomy_own {order : List (Fin plan.length)} {buffers : PendingBuffers}
    (alone : Alone transfer buffers) :
    Roomy (order.map (.own 0) : List (Delivery transfer plan)) buffers := by
  induction order generalizing buffers with
  | nil => trivial
  | cons index rest ih => exact ⟨alone.room, ih alone.feed⟩

end Delivery

section

variable {transfer : Transfer} {plan : List Bytes}

/-- However the chunks of the plan are delivered, the calls return the whole
at least once and never anything else. -/
def Survives (transfer : Transfer) (plan : List Bytes) : Prop :=
  ∀ (deliveries : List (Delivery transfer plan)) (buffers : PendingBuffers),
    transfer.entry buffers = none → Delivery.Roomy deliveries buffers →
    (∀ index, index ∈ deliveries.filterMap Delivery.piece) →
    Delivery.returned deliveries buffers ≠ [] ∧
      ∀ blob ∈ Delivery.returned deliveries buffers, blob = plan.flatten

def allBut (missing : Fin plan.length) : List (Fin plan.length) :=
  (List.finRange plan.length).filter (· ≠ missing)

/-- All chunks but one, another one again, and the one that was missing. -/
def spoiling (again missing : Fin plan.length) : List (Delivery transfer plan) :=
  (allBut missing ++ [again, missing]).map (.own 0)

theorem mem_allBut : index ∈ allBut missing ↔ index ≠ missing := by
  simp [allBut]

theorem pieces_spoiling (again missing : Fin plan.length) :
    (spoiling again missing : List (Delivery transfer plan)).filterMap
        Delivery.piece = allBut missing ++ [again, missing] := by
  unfold spoiling
  rw [List.filterMap_map]
  exact List.filterMap_some

theorem empty_unfinished (content : plan ≠ []) : (∅ : Finset (Fin plan.length)) ≠ Finset.univ := by
  have some : Nonempty (Fin plan.length) := ⟨⟨0, List.length_pos_iff.mpr content⟩⟩
  exact fun whole => Finset.univ_nonempty.ne_empty whole.symm

theorem entry_empty : transfer.entry .empty = none := by
  cases transfer <;> rfl

theorem returned_spoiling (short : plan.length < 2 ^ 16)
    (fits : total plan ≤ transfer.maxBytes) (differs : again ≠ missing)
    (tight : transfer.maxBytes + plan[missing].length < total plan + plan[again].length) :
    Delivery.returned (spoiling again missing : List (Delivery transfer plan)) .empty = [] := by
  have content : plan ≠ [] := by
    rintro rfl
    exact again.elim0
  obtain ⟨gathers, -⟩ := @Delivery.returned_gathers transfer plan
    (spoiling again missing) .empty ∅ short (empty_unfinished content)
    (Delivery.roomy_own Delivery.alone_empty) (entry_empty ▸ rfl)
  have unfinished := @not_finishes _ _ _ (sizes plan) transfer.maxBytes
    ((sum_sizes plan).trans_le fits) again missing (allBut missing) differs
    ((List.nodup_finRange _).filter _) (fun _ => mem_allBut)
    (by rw [sum_sizes]; exact tight)
  rw [pieces_spoiling, unfinished] at gathers
  exact not_not.mp (gathers.not.mpr Bool.false_ne_true)

theorem mem_pieces_spoiling (again missing index : Fin plan.length) :
    index ∈ (spoiling again missing : List (Delivery transfer plan)).filterMap
      Delivery.piece := by
  rw [pieces_spoiling]
  by_cases last : index = missing
  · exact List.mem_append_right _ (by simp [last])
  · exact List.mem_append_left _ (mem_allBut.mpr last)

/-- A plan survives exactly if any chunk fits a second time while any other
one is missing: a chunk that is on file already counts as if it were new. -/
theorem survives_iff (content : plan ≠ []) (short : plan.length < 2 ^ 16)
    (fits : total plan ≤ transfer.maxBytes) :
    Survives transfer plan ↔ ∀ again missing : Fin plan.length, again ≠ missing →
        total plan + plan[again].length ≤ transfer.maxBytes + plan[missing].length := by
  constructor
  · intro survives again missing differs
    by_contra tight
    exact (survives (spoiling again missing) .empty entry_empty
      (Delivery.roomy_own Delivery.alone_empty)
      (mem_pieces_spoiling again missing)).1
      (returned_spoiling short fits differs (not_le.mp tight))
  · intro slack deliveries buffers absent roomy every
    obtain ⟨gathers, same⟩ := Delivery.returned_gathers short
      (empty_unfinished content) roomy (absent ▸ rfl)
    refine ⟨gathers.mpr ?_, same⟩
    refine finishes_of_slack ((sum_sizes plan).trans_le fits) ?_
      (empty_unfinished content) fun piece => .inr (every piece)
    intro again missing differs
    rw [sum_sizes]
    exact slack again missing differs

end

theorem survives_two_chunks : Survives (.thumbs (.replicate 16 0)) [[1], [2]] :=
  (survives_iff (by decide) (by decide) (by decide)).mpr (by decide)

def evenly (number size last : Nat) : List Bytes :=
  List.replicate number (List.replicate size 0) ++ [List.replicate last 0]

theorem length_evenly : (evenly number size last).length = number + 1 := by
  simp [evenly]

theorem total_evenly : total (evenly number size last) = number * size + last := by
  simp [total, evenly]

theorem size_evenly (index : Fin (evenly number size last).length) :
    (evenly number size last)[index].length = if index.val < number then size else last := by
  obtain ⟨index, inside⟩ := index
  simp only [evenly, Fin.getElem_fin, List.getElem_append, List.length_replicate]
  split
  · rw [List.getElem_replicate, List.length_replicate]
  · rw [List.getElem_singleton, List.length_replicate]

def firstOf : Fin (evenly number size last).length := ⟨0, by rw [length_evenly]; omega⟩

def lastOf : Fin (evenly number size last).length := ⟨number, by rw [length_evenly]; omega⟩

theorem returned_evenly (more : 0 < number) (short : number + 1 < 2 ^ 16)
    (fits : number * size + last ≤ transfer.maxBytes)
    (tight : transfer.maxBytes < number * size + size) :
    Delivery.returned (spoiling firstOf lastOf :
      List (Delivery transfer (evenly number size last))) .empty = [] := by
  refine returned_spoiling (by rwa [length_evenly]) (by rwa [total_evenly]) ?_ ?_
  · intro same
    have values : 0 = number := congrArg Fin.val same
    omega
  · rw [size_evenly, size_evenly, total_evenly]
    simp only [firstOf, lastOf, more, Nat.lt_irrefl, if_true, if_false]
    omega

/-- A thumbnail document of exactly the size allowed: the first chunk comes
again before the last one, and nothing comes out. -/
theorem duplicate_spoils_thumbs :
    let transfer := Transfer.thumbs (.replicate 16 0)
    let plan := evenly 19 27500 1788
    let deliveries : List (Delivery transfer plan) := spoiling firstOf lastOf
    total plan ≤ transfer.maxBytes ∧
      transfer.entry .empty = none ∧ Delivery.Roomy deliveries .empty ∧
      (∀ index, index ∈ deliveries.filterMap Delivery.piece) ∧
      Delivery.returned deliveries .empty = [] := by
  refine ⟨?_, entry_empty, Delivery.roomy_own Delivery.alone_empty,
    mem_pieces_spoiling _ _, returned_evenly ?_ ?_ ?_ ?_⟩
  · rw [total_evenly]
    decide
  all_goals decide

end SChatCore.Stickers
