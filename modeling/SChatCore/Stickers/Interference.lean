import SChatCore.Data.Unwinding
import SChatCore.Stickers.Pinning
import SChatCore.Stickers.Reassembly

namespace SChatCore.Stickers

open Data Data.Action Wire Store Engine

/-! Transfers of different peers share the reassembly buffers. They are keyed
by content alone, and their number is limited. -/

def Transfer.Full (transfer : Transfer) (buffers : PendingBuffers) : Prop :=
  transfer.maxEntries ≤ (transfer.map buffers).rows.length

instance (transfer : Transfer) (buffers : PendingBuffers) : Decidable (transfer.Full buffers) :=
  inferInstanceAs (Decidable (_ ≤ _))

structure Chunk where
  content : Transfer
  index : UInt16
  count : UInt16
  data : Bytes
  deriving DecidableEq

def chunkOf : StickerCtrl → Option Chunk
  | .itemBody sha index count data _ => some ⟨.item sha, index, count, data⟩
  | .packBody packId _ index count data => some ⟨.pack packId, index, count, data⟩
  | .thumbsBody packId _ index count data => some ⟨.thumbs packId, index, count, data⟩
  | _ => none

def Chunk.feed (chunk : Chunk) (now : Nat) (buffers : PendingBuffers) :
    Option Bytes × PendingBuffers :=
  chunk.content.feed chunk.index chunk.count chunk.data now buffers

/-- What comes of a chunk depends on its own transfer, and for a new one on
whether there is room. -/
theorem feed_congr {first second : PendingMap} {now : Nat}
    (same : first.lookup key = second.lookup key)
    (room : first.lookup key = none →
      (maxEntries ≤ first.rows.length ↔ maxEntries ≤ second.rows.length)) :
    (first.feed maxEntries maxBytes key index count data now).1 =
        (second.feed maxEntries maxBytes key index count data now).1 ∧
      (first.feed maxEntries maxBytes key index count data now).2.lookup key =
        (second.feed maxEntries maxBytes key index count data now).2.lookup
          key := by
  unfold PendingMap.feed
  cases found : second.lookup key with
  | none =>
    rw [found] at same
    simp only [same, ge_iff_le, room same]
    split
    · exact ⟨rfl, same.trans found.symm⟩
    · exact ⟨(PendingMap.blob_step _).trans (PendingMap.blob_step _).symm,
        (PendingMap.lookup_step _).trans (PendingMap.lookup_step _).symm⟩
  | some entry =>
    rw [found] at same
    simp only [same]
    exact ⟨(PendingMap.blob_step _).trans (PendingMap.blob_step _).symm,
      (PendingMap.lookup_step _).trans (PendingMap.lookup_step _).symm⟩

def SamePending (before after : Engine) : Prop := after.stickerPending = before.stickerPending

instance : IsPreorder Engine SamePending where
  refl _ := rfl
  trans _ _ _ left right := Eq.trans right left

section

variable (sys : Platform)

theorem samePending_obliges (rel : RelId) : Obliges sys rel SamePending where
  serves _ _ serves := (congrArg Engine.stickerPending serves :)
  sends _ := ((sameBystanders_sends rel).sendEnvelope sys _ _).mono
    fun _ _ same => (congrArg Engine.stickerPending same :)

theorem samePending_keepItem (rel : RelId) (item : CachedItemRow) :
    Keeps SamePending (keepItem sys rel item) := by
  refine keeps_read fun db => ?_
  split
  · exact keeps_pure _
  · refine keeps_bind (keeps_writeDb fun _ => rfl) fun _ => ?_
    exact keeps_returns ((samePending_obliges sys rel).sends _)

theorem samePending_onItemBody {rel : RelId} {sha : Array32}
    {index count : UInt16} {data : Bytes} {pack : Option PackRef} {eng : Engine} :
    (final ((onItemBody sys rel sha index count data pack).run eng)).stickerPending =
      (feedItem sha index count data eng.clock eng.stickerPending).2 := by
  unfold onItemBody
  rw [bind_now, run_bind_ok (run_feed _ _)]
  have rest : ∀ bytes, Keeps SamePending (do
      keepItem sys rel (cachedItem rel sha bytes eng.clock pack)
      fetchUnknownPack sys rel pack) := fun bytes =>
    keeps_bind (samePending_keepItem sys rel _) fun _ =>
      (samePending_obliges sys rel).fetchUnknownPack pack
  split
  · rfl
  · split
    · rfl
    · exact rest _ _

theorem pending_hear_of_chunk (carries : chunkOf arrival.2.2 = some chunk) :
    (hear sys eng arrival).stickerPending = (chunk.feed arrival.1 eng.stickerPending).2 := by
  obtain ⟨clock, rel, ctrl⟩ := arrival
  cases ctrl with
  | itemBody sha index count data pack =>
    cases carries
    have fed := @samePending_onItemBody sys rel sha index count data pack { eng with clock }
    have tail : SamePending (final ((onItemBody sys rel sha index count
        data pack).run { eng with clock })) (hear sys eng
          (clock, rel, .itemBody sha index count data pack)) :=
      related_bind rfl fun _ => keeps_pure _
    exact tail.trans fed
  | packBody packId packPk index count data =>
    cases carries
    unfold hear onStickerCtrl
    simp only [run_onPackBody]
    split
    · rfl
    · rfl
  | thumbsBody packId packPk index count data =>
    cases carries
    unfold hear onStickerCtrl onThumbsBody
    rw [bind_now, run_bind_ok (run_feed _ _)]
    split
    · rfl
    · split <;> rfl
  | ack | wantItem | wantPack | packRefused | wantThumbs => cases carries

theorem entry_hear_of_no_chunk (carries : chunkOf arrival.2.2 = none) (content : Transfer) :
    content.entry (hear sys eng arrival).stickerPending = content.entry eng.stickerPending := by
  obtain ⟨clock, rel, ctrl⟩ := arrival
  have obliges := samePending_obliges sys rel
  have quiet : ∀ {action : Action (List EngineEvent)}, Keeps SamePending action →
      content.entry (final (action.run { eng with clock := clock })).stickerPending =
          content.entry eng.stickerPending :=
    fun keeps => congrArg content.entry (keeps { eng with clock := clock })
  cases ctrl with
  | ack sha => rfl
  | wantItem sha => exact quiet (keeps_returns (obliges.answerWantItem sha))
  | wantPack packId packPk => exact quiet (keeps_returns (obliges.answerWantPack packId packPk))
  | packRefused packId packPk reason => rfl
  | wantThumbs packId packPk => exact quiet (keeps_returns (obliges.answerWantThumbs packId packPk))
  | itemBody | packBody | thumbsBody => cases carries

end

section

variable (sys : Platform) (rel other : RelId) (content : Transfer)

def contentOf (arrival : Arrival) : Option Transfer := (chunkOf arrival.2.2).map Chunk.content

def assembled (eng : Engine) (arrival : Arrival) : Option Bytes :=
  (chunkOf arrival.2.2).bind fun chunk =>
    (chunk.feed arrival.1 eng.stickerPending).1

def delivered (eng : Engine) (arrival : Arrival) : List Bytes :=
  if arrival.2.1 = rel ∧ contentOf arrival = some content then
    (assembled eng arrival).toList
  else []

def deliveries : Engine → List Arrival → List Bytes := outputs (hear sys) (delivered rel content)

def notFrom (arrival : Arrival) : Bool := arrival.2.1 ≠ other

/-- A chunk of the content is not the other peer's, and if it is the first of
a transfer, there is room with the other peer's chunks and without them, or
neither way. -/
def Undisturbed (full purged : Engine) (arrival : Arrival) : Prop :=
  contentOf arrival = some content → arrival.2.1 ≠ other ∧
    (content.entry full.stickerPending = none →
      (content.Full full.stickerPending ↔ content.Full purged.stickerPending))

instance (full purged : Engine) (arrival : Arrival) :
    Decidable (Undisturbed other content full purged arrival) :=
  inferInstanceAs (Decidable (_ → _ ∧ (_ → _)))

def SameEntry (full purged : Engine) : Prop :=
  content.entry full.stickerPending = content.entry purged.stickerPending

variable {sys rel other content} {arrival : Arrival}

theorem entry_hear_of_ne (apart : contentOf arrival ≠ some content) (eng : Engine) :
    content.entry (hear sys eng arrival).stickerPending = content.entry eng.stickerPending := by
  cases carries : chunkOf arrival.2.2 with
  | none => exact entry_hear_of_no_chunk sys carries content
  | some chunk =>
    rw [pending_hear_of_chunk sys carries]
    refine Transfer.entry_feed_of_ne fun same => apart ?_
    rw [contentOf, carries, same]
    rfl

section

variable (carries : chunkOf arrival.2.2 = some chunk)
  (same : SameEntry chunk.content full purged)
  (room : chunk.content.entry full.stickerPending = none → (chunk.content.Full full.stickerPending ↔
      chunk.content.Full purged.stickerPending))
include carries same room

theorem assembled_congr : assembled full arrival = assembled purged arrival := by
  unfold assembled
  rw [carries, Option.bind_some, Option.bind_some, Chunk.feed, Chunk.feed,
    Transfer.blob_feed, Transfer.blob_feed]
  exact (feed_congr same room).1

theorem entry_congr : SameEntry chunk.content (hear sys full arrival)
      (hear sys purged arrival) := by
  unfold SameEntry Transfer.entry
  rw [pending_hear_of_chunk sys carries, pending_hear_of_chunk sys carries, Chunk.feed, Chunk.feed,
    Transfer.map_feed, Transfer.map_feed]
  exact (feed_congr same room).2

end

theorem sameEntry_hear (same : SameEntry content full purged)
    (undisturbed : Undisturbed other content full purged arrival) :
    SameEntry content (hear sys full arrival)
      (stepOwn (hear sys) (notFrom other) purged arrival) := by
  by_cases mine : contentOf arrival = some content
  · obtain ⟨kept, room⟩ := undisturbed mine
    obtain ⟨chunk, carries, rfl⟩ := Option.map_eq_some_iff.mp mine
    have own : notFrom other arrival = true := decide_eq_true kept
    rw [stepOwn, if_pos own]
    exact entry_congr carries same room
  · unfold SameEntry stepOwn
    rw [entry_hear_of_ne mine]
    split
    · rw [entry_hear_of_ne mine]
      exact same
    · exact same

theorem delivered_eq (same : SameEntry content full purged)
    (undisturbed : Undisturbed other content full purged arrival) :
    delivered rel content full arrival =
      if notFrom other arrival then delivered rel content purged arrival
      else [] := by
  unfold delivered
  by_cases mine : arrival.2.1 = rel ∧ contentOf arrival = some content
  · obtain ⟨kept, room⟩ := undisturbed mine.2
    obtain ⟨chunk, carries, rfl⟩ := Option.map_eq_some_iff.mp mine.2
    have own : notFrom other arrival = true := decide_eq_true kept
    rw [if_pos mine, if_pos own, if_pos mine, assembled_congr carries same room]
  · rw [if_neg mine, if_neg mine, ite_self]

/-- In a run whose chunks of the content are undisturbed, the transfer comes to
the same as without the chunks of the other peer. -/
theorem deliveries_isolated {eng : Engine} {arrivals : List Arrival}
    (undisturbed : Guarded (hear sys) (notFrom other)
      (Undisturbed other content) eng eng arrivals) :
    deliveries sys rel content eng arrivals = deliveries sys rel content eng
        (arrivals.filter (notFrom other)) :=
  @outputs_filter _ _ _ (hear sys) (delivered rel content)
    (notFrom other) (Undisturbed other content) (SameEntry content)
    (fun _ _ _ => sameEntry_hear) (fun _ _ _ => delivered_eq) eng eng rfl
    arrivals undisturbed

end

/-! A transfer of two chunks, with one of another peer in between. -/

def noSha : Array32 := List.Vector.replicate 32 0

def half (rel : RelId) (index count : UInt16) (byte : UInt8) : Arrival :=
  (0, rel, .itemBody noSha index count [byte] none)

def listening : Engine := Engine.new .empty 0

theorem pack_chunk_between_halves :
    deliveries .loopback "bob" (.item noSha) listening [half "bob" 0 2 1,
        (0, "eve", .packBody (List.Vector.replicate 16 0) noSha 0 2 [9]),
        half "bob" 1 2 2] =
    deliveries .loopback "bob" (.item noSha) listening [half "bob" 0 2 1, half "bob" 1 2 2] :=
  @deliveries_isolated .loopback "bob" "eve" (.item noSha) listening [half "bob" 0 2 1,
      (0, "eve", .packBody (List.Vector.replicate 16 0) noSha 0 2 [9]),
      half "bob" 1 2 2] (by decide +kernel)

/-- A chunk under the same hash but with another count, sent first, keeps the
transfer from ever completing. -/
theorem foreign_plan_blocks_item : deliveries .loopback "bob" (.item noSha) listening
        [half "eve" 0 3 9, half "bob" 0 2 1, half "bob" 1 2 2] = [] ∧
      deliveries .loopback "bob" (.item noSha) listening
        [half "bob" 0 2 1, half "bob" 1 2 2] = [[1, 2]] := by
  decide +kernel

end SChatCore.Stickers
