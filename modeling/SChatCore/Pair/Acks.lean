import SChatCore.Pair.System

namespace SChatCore.Pair

open Data Data.Action Wire Store Engine Ledger

/-! No false acknowledgement. -/

def told (request : ResyncReq) (seq : UInt64) : Prop :=
  isMissing request.maxContiguousSeq request.receivedSeqBitmap seq = false

/-- A resync request tells of heard numbers only. -/
def Frank (book : Book) (rel : RelId) (payload : Payload) : Prop :=
  ∀ request, payload = .resyncReq request → 0 ∉ book.heard rel →
    ∀ seq, told request seq → seq ∈ book.heard rel

theorem permits_frank (sys : Platform) : Permits sys Frank where
  request eng rel := by
    rintro request ⟨⟩ nonzero seq shown
    exact Repair.noted_of_told nonzero shown
  other book rel payload plain := by
    rintro request rfl
    exact absurd rfl plain

/-- What the two ledgers and the envelopes under way have to do with each
other. -/
structure Sound (wiring : Wiring) (a b : Book) : Prop where
  floor : 1 ≤ a.floor wiring.relA
  numbered : ∀ plain, (wiring.relA, plain) ∈ a.spoken →
    ∃ env : Envelope, env.encode wiring.sysA.nfc = .ok plain ∧ 1 ≤ env.appSeq
  nonzero : 0 ∉ b.heard wiring.relB
  frank : ∀ plain, (wiring.relB, plain) ∈ b.spoken →
    ∃ env : Envelope, env.encode wiring.sysB.nfc = .ok plain ∧
      ∀ request, env.payload = .resyncReq request →
        ∀ seq, told request seq → seq ∈ b.heard wiring.relB
  heard : ∀ msgId entry, a.entry msgId = some entry →
    entry.relId = wiring.relA → entry.direction = .out →
    entry.state = .acknowledged → entry.appSeq ∈ b.heard wiring.relB

section

variable {a b : Book}

theorem Sound.left (sound : Sound wiring a b)
    (allowed : Licensed wiring.sysA.nfc said leave a move)
    (acks : ∀ seq, leave.acks wiring.relA seq → seq ∈ b.heard wiring.relB) :
    Sound wiring (a.apply move) b := by
  have floor := UInt64.le_trans sound.floor (@floor_le_apply said leave wiring.relA _ _ _ allowed)
  refine ⟨floor, fun plain mem => ?_, sound.nonzero, sound.frank,
    fun msgId entry found own out state => ?_⟩
  · cases move with
    | speak other spoken seq =>
      rcases List.mem_append.mp mem with old | new
      · exact sound.numbered plain old
      · cases List.mem_singleton.mp new
        obtain ⟨rises, env, encoded, rfl, -⟩ | never := allowed
        · exact ⟨env, encoded, UInt64.le_trans sound.floor rises⟩
        · exact never.elim
    | _ => exact sound.numbered plain mem
  · cases move with
    | write other written =>
      obtain ⟨-, fresh⟩ | never := allowed
      · by_cases same : msgId = other
        · rw [Book.entry_write, if_pos same] at found
          cases found
          rw [state] at fresh
          rcases fresh with never | never <;> cases never
        · rw [Book.entry_write, if_neg same] at found
          exact sound.heard msgId entry found own out state
      · exact never.elim
    | settle other target =>
      obtain ⟨before, looked, changed⟩ := Option.map_eq_some_iff.mp found
      by_cases same : msgId = other
      · subst same
        rw [if_pos rfl] at changed
        subst changed
        obtain rfl : target = .acknowledged := state
        obtain ⟨never, -⟩ | never | ⟨-, known, found, acked⟩ := allowed
        · cases never
        · cases never
        · rw [looked] at found
          cases found
          exact acks _ (own ▸ acked)
      · rw [if_neg same] at changed
        subst changed
        exact sound.heard msgId before looked own out state
    | fail other =>
      obtain ⟨before, looked, changed⟩ := Option.map_eq_some_iff.mp found
      split at changed
      · subst changed
        cases state
      · subst changed
        exact sound.heard msgId before looked own out state
    | erase gone =>
      by_cases inside : msgId ∈ gone
      · rw [Book.entry_erase, if_pos inside] at found
        cases found
      · rw [Book.entry_erase, if_neg inside] at found
        exact sound.heard msgId entry found own out state
    | burn other =>
      obtain ⟨looked, -⟩ := Option.filter_eq_some_iff.mp found
      exact sound.heard msgId entry looked own out state
    | _ => exact sound.heard msgId entry found own out state

theorem Sound.right (sound : Sound wiring a b)
    (allowed : Licensed wiring.sysB.nfc Frank leave b move)
    (hears : ∀ seq, leave.hears wiring.relB seq → seq ≠ 0) (kept : move ≠ .burn wiring.relB) :
    Sound wiring a (b.apply move) := by
  have step : (b.apply move).heard wiring.relB = b.heard wiring.relB ∨
      ∃ noted, leave.hears wiring.relB noted ∧ (b.apply move).heard wiring.relB =
          insert noted (b.heard wiring.relB) := by
    cases move with
    | hear other noted =>
      by_cases same : wiring.relB = other
      · exact .inr ⟨noted, same ▸ allowed.resolve_left id, if_pos same⟩
      · exact .inl (if_neg same)
    | burn other =>
      have apart : wiring.relB ≠ other := fun same => kept (same ▸ rfl)
      exact .inl (if_neg apart)
    | _ => exact .inl rfl
  have grows : b.heard wiring.relB ⊆ (b.apply move).heard wiring.relB := by
    obtain same | ⟨noted, -, more⟩ := step
    · exact same.symm.subset
    · exact more ▸ Set.subset_insert _ _
  have nonzero : 0 ∉ (b.apply move).heard wiring.relB := by
    obtain same | ⟨noted, hearing, more⟩ := step
    · exact same ▸ sound.nonzero
    · rw [more, Set.mem_insert_iff]
      exact not_or.mpr ⟨(hears noted hearing).symm, sound.nonzero⟩
  refine ⟨sound.floor, sound.numbered, nonzero, fun plain mem => ?_,
    fun msgId entry found own out state =>
      grows (sound.heard msgId entry found own out state)⟩
  have old : (wiring.relB, plain) ∈ b.spoken →
      ∃ env : Envelope, env.encode wiring.sysB.nfc = .ok plain ∧
        ∀ request, env.payload = .resyncReq request → ∀ seq,
          told request seq → seq ∈ (b.apply move).heard wiring.relB := by
    intro mem
    obtain ⟨env, encoded, frank⟩ := sound.frank plain mem
    exact ⟨env, encoded, fun request asks seq shown =>
      grows (frank request asks seq shown)⟩
  cases move with
  | speak other spoken seq =>
    rcases List.mem_append.mp mem with before | new
    · exact old before
    · cases List.mem_singleton.mp new
      obtain ⟨-, env, encoded, -, frank⟩ | never := allowed
      · exact ⟨env, encoded, fun request asks seq shown =>
          frank request asks sound.nonzero seq shown⟩
      · exact never.elim
  | _ => exact old mem

theorem contact_apply (gone : b.contact rel = none) : (b.apply move).contact rel = none := by
  cases move with
  | raise other seq | close other =>
    show Option.map _ (b.contact rel) = none
    rw [gone]
    rfl
  | burn other =>
    show (if _ then _ else _) = none
    split
    · rfl
    · exact gone
  | _ => exact gone

end

theorem Sound.follows_left (follows : Follows wiring.sysA said leave before after)
    (acks : ∀ seq, leave.acks wiring.relA seq → seq ∈ b.heard wiring.relB)
    (sound : Sound wiring (book before) b) : Sound wiring (book after) b :=
  @Book.invariant _ (fun a => Sound wiring a b)
    (fun _ _ allowed sound => sound.left allowed acks) _ _
    (Writes.book follows) sound

theorem Sound.follows_right (follows : Follows wiring.sysB Frank leave before after)
    (hears : ∀ seq, leave.hears wiring.relB seq → seq ≠ 0)
    (kept : (after.db.relationship wiring.relB).isSome = true)
    (sound : Sound wiring a (book before)) : Sound wiring a (book after) := by
  have ends : (book after).contact wiring.relB = none ∨ Sound wiring a (book after) := by
    refine @Book.invariant _ (fun later => later.contact wiring.relB = none ∨
      Sound wiring a later) (fun later move allowed holds => ?_) _ _
      (Writes.book follows) (.inr sound)
    rcases holds with gone | sound
    · exact .inl (contact_apply gone)
    · by_cases burns : move = .burn wiring.relB
      · subst burns
        refine .inl ?_
        rw [Book.contact_burn, if_pos rfl]
      · exact .inr (sound.right allowed hears burns)
  rcases ends with gone | sound
  · have gone : Option.map contactOf (after.db.relationship wiring.relB) =
        none := gone
    rw [Option.map_eq_none_iff.mp gone] at kept
    cases kept
  · exact sound

theorem acks_frame {ends : Ends} (sound : Sound wiring (book ends.a) (book ends.b))
    (authentic : Authentic wiring.sysA ends.a wiring.relA frame ends.b
      wiring.relB) (seq : UInt64)
    (acked : (frameLeave wiring.sysA wiring.relA ends.a frame).acks
      wiring.relA seq) : seq ∈ (book ends.b).heard wiring.relB := by
  unfold frameLeave at acked
  split at acked
  · rename_i plain opened
    obtain ⟨env, encoded, frank⟩ := sound.frank plain (authentic plain opened)
    unfold plaintextLeave at acked
    split at acked
    · rename_i arrived decoded
      obtain ⟨-, request, asks, shown⟩ := acked
      exact frank request (request_as_spoken encoded decoded asks) seq shown
    · exact acked.elim
  · exact acked.elim

theorem hears_frame {ends : Ends} (sound : Sound wiring (book ends.a) (book ends.b))
    (authentic : Authentic wiring.sysB ends.b wiring.relB frame ends.a
      wiring.relA) (seq : UInt64)
    (heard : (frameLeave wiring.sysB wiring.relB ends.b frame).hears
      wiring.relB seq) : seq ≠ 0 := by
  unfold frameLeave at heard
  split at heard
  · rename_i plain opened
    obtain ⟨env, encoded, positive⟩ := sound.numbered plain (authentic plain opened)
    unfold plaintextLeave at heard
    split at heard
    · rename_i arrived decoded
      obtain ⟨-, rfl⟩ := heard
      rw [(heard_as_spoken encoded decoded).1]
      intro zero
      rw [zero] at positive
      exact absurd positive (by decide)
    · exact heard.elim
  · exact heard.elim

theorem frameLeave_foreign (foreign : rel ≠ other) (seq : UInt64) :
    ¬ (frameLeave sys rel eng frame).acks other seq ∧
      ¬ (frameLeave sys rel eng frame).hears other seq := by
  unfold frameLeave plaintextLeave
  split
  · split
    · exact ⟨fun acked => foreign acked.1.symm, fun heard => foreign heard.1.symm⟩
    · exact ⟨id, id⟩
  · exact ⟨id, id⟩

theorem Act.sound {act : Act} (possible : act.Possible wiring ends)
    (kept : Kept wiring (act.next wiring ends)) (sound : Sound wiring (book ends.a) (book ends.b)) :
    Sound wiring (book (act.next wiring ends).a) (book (act.next wiring ends).b) := by
  have anything := permits_anything wiring.sysA
  have frank := permits_frank wiring.sysB
  cases act with
  | callA call =>
    exact sound.follows_left (follows_call anything call) fun _ never =>
      never.elim
  | callB call =>
    exact sound.follows_right (follows_call frank call) (fun _ never => never.elim) kept.2
  | frameA frame =>
    exact sound.follows_left (follows_receiveFrame anything frame) (acks_frame sound possible)
  | frameB frame =>
    exact sound.follows_right (follows_receiveFrame frank frame) (hears_frame sound possible) kept.2
  | strangerA rel frame =>
    exact sound.follows_left (follows_receiveFrame anything frame)
      fun seq acked => absurd acked (frameLeave_foreign possible seq).1
  | strangerB rel frame =>
    exact sound.follows_right (follows_receiveFrame frank frame)
      (fun seq heard => absurd heard (frameLeave_foreign possible seq).2)
      kept.2

theorem Fresh.sound (fresh : Fresh wiring ends) : Sound wiring (book ends.a) (book ends.b) where
  floor := fresh.floorA
  numbered plain spoken := absurd spoken (fresh.unspokenA plain)
  nonzero := fresh.unheardB 0
  frank plain spoken := absurd spoken (fresh.unspokenB plain)
  heard msgId entry found own := by
    obtain ⟨row, looked, rfl⟩ := Option.map_eq_some_iff.mp found
    exact absurd own (fresh.emptyA row (Table.lookup_eq_some.mp looked).1)

theorem Run.sound {guard : Ends → Act → Prop} (fresh : Fresh wiring before)
    (run : Run wiring guard before after) :
    Sound wiring (book after.a) (book after.b) := by
  induction run with
  | refl => exact fresh.sound
  | tail _ last ih =>
    obtain ⟨act, possible, -, rfl, kept⟩ := last
    exact act.sound possible kept ih

/-- Whatever one side holds for acknowledged, the other side has received. -/
theorem acknowledged_is_received {before after : Ends} (fresh : Fresh wiring before)
    (run : Run wiring (fun _ _ => True) before after)
    {row : MessageRow} (stored : row ∈ after.a.db.messages)
    (own : row.relId = wiring.relA) (out : row.direction = .out)
    (state : row.state = .acknowledged) :
    after.b.db.hasInboundSeq wiring.relB row.appSeq = true := by
  refine (Run.sound fresh run).heard row.msgId (entryOf row) ?_ own out state
  exact congrArg (Option.map entryOf) (Table.lookup_key stored)

/-! One round trip: a request goes out, arrives, and the answering view
acknowledges it. -/

def spoken : Ends := { introduced with
  a := final (((Call.sendProfileReq "bob").run loop.sysA).run introduced.a) }

def delivered : Ends := { spoken with
  b := final ((receiveFrame loop.sysB "alice" (frameAt spoken.a 0)).run spoken.b) }

def answered : Ends := { delivered with
  b := final (((Call.onRelationshipActive "alice").run loop.sysB).run delivered.b) }

def settled : Ends := { answered with
  a := final ((receiveFrame loop.sysA "bob" (frameAt answered.b 0)).run answered.a) }

theorem run_settled : Run loop (fun _ _ => True) introduced settled := by
  have speaks : Run loop (fun _ _ => True) introduced spoken :=
    .single ⟨.callA (.sendProfileReq "bob"), trivial, trivial, rfl, by
      unfold Kept
      decide +kernel⟩
  have arrives : Run loop (fun _ _ => True) introduced delivered :=
    speaks.tail ⟨.frameB (frameAt spoken.a 0),
      authentic_frameAt rfl (by decide +kernel), trivial, rfl, by
        unfold Kept
        decide +kernel⟩
  have answers : Run loop (fun _ _ => True) introduced answered :=
    arrives.tail ⟨.callB (.onRelationshipActive "alice"), trivial, trivial, rfl, by
        unfold Kept
        decide +kernel⟩
  exact answers.tail ⟨.frameA (frameAt answered.b 0),
    authentic_frameAt rfl (by decide +kernel), trivial, rfl, by
      unfold Kept
      decide +kernel⟩

theorem acknowledged_round_trip : ∃ row ∈ settled.a.db.messages, row.state = .acknowledged ∧
      settled.b.db.hasInboundSeq "alice" row.appSeq = true := by
  have found : ((settled.a.db.message (.replicate 16 0)).map fun row =>
      (row.relId, row.direction, row.state)) =
        some ("bob", .out, .acknowledged) := by decide +kernel
  obtain ⟨row, looked, same⟩ := Option.map_eq_some_iff.mp found
  have stored := (Table.lookup_eq_some.mp looked).1
  simp only [Prod.mk.injEq] at same
  exact ⟨row, stored, same.2.2, acknowledged_is_received fresh_introduced
    run_settled stored same.1 same.2.1 same.2.2⟩

end SChatCore.Pair
