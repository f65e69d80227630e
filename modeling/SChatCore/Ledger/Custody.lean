import SChatCore.Ledger.Retention

namespace SChatCore.Ledger

open Data Data.Action Wire Store Policy Engine

/-! The frame of a message from the ratchet to the socket. -/

def idOf (plain : Bytes) : Option MsgId :=
  match Envelope.decodeRaw plain with
  | .ok raw => some raw.msgId
  | .error _ => none

theorem idOf_of_encode {env : Envelope} (encoded : env.encode nfc = .ok plain) :
    idOf plain = some env.msgId := by
  obtain ⟨payload, -, fits, rfl⟩ := Envelope.encode_eq_ok.mp encoded
  unfold idOf
  rw [Envelope.decodeRaw_bytes fits]
  rfl

/-- The message a ratchet call is about, if it encrypts. -/
def sealedId : RatchetCall → Option MsgId
  | .encrypt _ plain => idOf plain
  | _ => none

/-- What came of the first call for this message. -/
def FirstMade (sys : Platform) (calls : List RatchetCall) (msgId : MsgId) (frame : Bytes) : Prop :=
  ∃ history rest rel plain kind body, calls = history ++ .encrypt rel plain :: rest ∧
      idOf plain = some msgId ∧
      (∀ call ∈ history, sealedId call ≠ some msgId) ∧
      sys.messageEncrypt history rel plain = .ok (kind, body) ∧
      frameOf kind body = .ok frame

theorem split_unique (same : first ++ call :: rest = second ++ call' :: rest')
    (about : sealedId call = some msgId) (about' : sealedId call' = some msgId)
    (new : ∀ call ∈ first, sealedId call ≠ some msgId)
    (new' : ∀ call ∈ second, sealedId call ≠ some msgId) :
    first = second ∧ call = call' := by
  rcases List.append_eq_append_iff.mp same with
    ⟨middle, rfl, tail⟩ | ⟨middle, rfl, tail⟩
  · cases middle with
    | nil =>
      cases tail
      exact ⟨(List.append_nil _).symm, rfl⟩
    | cons head others =>
      cases tail
      exact absurd about (new' call (by simp))
  · cases middle with
    | nil =>
      cases tail
      exact ⟨List.append_nil _, rfl⟩
    | cons head others =>
      cases tail
      exact absurd about' (new call' (by simp))

theorem FirstMade.unique (first : FirstMade sys calls msgId frame)
    (second : FirstMade sys calls msgId other) : frame = other := by
  obtain ⟨history, rest, rel, plain, kind, body, rfl, about, new, made, framed⟩ := first
  obtain ⟨history', rest', relId', plaintext', kind', body', same, about', new',
    made', framed'⟩ := second
  obtain ⟨rfl, call⟩ := split_unique same about about' new new'
  cases call
  cases made.symm.trans made'
  cases framed.symm.trans framed'
  rfl

theorem Produced.append (produced : Produced sys calls msgId frame) (more : List RatchetCall) :
    Produced sys (calls ++ more) msgId frame := by
  obtain ⟨history, rest, rel, plain, kind, body, env, rfl, made⟩ := produced
  exact ⟨history, rest ++ more, rel, plain, kind, body, env,
    by rw [List.append_assoc, List.cons_append], made⟩

theorem Produced.first (produced : Produced sys calls msgId frame)
    (distinct : (calls.filterMap sealedId).Nodup) :
    FirstMade sys calls msgId frame := by
  obtain ⟨history, rest, rel, plain, kind, body, env, rfl, encoded, rfl, made, framed⟩ := produced
  have about : sealedId (.encrypt rel plain) = some env.msgId := idOf_of_encode encoded
  refine ⟨history, rest, rel, plain, kind, body, rfl, about, fun call mem same => ?_, made, framed⟩
  rw [List.filterMap_append, List.filterMap_cons_some about] at distinct
  obtain ⟨-, -, apart⟩ := List.nodup_append.mp distinct
  exact apart _ (List.mem_filterMap.mpr ⟨call, mem, same⟩) _ List.mem_cons_self rfl

def Wraps (sys : Platform) (calls : List RatchetCall) (msgId : MsgId) (record : Bytes) : Prop :=
  ∃ frame padding, Wire.buildRecord padding frame = .ok record ∧ Produced sys calls msgId frame

def FreshIds (sys : Platform) (bound : Nat) : Prop :=
  ∀ first second, first < bound → second < bound →
    sys.randomMsgId first = sys.randomMsgId second → first = second

structure Custody (sys : Platform) (eng : Engine) : Prop where
  drawn : ∀ msgId ∈ eng.ratchet.filterMap sealedId,
    ∃ index, index < eng.draws ∧ msgId = sys.randomMsgId index
  distinct : FreshIds sys eng.draws → (eng.ratchet.filterMap sealedId).Nodup
  stored : ∀ row ∈ eng.db.ciphertexts, Produced sys eng.ratchet row.msgId row.frameBytes
  queued : ∀ row ∈ eng.db.outbox, Wraps sys eng.ratchet row.msgId row.record
  handed : ∀ entry ∈ eng.writes, Wraps sys eng.ratchet entry.1 entry.2

section

variable {guard : Book → Move → Prop}

theorem FreshIds.mono (fresh : FreshIds sys larger) (le : bound ≤ larger) :
    FreshIds sys bound :=
  fun first second below below' =>
    fresh first second (below.trans_le le) (below'.trans_le le)

theorem Wraps.append (wraps : Wraps sys calls msgId record) (more : List RatchetCall) :
    Wraps sys (calls ++ more) msgId record := by
  obtain ⟨frame, padding, built, produced⟩ := wraps
  exact ⟨frame, padding, built, produced.append more⟩

theorem Custody.wraps (custody : Custody sys before) (wrapped : Sealed before.db rel msgId record) :
    Wraps sys before.ratchet msgId record := by
  obtain ⟨frame, padding, stored, built⟩ := wrapped
  obtain ⟨row, mem, rfl, -, rfl⟩ := Db.storedCiphertext_eq_some.mp stored
  exact ⟨row.frameBytes, padding, built, custody.stored row mem⟩

theorem Custody.of_less (custody : Custody sys before)
    (ratchet : after.ratchet = before.ratchet ++ more)
    (silent : more.filterMap sealedId = []) (draws : before.draws ≤ after.draws)
    (ciphertexts : ∀ row ∈ after.db.ciphertexts, row ∈ before.db.ciphertexts)
    (outbox : ∀ row ∈ after.db.outbox, ∃ old ∈ before.db.outbox,
      old.msgId = row.msgId ∧ old.record = row.record)
    (writes : after.writes = before.writes) : Custody sys after := by
  have ids : after.ratchet.filterMap sealedId =
      before.ratchet.filterMap sealedId := by
    rw [ratchet, List.filterMap_append, silent, List.append_nil]
  refine ⟨fun msgId mem => ?_, fun fresh => ?_, fun row mem => ?_,
    fun row mem => ?_, fun entry mem => ?_⟩
  · obtain ⟨index, below, own⟩ := custody.drawn msgId (ids ▸ mem)
    exact ⟨index, below.trans_le draws, own⟩
  · rw [ids]
    exact custody.distinct (fresh.mono draws)
  · rw [ratchet]
    exact (custody.stored row (ciphertexts row mem)).append more
  · rw [ratchet]
    obtain ⟨old, filed, named, same⟩ := outbox row mem
    exact named ▸ same ▸ (custody.queued old filed).append more
  · rw [ratchet]
    exact (custody.handed entry (writes ▸ mem)).append more

theorem Custody.of_same (custody : Custody sys before) (ratchet : after.ratchet = before.ratchet)
    (draws : before.draws ≤ after.draws)
    (ciphertexts : after.db.ciphertexts = before.db.ciphertexts)
    (outbox : after.db.outbox = before.db.outbox)
    (writes : after.writes = before.writes) : Custody sys after :=
  custody.of_less (ratchet.trans (List.append_nil _).symm) rfl draws
    (fun _ mem => ciphertexts ▸ mem)
    (fun row mem => ⟨row, outbox ▸ mem, rfl, rfl⟩) writes

theorem Custody.speak {env : Envelope} (custody : Custody sys before)
    (own : env.msgId = sys.randomMsgId before.draws) (encoded : env.encode sys.nfc = .ok plain)
    (ciphertexts : db.ciphertexts = before.db.ciphertexts) (outbox : db.outbox = before.db.outbox) :
    Custody sys { before with
      db
      draws := before.draws + 1
      ratchet := before.ratchet ++ [.encrypt rel plain] } := by
  have about : sealedId (.encrypt rel plain) = some env.msgId := idOf_of_encode encoded
  have ids : (before.ratchet ++ [RatchetCall.encrypt rel plain]).filterMap sealedId =
        before.ratchet.filterMap sealedId ++ [env.msgId] := by
    rw [List.filterMap_append, List.filterMap_cons_some about]
    rfl
  refine ⟨?_, fun fresh => ?_, fun row mem => ?_, fun row mem => ?_, fun entry mem => ?_⟩
  · rw [ids]
    intro msgId mem
    rcases List.mem_append.mp mem with old | new
    · obtain ⟨index, below, drawn⟩ := custody.drawn msgId old
      exact ⟨index, Nat.lt_succ_of_lt below, drawn⟩
    · rw [List.mem_singleton.mp new]
      exact ⟨before.draws, Nat.lt_succ_self _, own⟩
  · rw [ids]
    refine List.nodup_append.mpr ⟨custody.distinct (fresh.mono (Nat.le_succ _)),
      List.nodup_singleton _, ?_⟩
    intro msgId old _ new same
    obtain ⟨index, below, drawn⟩ := custody.drawn msgId old
    rw [same, List.mem_singleton.mp new, own] at drawn
    have twice := fresh before.draws index (Nat.lt_succ_self _) (Nat.lt_succ_of_lt below) drawn
    exact absurd twice (Nat.ne_of_gt below)
  · exact (custody.stored row (ciphertexts ▸ mem)).append _
  · exact (custody.queued row (outbox ▸ mem)).append _
  · exact (custody.handed entry mem).append _

theorem Custody.of_queued (custody : Custody sys before)
    (rows : ∀ row ∈ outbox, row ∈ before.db.outbox ∨
      Wraps sys before.ratchet row.msgId row.record) :
    Custody sys { before with db := { before.db with outbox } } := by
  refine ⟨custody.drawn, custody.distinct, custody.stored, fun row mem => ?_, custody.handed⟩
  exact (rows row mem).elim (custody.queued row) id

theorem Custody.write (custody : Custody sys before) (write : Write sys guard floor before after) :
    Custody sys after := by
  cases write with
  | aside aside =>
    exact custody.of_same aside.ratchet aside.draws
      (congrArg Db.ciphertexts aside.db :) (congrArg Db.outbox aside.db :)
      aside.writes
  | note same | media same =>
    exact custody.of_same rfl le_rfl (congrArg Db.ciphertexts same :)
      (congrArg Db.outbox same :) rfl
  | @agree rel next outcome =>
    have rest := clampAndErase_rest rel outcome (savePolicy rel next before.db)
    exact custody.of_same rfl le_rfl (congrArg Db.ciphertexts rest :)
      (congrArg Db.outbox rest :) rfl
  | opened =>
    exact custody.of_less rfl rfl le_rfl (fun _ => id) (fun row mem => ⟨row, mem, rfl, rfl⟩) rfl
  | allocate => exact custody.of_same rfl (Nat.le_succ _) rfl rfl rfl
  | speak _ own encoded => exact custody.speak own encoded rfl rfl
  | cipher produced stored =>
    obtain ⟨ciphertexts, inserted, rfl⟩ := storeCiphertext_eq_ok stored
    refine ⟨custody.drawn, custody.distinct, fun row mem => ?_, custody.queued, custody.handed⟩
    rcases (Table.mem_insert inserted).mp mem with old | rfl
    · exact custody.stored row old
    · exact produced
  | post _ _ _ inserted | deliver _ _ _ inserted =>
    obtain ⟨messages, -, rfl⟩ := Db.insertMessage_eq_ok.mp inserted
    exact custody.of_same rfl le_rfl rfl rfl rfl
  | enqueue wrapped queued =>
    obtain ⟨outbox, inserted, rfl⟩ := Db.enqueue_eq_ok.mp queued
    refine custody.of_queued fun row mem => ?_
    rcases (Table.mem_insert inserted).mp mem with old | rfl
    · exact .inl old
    · exact .inr (custody.wraps wrapped)
  | requeue wrapped =>
    refine custody.of_queued fun row mem => ?_
    rcases Table.mem_upsert.mp mem with rfl | ⟨old, -⟩
    · exact .inr (custody.wraps wrapped)
    · exact .inl old
  | handOver queued =>
    refine ⟨custody.drawn, custody.distinct, custody.stored, custody.queued, fun entry mem => ?_⟩
    rcases List.mem_append.mp mem with old | new
    · exact custody.handed entry old
    · obtain ⟨waiting, rfl⟩ := Table.lookup_eq_some.mp queued
      rw [List.mem_singleton.mp new]
      exact custody.queued _ waiting
  | retry =>
    refine custody.of_less (List.append_nil _).symm rfl le_rfl (fun _ => id) (fun row mem => ?_) rfl
    obtain ⟨old, filed, rfl⟩ := List.mem_map.mp mem
    refine ⟨old, filed, ?_⟩
    split <;> exact ⟨rfl, rfl⟩
  | dequeue | fail =>
    exact custody.of_less (List.append_nil _).symm rfl le_rfl (fun _ => id)
      (fun row mem => ⟨row, (Table.mem_delete.mp mem).1, rfl, rfl⟩) rfl
  | expire | forget =>
    exact custody.of_less (List.append_nil _).symm rfl le_rfl
      (fun _ mem => (Table.mem_delete.mp mem).1)
      (fun row mem => ⟨row, mem, rfl, rfl⟩) rfl
  | burn =>
    exact custody.of_less rfl rfl le_rfl (fun _ => id)
      (fun row mem => ⟨row, (Table.mem_delete.mp mem).1, rfl, rfl⟩) rfl
  | _ => exact custody.of_same rfl le_rfl rfl rfl rfl

end

inductive Handling (sys : Platform) : Engine → Engine → Prop
  | operation {before after : Engine} (step : Operation sys before after) :
      Handling sys before after
  | resync (eng : Engine) (rel : RelId) (request : ResyncReq) :
      Handling sys eng (final ((applyResyncReq sys rel request).run eng))
  | requeue {eng : Engine} {rel : RelId} {msgId : MsgId} {record : Bytes}
      (wrapped : Sealed eng.db rel msgId record) :
      Handling sys eng { eng with
        db := eng.db.requeue msgId rel record messageTtlSecs eng.clock }
  | eraseHistory (eng : Engine) (rel : RelId) (keep : List MsgId) :
      Handling sys eng { eng with
        db := eng.db.eraseHistory rel keep }

theorem Custody.follows {said : Book → RelId → Payload → Prop} {leave : Leave}
    (custody : Custody sys before) (follows : Follows sys said leave before after) :
    Custody sys after :=
  Writes.invariant (fun _ _ write custody => custody.write write) follows custody

theorem Custody.handling (custody : Custody sys before)
    (step : Handling sys before after) : Custody sys after := by
  cases step with
  | operation step =>
    rcases step.follows with ⟨row, rfl⟩ | ⟨leave, follows, -⟩
    · obtain ⟨relationships, ran⟩ := run_insertRelationship row before
      rw [ran]
      exact custody.of_same rfl le_rfl rfl rfl rfl
    · exact custody.follows follows
  | resync rel request =>
    let leave : Leave := { silence with acks := fun _ _ => True }
    exact custody.follows (@follows_applyResyncReq _ _ leave _
      (permits_anything sys) request (fun _ _ => trivial) before)
  | requeue wrapped =>
    exact custody.write (@Write.requeue _ (fun _ _ => True) 0 _ _ _ _ wrapped trivial)
  | eraseHistory rel keep =>
    exact custody.write (@Write.forget _ (fun _ _ => True) 0 _ rel keep trivial)

theorem Custody.run (custody : Custody sys before)
    (run : Relation.ReflTransGen (Handling sys) before after) :
    Custody sys after := by
  induction run with
  | refl => exact custody
  | tail _ step ih => exact ih.handling step

theorem Wraps.parse (wraps : Wraps sys calls msgId record)
    (distinct : (calls.filterMap sealedId).Nodup) :
    ∃ frame, parseRecord record = .ok frame ∧
      FirstMade sys calls msgId frame := by
  obtain ⟨frame, padding, built, produced⟩ := wraps
  exact ⟨frame, parseRecord_of_buildRecord built, produced.first distinct⟩

theorem run_encrypt_of_conflict (cached : eng.db.ciphertexts.lookup msgId = some row)
    (other : row.relId ≠ rel) (plain : Bytes) (now : Nat) :
    (encrypt sys rel msgId plain now).run eng =
      .error (.session (if plain.length > maxEnvelopeBytes then
          .tooLarge plain.length maxEnvelopeBytes
        else match sessionState eng.db rel with
          | .broken => relationshipBroken
          | .none => .noSession
          | .active => .msgIdConflict)) eng := by
  unfold encrypt
  rw [bind_readDb]
  split
  · rfl
  · cases sessionState eng.db rel with
    | none => rfl
    | broken => rfl
    | active =>
      simp only [cached]
      rw [if_pos other]
      rfl

/-- All records of a message carry the frame its first encryption made; an id
stored under another relationship is refused before the ratchet is called. -/
theorem one_frame_per_message (sys : Platform) :
    (∀ start eng : Engine, start.ratchet = [] → start.writes = [] →
      start.db.ciphertexts = .empty → start.db.outbox = .empty →
      Relation.ReflTransGen (Handling sys) start eng →
      FreshIds sys eng.draws →
      ∀ msgId first second, (msgId, first) ∈ eng.writes → (msgId, second) ∈ eng.writes →
        ∃ frame, parseRecord first = .ok frame ∧ parseRecord second = .ok frame ∧
          FirstMade sys eng.ratchet msgId frame) ∧
    ∀ (eng : Engine) rel msgId plain now row,
      eng.db.ciphertexts.lookup msgId = some row → row.relId ≠ rel →
      (encrypt sys rel msgId plain now).run eng =
        .error (.session (if plain.length > maxEnvelopeBytes then
            .tooLarge plain.length maxEnvelopeBytes
          else match sessionState eng.db rel with
            | .broken => relationshipBroken
            | .none => .noSession
            | .active => .msgIdConflict)) eng := by
  constructor
  · intro start eng ratchet writes ciphertexts outbox run fresh msgId first
      second handed again
    have begins : Custody sys start := by
      refine ⟨?_, fun _ => ?_, ?_, ?_, ?_⟩
      · rw [ratchet]
        exact fun _ mem => nomatch mem
      · rw [ratchet]
        exact List.nodup_nil
      · rw [ciphertexts]
        exact fun _ mem => nomatch mem
      · rw [outbox]
        exact fun _ mem => nomatch mem
      · rw [writes]
        exact fun _ mem => nomatch mem
    have custody := begins.run run
    obtain ⟨frame, parsed, made⟩ := (custody.handed _ handed).parse (custody.distinct fresh)
    obtain ⟨other, reparsed, remade⟩ := (custody.handed _ again).parse (custody.distinct fresh)
    obtain rfl := made.unique remade
    exact ⟨frame, parsed, reparsed, made⟩
  · intro eng rel msgId plain now row cached other
    exact run_encrypt_of_conflict cached other plain now

def asked : Engine := final ((sendEnvelope .loopback "alice" .profileReq none).run acquainted)

def repaired : Engine :=
  final ((applyResyncReq .loopback "alice"
    { maxContiguousSeq := 0, receivedSeqBitmap := [], caps := 0,
      historyHash := List.Vector.replicate 32 0 }).run asked)

def askedAgain : Engine := final ((Call.run .loopback .drainOutbox).run repaired)

theorem asked_again_alike : askedAgain.writes.map Prod.fst =
      [Platform.loopback.randomMsgId 0, Platform.loopback.randomMsgId 0] ∧
    ∀ first second, (Platform.loopback.randomMsgId 0, first) ∈ askedAgain.writes →
      (Platform.loopback.randomMsgId 0, second) ∈ askedAgain.writes →
      ∃ frame, parseRecord first = .ok frame ∧ parseRecord second = .ok frame ∧
        FirstMade .loopback askedAgain.ratchet (Platform.loopback.randomMsgId 0) frame := by
  have run : Relation.ReflTransGen (Handling .loopback) acquainted askedAgain :=
    .tail (.tail (.single (.operation (.send acquainted "alice" .profileReq
      none))) (.resync asked "alice" _)) (.operation (.call repaired .drainOutbox))
  have draws : askedAgain.draws = 3 := by decide +kernel
  refine ⟨by decide +kernel, (one_frame_per_message .loopback).1 acquainted
    askedAgain rfl rfl rfl rfl run ?_ _⟩
  rw [draws]
  have apart : ∀ first < 3, ∀ second < 3, Platform.loopback.randomMsgId first =
      Platform.loopback.randomMsgId second → first = second := by
    decide +kernel
  exact fun first second below below' => apart first below second below'

/-! An id taken by one relationship, on another that is broken. -/

def crossed : Engine :=
  Engine.new { paired { newRelationship "alice" .inviter .active "" [] false 0
      with sessionState := .broken } with
    ciphertexts := ⟨[{
      msgId := List.Vector.replicate 16 1
      relId := "bob"
      frameBytes := []
      createdAt := 0 }], List.nodup_singleton _⟩ } 0

theorem conflict_behind_broken : (crossed.db.ciphertexts.lookup (List.Vector.replicate 16 1)).map
        CiphertextRow.relId = some "bob" ∧
      (encrypt .loopback "alice" (List.Vector.replicate 16 1) [] 0).run crossed =
        .error (.session relationshipBroken) crossed := by
  have cached : crossed.db.ciphertexts.lookup (List.Vector.replicate 16 1) =
      some {
        msgId := List.Vector.replicate 16 1
        relId := "bob"
        frameBytes := []
        createdAt := 0 } := by decide +kernel
  refine ⟨by rw [cached]; rfl, ?_⟩
  exact run_encrypt_of_conflict cached (by decide) [] 0

end SChatCore.Ledger
