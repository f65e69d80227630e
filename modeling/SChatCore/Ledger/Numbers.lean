import SChatCore.Ledger.Inbound

namespace SChatCore.Ledger

open Data Data.Action Wire Store Engine

/-! Outbound sequence numbers: the floor only rises, and every number issued
lies at or above it. -/

def numberOf (plain : Bytes) : Option UInt64 :=
  match Envelope.decodeRaw plain with
  | .ok raw => some raw.appSeq
  | .error _ => none

theorem numberOf_of_encode {env : Envelope} (encoded : env.encode nfc = .ok plain) :
    numberOf plain = some env.appSeq := by
  obtain ⟨payload, -, fits, rfl⟩ := Envelope.encode_eq_ok.mp encoded
  unfold numberOf
  rw [Envelope.decodeRaw_bytes fits]
  rfl

def Book.numbers (book : Book) (rel : RelId) : List UInt64 :=
  book.spoken.filterMap fun (other, plain) =>
    if other = rel then numberOf plain else none

theorem lt_saturatingSucc {seq : UInt64} (room : seq.toNat < 2 ^ 64 - 1) :
    (Db.saturatingSucc seq).toNat = seq.toNat + 1 := by
  unfold Db.saturatingSucc
  have small : min (seq.toNat + 1) (2 ^ 64 - 1) < UInt64.size := by
    rw [UInt64.size]
    omega
  rw [UInt64.toNat_ofNat_of_lt' small]
  omega

/-- The numbers spoken so far ascend to the floor, unless it has reached the
end of the range. -/
structure Numbered (rel : RelId) (book : Book) : Prop where
  positive : 1 ≤ book.floor rel
  ascends : (book.floor rel).toNat < 2 ^ 64 - 1 →
    (book.numbers rel ++ [book.floor rel]).Pairwise (· < ·)

theorem floor_le_apply {nfc : String → String} {book : Book} {move : Move}
    (allowed : Licensed nfc said leave book move) :
    book.floor rel ≤ (book.apply move).floor rel := by
  have issue : ∀ other seq, book.floor other ≤ seq → book.floor rel ≤
      if rel = other then Db.saturatingSucc seq else book.floor rel := by
    intro other seq rises
    split
    · rename_i same
      exact UInt64.le_trans (same ▸ rises) (le_saturatingSucc seq)
    · exact UInt64.le_refl _
  cases move with
  | allocate other seq =>
    obtain rises | never := allowed
    · exact issue other seq rises
    · exact never.elim
  | speak other plain seq =>
    obtain ⟨rises, -⟩ | never := allowed
    · exact issue other seq rises
    · exact never.elim
  | _ => exact UInt64.le_refl _

theorem Follows.floor (follows : Follows sys said leave before after) :
    before.db.outSeqFloor rel ≤ after.db.outSeqFloor rel :=
  @Book.invariant _ (fun later => before.db.outSeqFloor rel ≤ later.floor rel)
    (fun _ _ allowed below => UInt64.le_trans below (floor_le_apply allowed))
    _ _ (Writes.book follows) (UInt64.le_refl _)

theorem numbered_apply {book : Book} (allowed : Licensed nfc said leave book move)
    (numbered : Numbered rel book) : Numbered rel (book.apply move) := by
  have rises := @floor_le_apply said leave rel nfc book move allowed
  refine ⟨UInt64.le_trans numbered.positive rises, fun room => ?_⟩
  have before : (book.floor rel).toNat < 2 ^ 64 - 1 :=
    Nat.lt_of_le_of_lt (UInt64.le_iff_toNat_le.mp rises) room
  have ascends := numbered.ascends before
  have raised : ∀ floor, book.floor rel ≤ floor →
      (book.numbers rel ++ [floor]).Pairwise (· < ·) := by
    intro floor above
    obtain ⟨left, -, across⟩ := List.pairwise_append.mp ascends
    refine List.pairwise_append.mpr ⟨left, List.pairwise_singleton _ _, ?_⟩
    rintro number mem _ (_ | ⟨_, ⟨⟩⟩)
    exact UInt64.lt_of_lt_of_le (across number mem _ List.mem_cons_self) above
  cases move with
  | speak other plain seq =>
    obtain ⟨least, env, encoded, rfl, -⟩ | never := allowed
    · by_cases same : other = rel
      · subst same
        have floor : (book.apply (.speak other plain env.appSeq)).floor
            other = Db.saturatingSucc env.appSeq := if_pos rfl
        rw [floor] at room ⊢
        have numbers : (book.apply (.speak other plain env.appSeq)).numbers other =
              book.numbers other ++ [env.appSeq] := by
          refine List.filterMap_append.trans (congrArg _ ?_)
          simp [numberOf_of_encode encoded]
        rw [numbers]
        refine List.pairwise_append.mpr ⟨raised _ least, List.pairwise_singleton _ _, ?_⟩
        have last : env.appSeq < Db.saturatingSucc env.appSeq := by
          have low := UInt64.le_iff_toNat_le.mp (le_saturatingSucc env.appSeq)
          rw [UInt64.lt_iff_toNat_lt, lt_saturatingSucc (by omega)]
          omega
        rintro number mem _ (_ | ⟨_, ⟨⟩⟩)
        rcases List.mem_append.mp mem with old | new
        · have below := (List.pairwise_append.mp (raised _ least)).2.2 number
            old _ List.mem_cons_self
          exact UInt64.lt_trans below last
        · rwa [List.mem_singleton.mp new]
      · have numbers : (book.apply (.speak other plain
            env.appSeq)).numbers rel = book.numbers rel := by
          refine List.filterMap_append.trans ?_
          simp [same]
          rfl
        rw [numbers]
        exact raised _ rises
    · exact never.elim
  | _ => exact raised _ rises

/-! Runs: the allocator itself, the statements around it, and whatever else an
engine does. -/

inductive Numbering (sys : Platform) : Engine → Engine → Prop
  | next (eng : Engine) (rel : RelId) : Numbering sys eng
      { eng with db := (eng.db.nextOutSeq rel).2 }
  | insert {eng : Engine} {msg : NewMessage} {now : Nat} {db : Db}
      (inserted : eng.db.insertMessage now msg = .ok db) :
      Numbering sys eng { eng with db }
  | sweepExpired (eng : Engine) (now : Nat) :
      Numbering sys eng { eng with db := eng.db.sweepExpired now }
  | eraseHistory (eng : Engine) (rel : RelId) (keep : List MsgId) :
      Numbering sys eng { eng with db := eng.db.eraseHistory rel keep }
  | deleteMessage (eng : Engine) (msgId : MsgId) :
      Numbering sys eng { eng with db := eng.db.deleteMessage msgId }
  | send (eng : Engine) (rel : RelId) (payload : Payload)
      (refId : Option MsgId) : Numbering sys eng
        (final ((sendEnvelope sys rel payload refId).run eng))
  | call (eng : Engine) (call : Call) :
      Numbering sys eng (final ((call.run sys).run eng))
  | inbound (eng : Engine) (rel : RelId) (plain : Bytes) :
      Numbering sys eng (final ((handlePlaintext sys rel plain).run eng))
  | frame (eng : Engine) (rel : RelId) (frame : Bytes) :
      Numbering sys eng (final ((receiveFrame sys rel frame).run eng))

section

variable {sys : Platform}

theorem permits_anything (sys : Platform) : Permits sys fun _ _ _ => True :=
  ⟨fun _ _ => trivial, fun _ _ _ _ => trivial⟩

theorem Numbered.congr (numbered : Numbered rel before)
    (floor : after.floor = before.floor) (spoken : after.spoken = before.spoken)
    :
    Numbered rel after := by
  have numbers : after.numbers rel = before.numbers rel := by
    unfold Book.numbers
    rw [spoken]
  refine ⟨floor ▸ numbered.positive, ?_⟩
  rw [floor, numbers]
  exact numbered.ascends

/-- What one step means for the numbers. -/
def Advances (rel : RelId) (before after : Engine) : Prop :=
  (Numbered rel (book before) → Numbered rel (book after)) ∧
    before.db.outSeqFloor rel ≤ after.db.outSeqFloor rel

theorem Follows.advances {said : Book → RelId → Payload → Prop} {leave : Leave}
    {before after : Engine} (follows : Follows sys said leave before after) :
    Advances rel before after :=
  ⟨Book.invariant (fun _ _ => numbered_apply) (Writes.book follows), follows.floor⟩

theorem advances_of_same (floor : (book after).floor = (book before).floor)
    (ratchet : after.ratchet = before.ratchet) :
    Advances rel before after := by
  have spoken : (book after).spoken = (book before).spoken := by
    show List.filterMap _ after.ratchet = List.filterMap _ before.ratchet
    rw [ratchet]
  refine ⟨fun numbered => numbered.congr floor spoken, ?_⟩
  exact UInt64.le_of_eq (congrFun floor rel).symm

theorem Numbering.advances {before after : Engine} (step : Numbering sys before after) :
    Advances rel before after := by
  have permits := permits_anything sys
  cases step with
  | next other =>
    have allowed : Licensed sys.nfc (fun _ _ _ => True) silence
        (book before) (.allocate other (before.db.nextOutSeq other).1) :=
      .inl (floor_le_nextOutSeq other before.db)
    have issued := @book_nextOutSeq before other
    refine ⟨fun numbered => issued ▸ numbered_apply allowed numbered, ?_⟩
    exact UInt64.le_trans (floor_le_apply allowed)
      (UInt64.le_of_eq (congrFun (congrArg Book.floor issued) rel).symm)
  | insert inserted =>
    obtain ⟨messages, -, rfl⟩ := Db.insertMessage_eq_ok.mp inserted
    exact advances_of_same rfl rfl
  | sweepExpired | eraseHistory | deleteMessage => exact advances_of_same rfl rfl
  | send other payload refId =>
    have sent : Evolves sys (fun _ _ _ => True) before (final
        ((sendEnvelope sys other payload refId).run before)) :=
      evolves_sendEnvelope refId trivial
    exact (@Evolves.follows _ _ silence _ _ sent).advances
  | call call => exact (follows_call permits call).advances
  | inbound other plain => exact (follows_handlePlaintext permits plain before).advances
  | frame other frame => exact (follows_receiveFrame permits frame).advances

theorem advances_of_run (run : Relation.ReflTransGen (Numbering sys) before after) :
    Advances rel before after := by
  induction run with
  | refl => exact ⟨id, UInt64.le_refl _⟩
  | tail _ step ih =>
    obtain ⟨numbered, floor⟩ := @Numbering.advances sys rel _ _ step
    exact ⟨numbered ∘ ih.1, UInt64.le_trans ih.2 floor⟩

/-- From a store that has issued nothing yet: a number issued later is larger,
the first is at least one, and the numbers spoken meanwhile ascend to the next
one. -/
theorem nextOutSeq_strictly_increases {start before after : Engine}
    (positive : 1 ≤ start.db.outSeqFloor rel) (silent : (book start).numbers rel = [])
    (lead : Relation.ReflTransGen (Numbering sys) start before)
    (later : Relation.ReflTransGen (Numbering sys)
      { before with db := (before.db.nextOutSeq rel).2 } after)
    (fits : (after.db.nextOutSeq rel).1.toNat < 2 ^ 63) :
    1 ≤ (before.db.nextOutSeq rel).1 ∧ (before.db.nextOutSeq rel).1 < (after.db.nextOutSeq rel).1 ∧
      ((book after).numbers rel ++ [(after.db.nextOutSeq rel).1]).Pairwise (· < ·) := by
  have begun : Numbered rel (book start) := by
    refine ⟨positive, fun _ => ?_⟩
    rw [silent]
    exact List.pairwise_singleton _ _
  have known := (advances_of_run lead).1 begun
  have least := floor_le_nextOutSeq rel before.db
  have next := floor_le_nextOutSeq rel after.db
  have issued : (before.db.nextOutSeq rel).2.outSeqFloor rel =
      Db.saturatingSucc (before.db.nextOutSeq rel).1 :=
    (outSeqFloor_nextOutSeq rel rel before.db).trans (if_pos rfl)
  have after_le := UInt64.le_trans (advances_of_run later).2 next
  rw [issued] at after_le
  have low := UInt64.le_iff_toNat_le.mp (UInt64.le_trans
    (le_saturatingSucc (before.db.nextOutSeq rel).1) after_le)
  have above := UInt64.le_iff_toNat_le.mp after_le
  rw [lt_saturatingSucc (by omega)] at above
  refine ⟨UInt64.le_trans known.positive least, UInt64.lt_iff_toNat_lt.mpr (by omega), ?_⟩
  have issue : Numbering sys before { before with db := (before.db.nextOutSeq rel).2 } :=
    .next before rel
  have ended := (advances_of_run later).1 (issue.advances.1 known)
  have bound := UInt64.le_iff_toNat_le.mp next
  have ascends := ended.ascends (Nat.lt_of_le_of_lt bound (by omega))
  obtain ⟨left, -, across⟩ := List.pairwise_append.mp ascends
  refine List.pairwise_append.mpr ⟨left, List.pairwise_singleton _ _, ?_⟩
  rintro number mem _ (_ | ⟨_, ⟨⟩⟩)
  exact UInt64.lt_of_lt_of_le (across number mem _ List.mem_cons_self) next

def oneSent : Engine :=
  final ((sendEnvelope .loopback "bob" .profileReq none).run (Engine.new
    (paired (newRelationship "bob" .inviter .active "" [] false 0)) 0))

/-- A row is on file and the next number issued; after the history is erased
it is still larger. -/
theorem nextOutSeq_after_erasure : oneSent.db.messages.rows.length = 1 ∧
      (oneSent.db.nextOutSeq "bob").1 = 2 ∧
      (oneSent.db.nextOutSeq "bob").1 <
        (((oneSent.db.nextOutSeq "bob").2.eraseHistory "bob" []).nextOutSeq "bob").1 :=
  ⟨by decide +kernel, by decide +kernel,
    (@nextOutSeq_strictly_increases Platform.loopback "bob" (Engine.new
      (paired (newRelationship "bob" .inviter .active "" [] false 0)) 0)
      oneSent _ (by decide +kernel) rfl
      (.single (.send _ "bob" .profileReq none))
      (.single (.eraseHistory _ "bob" [])) (by decide +kernel)).2.1⟩

end

end SChatCore.Ledger
