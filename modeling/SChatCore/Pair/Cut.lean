import SChatCore.Pair.System

namespace SChatCore.Pair

open Data Data.Action Wire Store Engine Ledger

/-! The history cut against the peer's numbers. One column serves both: a
`DELETE_ALL` we send raises it to a number of ours, and what the peer sends is
held against it. -/

/-- Admitted, and then dropped for lying below the cut. -/
def CutDrops (eng : Engine) (rel : RelId) (env : Envelope) : Prop :=
  Admits eng rel env ∧ isHistoryType env.envelopeType = true ∧
    belowCut (eng.db.historyCut rel) env.appSeq = true

/-- The right side has spoken this number in the relationship, not among its
first `since` envelopes. -/
def Later (wiring : Wiring) (since : Nat) (b : Book) (number : UInt64) : Prop :=
  ∃ plain, (wiring.relB, plain) ∈ b.spoken.drop since ∧ numberOf plain = some number

/-- The left side cuts no further than the right side has come, and not past
what was spoken later; nor does it follow the right side past that. -/
def Spaced (wiring : Wiring) (since : Nat) (ends : Ends) : Act → Prop
  | .callA (.sendDeleteAll rel) => rel = wiring.relA →
      (ends.a.db.nextOutSeq wiring.relA).1 ≤ ends.b.db.outSeqFloor wiring.relB ∧
        ∀ number, Later wiring since (book ends.b) number →
          (ends.a.db.nextOutSeq wiring.relA).1 ≤ number
  | .frameA frame => ∀ plain env,
      wiring.sysA.messageDecrypt ends.a.ratchet wiring.relA frame = .ok plain →
      Envelope.decode wiring.sysA.nfc plain = .ok env →
      env.payload = .deleteAll →
      ∀ number, Later wiring since (book ends.b) number → env.appSeq ≤ number
  | _ => True

structure Gapped (wiring : Wiring) (since : Nat) (a b : Book) : Prop where
  numbered : ∀ plain, (wiring.relB, plain) ∈ b.spoken →
    ∃ env : Envelope, env.encode wiring.sysB.nfc = .ok plain ∧ env.appSeq ≤ b.floor wiring.relB
  cut : ∀ contact, a.contact wiring.relA = some contact → contact.closing = true ∨ contact.cut = 0 ∨
      contact.cut ≤ b.floor wiring.relB ∧
        ∀ number, Later wiring since b number → contact.cut ≤ number

theorem raisedCut_eq (cut seq : UInt64) :
    Db.raisedCut cut seq = seq ∨ Db.raisedCut cut seq = cut := by
  unfold Db.raisedCut
  split
  · exact .inl rfl
  · exact .inr rfl

theorem Gapped.left (gapped : Gapped wiring since a b) (allowed : Licensed nfc said leave a move)
    (cuts : ∀ later seq, leave.cuts later wiring.relA seq →
      (∀ contact, later.contact wiring.relA = some contact → contact.closing = true) ∨
      seq ≤ b.floor wiring.relB ∧ ∀ number, Later wiring since b number → seq ≤ number) :
    Gapped wiring since (a.apply move) b := by
  refine ⟨gapped.numbered, fun contact found => ?_⟩
  cases move with
  | raise rel seq =>
    obtain ⟨before, looked, changed⟩ := Option.map_eq_some_iff.mp found
    have held := gapped.cut before looked
    by_cases own : wiring.relA = rel
    · rw [if_pos own] at changed
      subst changed
      obtain never | allowed := allowed
      · exact never.elim
      · rcases cuts a seq (own ▸ allowed) with closing | below
        · exact .inl (closing before looked)
        · rcases raisedCut_eq before.cut seq with raised | kept
          · refine .inr (.inr ?_)
            simp only [raised]
            exact below
          · simp only [kept]
            exact held
    · rw [if_neg own] at changed
      exact changed ▸ held
  | close rel =>
    obtain ⟨before, looked, changed⟩ := Option.map_eq_some_iff.mp found
    split at changed
    · subst changed
      exact .inl rfl
    · exact changed ▸ gapped.cut before looked
  | burn rel =>
    rw [Book.contact_burn] at found
    split at found
    · cases found
    · exact gapped.cut contact found
  | _ => exact gapped.cut contact found

theorem Later.of_speak (later : Later wiring since (b.apply (.speak rel plain seq)) number) :
    Later wiring since b number ∨ rel = wiring.relB ∧ numberOf plain = some number := by
  obtain ⟨spoken, mem, numbered⟩ := later
  have mem : (wiring.relB, spoken) ∈ (b.spoken ++ [(rel, plain)]).drop since := mem
  rw [List.drop_append] at mem
  rcases List.mem_append.mp mem with old | new
  · exact .inl ⟨spoken, old, numbered⟩
  · cases List.mem_singleton.mp (List.mem_of_mem_drop new)
    exact .inr ⟨rfl, numbered⟩

theorem Gapped.right (gapped : Gapped wiring since a b)
    (allowed : Licensed wiring.sysB.nfc said leave b move) :
    Gapped wiring since a (b.apply move) := by
  have rises := @floor_le_apply said leave wiring.relB _ _ _ allowed
  have old : ∀ plain, (wiring.relB, plain) ∈ b.spoken →
      ∃ env : Envelope, env.encode wiring.sysB.nfc = .ok plain ∧
        env.appSeq ≤ (b.apply move).floor wiring.relB := by
    intro plain mem
    obtain ⟨env, encoded, below⟩ := gapped.numbered plain mem
    exact ⟨env, encoded, UInt64.le_trans below rises⟩
  cases move with
  | speak rel plain seq =>
    obtain ⟨least, env, encoded, rfl, -⟩ | never := allowed
    · refine ⟨fun spoken mem => ?_, fun contact found => ?_⟩
      · rcases List.mem_append.mp mem with before | new
        · exact old spoken before
        · cases List.mem_singleton.mp new
          refine ⟨env, encoded, (le_saturatingSucc _).trans_eq ?_⟩
          exact (if_pos rfl).symm
      · rcases gapped.cut contact found with closing | zero | ⟨below, apart⟩
        · exact .inl closing
        · exact .inr (.inl zero)
        · refine .inr (.inr ⟨UInt64.le_trans below rises, fun number later => ?_⟩)
          rcases later.of_speak with old | ⟨rfl, numbered⟩
          · exact apart number old
          · rw [numberOf_of_encode encoded] at numbered
            cases numbered
            exact UInt64.le_trans below least
    · exact never.elim
  | _ =>
    refine ⟨old, fun contact found => ?_⟩
    rcases gapped.cut contact found with closing | zero | ⟨below, apart⟩
    · exact .inl closing
    · exact .inr (.inl zero)
    · exact .inr (.inr ⟨UInt64.le_trans below rises, apart⟩)

theorem Gapped.follows_left (gapped : Gapped wiring since (book before) b)
    (follows : Follows sys said leave before after)
    (cuts : ∀ later seq, leave.cuts later wiring.relA seq →
      (∀ contact, later.contact wiring.relA = some contact → contact.closing = true) ∨
      seq ≤ b.floor wiring.relB ∧ ∀ number, Later wiring since b number → seq ≤ number) :
    Gapped wiring since (book after) b :=
  @Book.invariant _ (fun a => Gapped wiring since a b)
    (fun _ _ allowed gapped => gapped.left allowed cuts) _ _
    (Writes.book follows) gapped

theorem Gapped.follows_right (gapped : Gapped wiring since a (book before))
    (follows : Follows wiring.sysB said leave before after) :
    Gapped wiring since a (book after) :=
  Book.invariant (fun _ _ allowed gapped => gapped.right allowed) (Writes.book follows) gapped

theorem Act.gapped {ends : Ends} {act : Act} (possible : act.Possible wiring ends)
    (spaced : Spaced wiring since ends act)
    (gapped : Gapped wiring since (book ends.a) (book ends.b)) :
    Gapped wiring since (book (act.next wiring ends).a) (book (act.next wiring ends).b) := by
  have left := permits_anything wiring.sysA
  have right := permits_anything wiring.sysB
  cases act with
  | callA call =>
    refine gapped.follows_left (follows_call left call) fun later seq cut => ?_
    rcases cut with closing | ⟨rfl, rfl⟩
    · exact .inl closing
    · exact .inr (spaced rfl)
  | callB call => exact gapped.follows_right (follows_call right call)
  | frameA frame =>
    refine gapped.follows_left (follows_receiveFrame left frame) fun later seq cut => .inr ?_
    unfold frameLeave at cut
    split at cut
    · rename_i plain opened
      obtain ⟨env, encoded, below⟩ := gapped.numbered plain (possible plain opened)
      unfold plaintextLeave at cut
      split at cut
      · rename_i arrived decoded
        obtain ⟨-, deletes, rfl⟩ := cut
        refine ⟨?_, spaced plain arrived opened decoded deletes⟩
        rw [(heard_as_spoken encoded decoded).1]
        exact below
      · exact cut.elim
    · exact cut.elim
  | frameB frame | strangerB rel frame =>
    exact gapped.follows_right (follows_receiveFrame right frame)
  | strangerA rel frame =>
    refine gapped.follows_left (follows_receiveFrame left frame) fun later seq cut => ?_
    unfold frameLeave plaintextLeave at cut
    split at cut
    · split at cut
      · exact absurd cut.1.symm possible
      · exact cut.elim
    · exact cut.elim

theorem Run.gapped {before after : Ends} (run : Run wiring (Spaced wiring since) before after)
    (gapped : Gapped wiring since (book before.a) (book before.b)) :
    Gapped wiring since (book after.a) (book after.b) := by
  induction run with
  | refl => exact gapped
  | tail _ last ih =>
    obtain ⟨act, possible, spaced, rfl, -⟩ := last
    exact act.gapped possible spaced ih

theorem Gapped.not_cutDrops (gapped : Gapped wiring since (book a) (book b))
    (spoken : (wiring.relB, plain) ∈ (book b).spoken.drop since)
    (decoded : Envelope.decode wiring.sysA.nfc plain = .ok env) :
    ¬ CutDrops a wiring.relA env := by
  rintro ⟨admits, history, below⟩
  obtain ⟨sent, encoded, -⟩ := gapped.numbered plain (List.mem_of_mem_drop spoken)
  have number : numberOf plain = some env.appSeq := by
    rw [(heard_as_spoken encoded decoded).1]
    exact numberOf_of_encode encoded
  unfold belowCut Db.historyCut at below
  cases found : a.db.relationship wiring.relA with
  | none =>
    rw [found] at below
    simp at below
  | some row =>
    rw [found] at below
    simp only [Option.map_some, Option.getD_some, Bool.and_eq_true, decide_eq_true_eq] at below
    rcases gapped.cut (contactOf row) (congrArg (Option.map contactOf) found)
      with closing | zero | ⟨-, apart⟩
    · have closing : row.closeState.isSome = true := closing
      have requests : env.envelopeType = .resyncReq := by
        refine admits.unclosed ?_
        unfold Db.closeState
        rw [found]
        exact closing
      rw [requests] at history
      cases history
    · have zero : row.historyCutSeq = 0 := zero
      rw [zero] at below
      exact absurd below.1 (by decide)
    · have above : row.historyCutSeq ≤ env.appSeq := apart env.appSeq ⟨plain, spoken, number⟩
      exact absurd (UInt64.lt_of_lt_of_le below.2 above) (UInt64.lt_irrefl _)

/-- What the right side speaks after it has processed a frame of the left side,
such as that of a `DELETE_ALL`, is not cut there, in every run whose acts are
spaced. -/
theorem not_cutDrops_after_deleteAll {before middle late : Ends} {frame : Bytes}
    {events : List EngineEvent} {cleared : Engine} (fresh : Fresh wiring before)
    (lead : Run wiring (Spaced wiring (book cleared).spoken.length) before middle)
    (authentic : Authentic wiring.sysB middle.b wiring.relB frame middle.a wiring.relA)
    (processes : (receiveFrame wiring.sysB wiring.relB frame).run middle.b =
      .ok events cleared)
    (rest : Run wiring (Spaced wiring (book cleared).spoken.length)
      { middle with b := cleared } late)
    {plain : Bytes} {env : Envelope}
    (later : (wiring.relB, plain) ∈ (book late.b).spoken.drop (book cleared).spoken.length)
    (decoded : Envelope.decode wiring.sysA.nfc plain = .ok env) :
    ¬ CutDrops late.a wiring.relA env := by
  have begun : Gapped wiring (book cleared).spoken.length (book before.a) (book before.b) := by
    refine ⟨fun spoken mem => absurd mem (fresh.unspokenB spoken),
      fun contact found => .inr (.inl ?_)⟩
    exact fresh.uncutA contact found
  have led := lead.gapped begun
  have processed : Gapped wiring (book cleared).spoken.length (book middle.a) (book cleared) := by
    have stepped := @Act.gapped _ _ _ (.frameB frame) authentic trivial led
    have reached : (Act.next wiring middle (.frameB frame)).b = cleared := by
      show final _ = _
      rw [processes]
      rfl
    rw [reached] at stepped
    exact stepped
  exact (rest.gapped processed).not_cutDrops later decoded

/-! A text sent back after the history was cleared: first where nothing had been
said before, then where the clearing side had said two things. -/

def greeting : Envelope where
  msgId := Platform.loopback.randomMsgId (2 ^ 32)
  appSeq := 1
  sentAt := 0
  refId := none
  payload := .msg { body := "hi" }

def hello : Bytes :=
  [1, 0, 0, 0, 0, 0, 0, 0, 0, 0, 0, 0, 1, 0, 0, 0, 0, 0, 0, 0, 0, 0, 0, 0, 1,
    0, 0, 0, 0, 0, 0, 0, 0, 0, 0, 0, 0, 2, 104, 105]

theorem decode_hello : Envelope.decode loop.sysA.nfc hello = .ok greeting := by
  rfl

def clearing (calls : List Call) : Ends :=
  (calls ++ [Call.sendDeleteAll "bob"]).foldl
    (fun ends call => (Act.callA call).next loop ends) introduced

/-- The request to clear follows what the calls have spoken. -/
def request (calls : List Call) : Bytes := frameAt (clearing calls).a calls.length

def cleared (calls : List Call) : Ends := (Act.frameB (request calls)).next loop (clearing calls)

def replied (calls : List Call) : Ends :=
  (Act.callB (.sendText "alice" "hi" none)).next loop (cleared calls)

def Reports (calls : List Call) : Prop :=
  ∃ events, (receiveFrame faraway "alice" (request calls)).run
      (clearing calls).b = .ok events (cleared calls).b ∧
    .historyCleared "alice" ∈ events

theorem reports_of_ok {calls : List Call}
    (reported : (match (receiveFrame faraway "alice" (request calls)).run (clearing calls).b with
      | .ok events _ => decide (.historyCleared "alice" ∈ events)
      | .error _ _ => false) = true) : Reports calls := by
  unfold Reports cleared Act.next
  cases ran : (receiveFrame faraway "alice" (request calls)).run (clearing calls).b with
  | ok events after =>
    rw [ran] at reported
    refine ⟨events, ?_, of_decide_eq_true reported⟩
    show _ = EStateM.Result.ok events (final (EStateM.run _ _))
    erw [ran]
    rfl
  | error e after =>
    rw [ran] at reported
    cases reported

theorem spaced_reply : ∃ plain env, ("alice", plain) ∈ (book (replied []).b).spoken.drop 0 ∧
      Envelope.decode loop.sysA.nfc plain = .ok env ∧
      ¬ CutDrops (replied []).a "bob" env := by
  obtain ⟨events, processes, -⟩ := @reports_of_ok [] (by decide +kernel)
  have silent : (book (cleared []).b).spoken.length = 0 := by decide +kernel
  have later : ("alice", hello) ∈ (book (replied []).b).spoken.drop
      (book (cleared []).b).spoken.length := by
    rw [silent]
    decide +kernel
  have lead : Run loop (Spaced loop (book (cleared []).b).spoken.length)
      introduced (clearing []) := by
    apply Relation.ReflTransGen.single
    refine ⟨.callA (.sendDeleteAll "bob"), trivial, fun _ => ⟨?_, ?_⟩, rfl, ?_⟩
    · decide +kernel
    · rintro number ⟨plain, mem, -⟩
      rw [silent] at mem
      exact absurd mem List.not_mem_nil
    · unfold Kept
      decide +kernel
  have rest : Run loop (Spaced loop (book (cleared []).b).spoken.length)
      { clearing [] with b := (cleared []).b } (replied []) := by
    apply Relation.ReflTransGen.single
    refine ⟨.callB (.sendText "alice" "hi" none), trivial, trivial, rfl, ?_⟩
    unfold Kept
    decide +kernel
  have authentic : Authentic faraway (clearing []).b "alice" (request [])
      (clearing []).a "bob" := authentic_frameAt rfl (by decide +kernel)
  refine ⟨hello, greeting, silent ▸ later, decode_hello, ?_⟩
  exact not_cutDrops_after_deleteAll fresh_introduced lead authentic processes
    rest later decode_hello

/-- The clearing side has reached number three, so its cut stands above the
first number of the other side. -/
def chatter : List Call := [.sendProfileReq "bob", .sendProfileReq "bob"]

theorem cutDrops_after_deleteAll : Fresh loop introduced ∧
    Run loop (fun _ _ => True) introduced (clearing chatter) ∧
    Authentic faraway (clearing chatter).b "alice" (request chatter) (clearing chatter).a "bob" ∧
    Reports chatter ∧
    Run loop (fun _ _ => True) (cleared chatter) (replied chatter) ∧
    ∃ plain env, ("alice", plain) ∈ (book (replied chatter).b).spoken.drop
        (book (cleared chatter).b).spoken.length ∧
      Envelope.decode loop.sysA.nfc plain = .ok env ∧
      CutDrops (replied chatter).a "bob" env := by
  have calls (ends : Ends) (call : Call) (kept : Kept loop ((Act.callA call).next loop ends)) :
      Step loop (fun _ _ => True) ends ((Act.callA call).next loop ends) :=
    ⟨.callA call, trivial, trivial, rfl, kept⟩
  refine ⟨fresh_introduced, ?_, ?_, ?_, ?_, hello, greeting, ?_, decode_hello,
    ⟨?_, ?_, ?_, ?_, ?_⟩, ?_, ?_⟩
  · refine ((Relation.ReflTransGen.single (calls _ _ ?_)).tail (calls _ _ ?_)).tail (calls _ _ ?_)
    all_goals
      unfold Kept
      decide +kernel
  · exact authentic_frameAt rfl (by decide +kernel)
  · exact reports_of_ok (by decide +kernel)
  · apply Relation.ReflTransGen.single
    refine ⟨.callB (.sendText "alice" "hi" none), trivial, trivial, rfl, ?_⟩
    unfold Kept
    decide +kernel
  all_goals decide +kernel

end SChatCore.Pair
