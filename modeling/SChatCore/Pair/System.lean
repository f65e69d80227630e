import SChatCore.Ledger.Numbers
import SChatCore.Repair.Exact

namespace SChatCore.Pair

open Data Data.Action Wire Store Engine Ledger

/-! Two engines that share one relationship, and a channel between them that
loses, repeats, delays and reorders. -/

theorem envelopeType_of_decode {t : EnvelopeType}
    (decoded : Payload.decode nfc t bytes = .ok payload) :
    payload.envelopeType = t := by
  have mapped : ∀ {α : Type} {read : Except WireError α} {wrap : α → Payload},
      wrap <$> read = .ok payload → ∃ value, payload = wrap value := by
    intro α read wrap eq
    cases read with
    | error error => cases eq
    | ok value =>
      cases eq
      exact ⟨value, rfl⟩
  cases t <;> (obtain ⟨value, rfl⟩ := mapped decoded; rfl)

/-- A spoken envelope arrives with its header and its type, whatever
normalisation the other side uses. -/
theorem heard_as_spoken {env arrived : Envelope} (encoded : env.encode nfc = .ok plain)
    (decoded : Envelope.decode other plain = .ok arrived) :
    arrived.appSeq = env.appSeq ∧ arrived.envelopeType = env.envelopeType ∧
      ∃ bytes, env.payload.encode nfc = .ok bytes ∧
        Payload.decode other env.envelopeType bytes = .ok arrived.payload := by
  obtain ⟨bytes, payload, fits, rfl⟩ := Envelope.encode_eq_ok.mp encoded
  obtain ⟨raw, read, formed⟩ := Envelope.decode_eq_ok.mp decoded
  rw [Envelope.decodeRaw_bytes fits] at read
  cases read
  obtain ⟨t, received, typed, opened, rfl⟩ := Envelope.ofRaw_eq_ok formed
  cases (EnvelopeType.fromCode_code _).symm.trans typed
  exact ⟨rfl, envelopeType_of_decode opened, bytes, payload, opened⟩

theorem request_as_spoken {env arrived : Envelope} (encoded : env.encode nfc = .ok plain)
    (decoded : Envelope.decode other plain = .ok arrived)
    (asks : arrived.payload = .resyncReq request) :
    env.payload = .resyncReq request := by
  obtain ⟨-, same, bytes, payload, opened⟩ := heard_as_spoken encoded decoded
  have kind : env.payload.envelopeType = .resyncReq := by
    refine Eq.trans same.symm ?_
    unfold Envelope.envelopeType
    rw [asks]
    rfl
  cases spoken : env.payload with
  | resyncReq sent =>
    rw [spoken] at payload
    have read := ResyncReq.decodePayload_of_encodePayload payload
    unfold Envelope.envelopeType at opened
    rw [kind, asks] at opened
    have shown : Payload.resyncReq <$> ResyncReq.decodePayload bytes =
        .ok (.resyncReq request) := opened
    rw [read] at shown
    cases shown
    rfl
  | _ =>
    rw [spoken] at kind
    cases kind

structure Ends where
  a : Engine
  b : Engine

structure Wiring where
  sysA : Platform
  sysB : Platform
  relA : RelId
  relB : RelId

def Authentic (sys : Platform) (receiver : Engine) (rel : RelId)
    (frame : Bytes) (sender : Engine) (other : RelId) : Prop :=
  ∀ plain, sys.messageDecrypt receiver.ratchet rel frame = .ok plain →
      (other, plain) ∈ (book sender).spoken

inductive Act
  | callA (call : Call)
  | callB (call : Call)
  | frameA (frame : Bytes)
  | frameB (frame : Bytes)
  | strangerA (rel : RelId) (frame : Bytes)
  | strangerB (rel : RelId) (frame : Bytes)

namespace Act

def next (wiring : Wiring) (ends : Ends) : Act → Ends
  | callA call => { ends with
      a := final ((call.run wiring.sysA).run ends.a) }
  | callB call => { ends with
      b := final ((call.run wiring.sysB).run ends.b) }
  | frameA frame => { ends with
      a := final ((receiveFrame wiring.sysA wiring.relA frame).run ends.a) }
  | frameB frame => { ends with
      b := final ((receiveFrame wiring.sysB wiring.relB frame).run ends.b) }
  | strangerA rel frame => { ends with
      a := final ((receiveFrame wiring.sysA rel frame).run ends.a) }
  | strangerB rel frame => { ends with
      b := final ((receiveFrame wiring.sysB rel frame).run ends.b) }

/-- Frames of the shared relationship are authentic, the others are frames of
other relationships. -/
def Possible (wiring : Wiring) (ends : Ends) : Act → Prop
  | callA _ | callB _ => True
  | frameA frame => Authentic wiring.sysA ends.a wiring.relA frame ends.b
      wiring.relB
  | frameB frame => Authentic wiring.sysB ends.b wiring.relB frame ends.a
      wiring.relA
  | strangerA rel _ => rel ≠ wiring.relA
  | strangerB rel _ => rel ≠ wiring.relB

end Act

def Kept (wiring : Wiring) (ends : Ends) : Prop :=
  (ends.a.db.relationship wiring.relA).isSome = true ∧
    (ends.b.db.relationship wiring.relB).isSome = true

/-- Just paired: nothing sent or received in it on either side. -/
structure Fresh (wiring : Wiring) (ends : Ends) : Prop where
  kept : Kept wiring ends
  floorA : 1 ≤ ends.a.db.outSeqFloor wiring.relA
  floorB : 1 ≤ ends.b.db.outSeqFloor wiring.relB
  unspokenA : ∀ plain, (wiring.relA, plain) ∉ (book ends.a).spoken
  unspokenB : ∀ plain, (wiring.relB, plain) ∉ (book ends.b).spoken
  unheardA : ∀ seq, ¬ ends.a.db.hasInboundSeq wiring.relA seq = true
  unheardB : ∀ seq, ¬ ends.b.db.hasInboundSeq wiring.relB seq = true
  emptyA : ∀ row ∈ ends.a.db.messages, row.relId ≠ wiring.relA
  emptyB : ∀ row ∈ ends.b.db.messages, row.relId ≠ wiring.relB
  uncutA : ∀ contact, (book ends.a).contact wiring.relA = some contact → contact.cut = 0
  uncutB : ∀ contact, (book ends.b).contact wiring.relB = some contact → contact.cut = 0

def Step (wiring : Wiring) (guard : Ends → Act → Prop) (before after : Ends) :
    Prop :=
  ∃ act : Act, act.Possible wiring before ∧ guard before act ∧
    act.next wiring before = after ∧ Kept wiring after

def Run (wiring : Wiring) (guard : Ends → Act → Prop) : Ends → Ends → Prop :=
  Relation.ReflTransGen (Step wiring guard)

/-! A pair to try things on: two loopback platforms that draw different ids. -/

def faraway : Platform := { Platform.loopback with
  randomMsgId := fun index => Platform.loopback.randomMsgId (index + 2 ^ 32) }

def loop : Wiring := ⟨.loopback, faraway, "bob", "alice"⟩

def contactOnly (rel : RelId) : Engine :=
  Engine.new (paired (newRelationship rel .inviter .active "" [] false 0)) 0

def introduced : Ends := ⟨contactOnly "bob", contactOnly "alice"⟩

theorem uncut_contactOnly (found : (book (contactOnly rel)).contact rel = some contact) :
    contact.cut = 0 := by
  have known : (book (contactOnly rel)).contact rel = some (contactOf
      (newRelationship rel .inviter .active "" [] false 0)) :=
    congrArg (Option.map contactOf) (relationship_paired _)
  cases known.symm.trans found
  rfl

theorem fresh_introduced : Fresh loop introduced where
  kept := by
    unfold Kept
    decide +kernel
  floorA := by decide +kernel
  floorB := by decide +kernel
  unspokenA _ := List.not_mem_nil
  unspokenB _ := List.not_mem_nil
  unheardA _ := Bool.false_ne_true
  unheardB _ := Bool.false_ne_true
  emptyA _ mem := absurd mem (Table.not_mem_empty _)
  emptyB _ mem := absurd mem (Table.not_mem_empty _)
  uncutA _ := uncut_contactOnly
  uncutB _ := uncut_contactOnly

/-- The frame of the envelope spoken at `index`, as these platforms make it. -/
def frameAt (eng : Engine) (index : Nat) : Bytes :=
  tagSignal :: (((book eng).spoken.map Prod.snd)[index]?).getD []

theorem authentic_frameAt (opens : sys.messageDecrypt = Platform.loopback.messageDecrypt)
    (spoken : ((book sender).spoken[index]?).map Prod.fst = some other) :
    Authentic sys receiver rel (frameAt sender index) sender other := by
  intro plain opened
  rw [opens] at opened
  cases opened
  obtain ⟨⟨known, plain⟩, found, rfl⟩ := Option.map_eq_some_iff.mp spoken
  unfold frameAt
  rw [List.getElem?_map, found]
  exact List.mem_of_getElem? found

end SChatCore.Pair
