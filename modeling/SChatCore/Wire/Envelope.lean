import SChatCore.Wire.Payload
import SChatCore.Wire.Resync
import SChatCore.Wire.Policy
import SChatCore.Wire.Attach
import SChatCore.Wire.Sticker

namespace SChatCore.Wire

open Data.Stream

def maxEnvelopeBytes : Nat := 27996

inductive EnvelopeType
  | msg | edit | delete | deleteAll | resyncReq | attachHead | attachChunk
  | contactClose | profile | pref | profileReq | sticker | stickerCtrl
  | presence | chatPolicy | typing | read
  deriving DecidableEq

namespace EnvelopeType

/-- Codes 12 and 13 are unassigned. -/
def code : EnvelopeType → UInt8
  | msg => 1
  | edit => 2
  | delete => 3
  | deleteAll => 4
  | resyncReq => 5
  | attachHead => 6
  | attachChunk => 7
  | contactClose => 8
  | profile => 9
  | pref => 10
  | profileReq => 11
  | sticker => 14
  | stickerCtrl => 15
  | presence => 16
  | chatPolicy => 17
  | typing => 18
  | read => 19

def all : List EnvelopeType :=
  [msg, edit, delete, deleteAll, resyncReq, attachHead, attachChunk,
    contactClose, profile, pref, profileReq, sticker, stickerCtrl, presence,
    chatPolicy, typing, read]

def fromCode (value : UInt8) : Option EnvelopeType := all.find? fun t => t.code = value

@[simp] theorem fromCode_code (t : EnvelopeType) : fromCode t.code = some t := by
  cases t <;> rfl

end EnvelopeType

inductive Payload
  | msg (payload : Msg)
  | edit (payload : Edit)
  | delete
  | deleteAll
  | resyncReq (payload : ResyncReq)
  | attachHead (payload : AttachHeadPayload)
  | attachChunk (payload : AttachChunk)
  | contactClose
  | profile (payload : Profile)
  | pref (payload : Pref)
  | profileReq
  | sticker (payload : StickerItem)
  | stickerCtrl (payload : StickerCtrl)
  | presence (payload : Presence)
  | chatPolicy (payload : ChatPolicy)
  | typing (payload : Typing)
  | read
  deriving DecidableEq

namespace Payload

def envelopeType : Payload → EnvelopeType
  | msg _ => .msg
  | edit _ => .edit
  | delete => .delete
  | deleteAll => .deleteAll
  | resyncReq _ => .resyncReq
  | attachHead _ => .attachHead
  | attachChunk _ => .attachChunk
  | contactClose => .contactClose
  | profile _ => .profile
  | pref _ => .pref
  | profileReq => .profileReq
  | sticker _ => .sticker
  | stickerCtrl _ => .stickerCtrl
  | presence _ => .presence
  | chatPolicy _ => .chatPolicy
  | typing _ => .typing
  | read => .read

variable (nfc : String → String)

def encode : Payload → Except WireError Bytes
  | msg payload => payload.encodePayload
  | edit payload => payload.encodePayload
  | delete => .ok []
  | deleteAll => .ok []
  | resyncReq payload => payload.encodePayload
  | attachHead payload => payload.encodePayload
  | attachChunk payload => payload.encodePayload
  | contactClose => .ok []
  | profile payload => payload.encodePayload nfc
  | pref payload => payload.encodePayload
  | profileReq => .ok []
  | sticker payload => payload.encodePayload
  | stickerCtrl payload => payload.encodePayload
  | presence payload => payload.encodePayload
  | chatPolicy payload => payload.encodePayload
  | typing payload => payload.encodePayload
  | read => .ok []

def decode (t : EnvelopeType) (bytes : Bytes) : Except WireError Payload :=
  match t with
  | .msg => msg <$> Msg.decodePayload bytes
  | .edit => edit <$> Edit.decodePayload bytes
  | .delete => (fun _ => delete) <$> decodeEmpty "delete" bytes
  | .deleteAll => (fun _ => deleteAll) <$> decodeEmpty "delete_all" bytes
  | .resyncReq => resyncReq <$> ResyncReq.decodePayload bytes
  | .attachHead => attachHead <$> AttachHeadPayload.decodePayload bytes
  | .attachChunk => attachChunk <$> AttachChunk.decodePayload bytes
  | .contactClose => (fun _ => contactClose) <$> decodeEmpty "contact_close" bytes
  | .profile => profile <$> Profile.decodePayload nfc bytes
  | .pref => pref <$> Pref.decodePayload bytes
  | .profileReq => (fun _ => profileReq) <$> decodeEmpty "profile_req" bytes
  | .sticker => sticker <$> StickerItem.decodePayload bytes
  | .stickerCtrl => stickerCtrl <$> StickerCtrl.decodePayload bytes
  | .presence => presence <$> Presence.decodePayload bytes
  | .chatPolicy => chatPolicy <$> ChatPolicy.decodePayload bytes
  | .typing => typing <$> Typing.decodePayload bytes
  | .read => (fun _ => read) <$> decodeEmpty "read" bytes

end Payload

/-- The fields every envelope carries, with the payload still in bytes. -/
structure RawEnvelope where
  code : UInt8
  msgId : MsgId
  appSeq : UInt64
  sentAt : UInt64
  refId : Option MsgId
  payload : Bytes
  deriving DecidableEq

namespace RawEnvelope

def refBytes : Option MsgId → Bytes
  | some refId => 16 :: refId.toList
  | none => [0]

def bytes (raw : RawEnvelope) : Bytes :=
  raw.code :: (raw.msgId.toList ++ (u64be raw.appSeq ++ (u64be raw.sentAt ++
    (refBytes raw.refId ++ lp raw.payload))))

def refReader : Reader (Option MsgId) := do
  let refLen ← Reader.u8 "envelope.ref_len"
  if refLen = 0 then return none
  else if refLen = 16 then do
    let refId ← Reader.takeArray 16 "envelope.ref"
    return some refId
  else throw (.badLength "envelope.ref" refLen.toNat 16)

def reader : Reader RawEnvelope := do
  let code ← Reader.u8 "envelope.type"
  let msgId ← Reader.takeArray 16 "envelope.msg_id"
  let appSeq ← Reader.u64be "envelope.app_seq"
  let sentAt ← Reader.u64be "envelope.sent_at"
  let refId ← refReader
  let payload ← Reader.lp maxEnvelopeBytes "envelope.payload"
  Reader.expectEnd "envelope"
  return { code, msgId, appSeq, sentAt, refId, payload }

theorem run_refReader (refId : Option MsgId) (rest : Bytes) :
    refReader.run (refBytes refId ++ rest) = .ok (refId, rest) := by
  unfold refReader refBytes
  cases refId with
  | none =>
    rw [List.singleton_append, run_bind, Reader.run_u8]
    rfl
  | some refId =>
    rw [List.cons_append, run_bind, Reader.run_u8]
    simp only
    rw [if_neg (by decide), if_pos trivial, run_bind, Reader.run_takeArray]
    rfl

theorem run_reader (bounded : raw.payload.length ≤ maxEnvelopeBytes) :
    reader.run raw.bytes = .ok (raw, []) := by
  unfold reader bytes
  rw [run_bind, Reader.run_u8]
  simp only
  rw [run_bind, Reader.run_takeArray]
  simp only
  rw [run_bind, Reader.run_u64be]
  simp only
  rw [run_bind, Reader.run_u64be]
  simp only
  rw [run_bind, run_refReader]
  simp only
  rw [run_bind, ← List.append_nil (lp raw.payload), Reader.run_lp bounded (by decide)]
  rfl

end RawEnvelope

structure Envelope where
  msgId : MsgId
  appSeq : UInt64
  sentAt : UInt64
  refId : Option MsgId
  payload : Payload
  deriving DecidableEq

namespace Envelope

variable (nfc : String → String)

def envelopeType (env : Envelope) : EnvelopeType := env.payload.envelopeType

def raw (env : Envelope) (payload : Bytes) : RawEnvelope where
  code := env.envelopeType.code
  msgId := env.msgId
  appSeq := env.appSeq
  sentAt := env.sentAt
  refId := env.refId
  payload := payload

def encode (env : Envelope) : Except WireError Bytes := do
  let payload ← env.payload.encode nfc
  let out := (env.raw payload).bytes
  if out.length > maxEnvelopeBytes then
    throw (.tooLarge "envelope" out.length maxEnvelopeBytes)
  else return out

def ofRaw (raw : RawEnvelope) : Except WireError Envelope :=
  match EnvelopeType.fromCode raw.code with
  | none => .error (.unknownType raw.code raw.msgId raw.appSeq)
  | some t => do
    let payload ← Payload.decode nfc t raw.payload
    return {
      msgId := raw.msgId
      appSeq := raw.appSeq
      sentAt := raw.sentAt
      refId := raw.refId
      payload }

/-- The header of a plaintext, whatever its type code and payload. -/
def decodeRaw (bytes : Bytes) : Except WireError RawEnvelope :=
  if bytes.length > maxEnvelopeBytes then
    .error (.tooLarge "envelope" bytes.length maxEnvelopeBytes)
  else RawEnvelope.reader.decode bytes

def decode (bytes : Bytes) : Except WireError Envelope := do
  let raw ← decodeRaw bytes
  ofRaw nfc raw

variable {nfc}

theorem encode_eq_ok {env : Envelope} : env.encode nfc = .ok bytes ↔
      ∃ payload, env.payload.encode nfc = .ok payload ∧
        (env.raw payload).bytes.length ≤ maxEnvelopeBytes ∧
        bytes = (env.raw payload).bytes := by
  unfold encode
  cases encoded : env.payload.encode nfc with
  | error failure => simp [bind, Except.bind]
  | ok payload =>
    simp only [bind, Except.bind, Except.ok.injEq, exists_eq_left']
    split
    · rename_i large
      simp only [throw, throwThe, MonadExceptOf.throw, reduceCtorEq, false_iff, not_and]
      intro small
      omega
    · rename_i small
      simp only [pure, Except.pure, Except.ok.injEq]
      constructor
      · rintro rfl
        exact ⟨by omega, rfl⟩
      · rintro ⟨-, rfl⟩
        rfl

theorem length_payload_lt (raw : RawEnvelope) : raw.payload.length < raw.bytes.length := by
  unfold RawEnvelope.bytes
  simp only [List.length_cons, List.length_append, length_lp]
  omega

/-- Whether a payload fits an envelope does not depend on its header. -/
def Encodable (nfc : String → String) (payload : Payload) (refId : Option MsgId) : Prop :=
  ∃ bytes, payload.encode nfc = .ok bytes ∧
    37 + (RawEnvelope.refBytes refId).length + bytes.length ≤ maxEnvelopeBytes

theorem length_bytes (raw : RawEnvelope) : raw.bytes.length =
      37 + (RawEnvelope.refBytes raw.refId).length + raw.payload.length := by
  unfold RawEnvelope.bytes
  simp only [List.length_cons, List.length_append, length_lp, length_u64be,
    List.Vector.toList_length]
  omega

theorem encodable_iff (env : Envelope) :
    Encodable nfc env.payload env.refId ↔ ∃ bytes, env.encode nfc = .ok bytes := by
  simp only [encode_eq_ok]
  constructor
  · rintro ⟨payload, encoded, fits⟩
    exact ⟨_, payload, encoded, (length_bytes _).trans_le fits, rfl⟩
  · rintro ⟨_, payload, encoded, fits, rfl⟩
    exact ⟨payload, encoded, (length_bytes (env.raw payload)).symm.trans_le fits⟩

theorem length_le_of_encode {env : Envelope} (encoded : env.encode nfc = .ok bytes) :
    bytes.length ≤ maxEnvelopeBytes := by
  obtain ⟨payload, -, fits, rfl⟩ := encode_eq_ok.mp encoded
  exact fits

theorem decodeRaw_bytes {raw : RawEnvelope} (bounded : raw.bytes.length ≤ maxEnvelopeBytes) :
    decodeRaw raw.bytes = .ok raw := by
  unfold decodeRaw
  rw [if_neg (by omega)]
  have := length_payload_lt raw
  exact Reader.decode_eq (RawEnvelope.run_reader (by omega))

theorem decode_of_encode {env : Envelope} (encoded : env.encode nfc = .ok bytes)
    (readsBack : ∀ payload, env.payload.encode nfc = .ok payload →
      Payload.decode nfc env.envelopeType payload = .ok env.payload) :
    decode nfc bytes = .ok env := by
  obtain ⟨payload, payloadEncoded, bounded, rfl⟩ := encode_eq_ok.mp encoded
  unfold decode
  rw [decodeRaw_bytes bounded]
  show ofRaw nfc (env.raw payload) = _
  unfold ofRaw
  have code : EnvelopeType.fromCode (env.raw payload).code =
      some env.envelopeType := EnvelopeType.fromCode_code _
  rw [code]
  show (Payload.decode nfc env.envelopeType payload >>= _) = _
  rw [readsBack payload payloadEncoded]
  rfl

theorem ofRaw_eq_ok {raw : RawEnvelope} {env : Envelope} (formed : ofRaw nfc raw = .ok env) :
    ∃ t payload, EnvelopeType.fromCode raw.code = some t ∧
      Payload.decode nfc t raw.payload = .ok payload ∧
      env = ⟨raw.msgId, raw.appSeq, raw.sentAt, raw.refId, payload⟩ := by
  unfold ofRaw at formed
  split at formed
  · cases formed
  · rename_i t typed
    obtain ⟨payload, read, ⟨⟩⟩ := bind_eq_ok.mp formed
    exact ⟨t, payload, typed, read, rfl⟩

theorem decode_eq_ok {env : Envelope} {bytes : Bytes} : decode nfc bytes = .ok env ↔
      ∃ raw, decodeRaw bytes = .ok raw ∧ ofRaw nfc raw = .ok env :=
  bind_eq_ok

end Envelope

end SChatCore.Wire
