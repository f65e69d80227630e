import SChatCore.Pairing.Codec
import SChatCore.Transport.Onion

namespace SChatCore.Pairing

open Wire Transport

/-! The signed invitation: a pre-key bundle, the onion address, the client-auth
key, a nonce and an expiry. -/

def qrLabel : Bytes := asBytes "SPAIR7"

def qrVersion : UInt8 := 1

def maxField : Nat := 4096

def maxQrPayloadBytes : Nat := 8192

structure PairingPayload where
  identityKey : Bytes
  registrationId : UInt32
  preKey : Option (UInt32 × Bytes)
  signedPreKeyId : UInt32
  signedPreKeyPublic : Bytes
  signedPreKeySignature : Bytes
  kyberPreKeyId : UInt32
  kyberPreKeyPublic : Bytes
  kyberPreKeySignature : Bytes
  onion : OnionRaw
  clientAuthPublic : Array32
  nonce : Array32
  expiresAt : UInt64
  signature : Bytes
  deriving DecidableEq

def preKeyBytes : Option (UInt32 × Bytes) → Bytes
  | some (id, key) => [1] ++ u32be id ++ lp key
  | none => [0]

def readPreKey : Reader (Option (UInt32 × Bytes)) := do
  let flag ← Reader.u8
  if flag = 0 then return none
  else if flag = 1 then do
    let id ← Reader.u32be
    let key ← Reader.lp 64
    return some (id, key)
  else throw (.invalid s!"has_prekey {flag}")

namespace PairingPayload

def signedBody (payload : PairingPayload) : Bytes :=
  qrLabel ++ [qrVersion] ++
  lp payload.identityKey ++ u32be payload.registrationId ++
  preKeyBytes payload.preKey ++
  u32be payload.signedPreKeyId ++ lp payload.signedPreKeyPublic ++
  lp payload.signedPreKeySignature ++
  u32be payload.kyberPreKeyId ++ lp payload.kyberPreKeyPublic ++
  lp payload.kyberPreKeySignature ++
  lp payload.onion.toList ++ lp payload.clientAuthPublic.toList ++
  lp payload.nonce.toList ++ u64be payload.expiresAt

def encode (payload : PairingPayload) : Bytes := payload.signedBody ++ lp payload.signature

def readBody : Reader PairingPayload := do
  let label ← Reader.take qrLabel.length
  Reader.expect (label = qrLabel) "label mismatch"
  let version ← Reader.u8
  Reader.expect (version = qrVersion) "unsupported version"
  let identityKey ← Reader.lp 64
  let registrationId ← Reader.u32be
  let preKey ← readPreKey
  let signedPreKeyId ← Reader.u32be
  let signedPreKeyPublic ← Reader.lp 64
  let signedPreKeySignature ← Reader.lp 64
  let kyberPreKeyId ← Reader.u32be
  let kyberPreKeyPublic ← Reader.lp maxField
  let kyberPreKeySignature ← Reader.lp 64
  let onion ← Reader.array onionRawBytes "onion length"
  let clientAuthPublic ← Reader.array 32 "client auth length"
  let nonce ← Reader.array 32 "nonce length"
  let expiresAt ← Reader.u64be
  return {
    identityKey, registrationId, preKey, signedPreKeyId, signedPreKeyPublic
    signedPreKeySignature, kyberPreKeyId, kyberPreKeyPublic
    kyberPreKeySignature, onion, clientAuthPublic, nonce, expiresAt
    signature := [] }

def read : Reader PairingPayload := do
  let payload ← readBody
  let signature ← Reader.lp 64
  return { payload with signature }

def decode (bytes : Bytes) : Except PairingError PairingPayload :=
  if bytes.length > maxQrPayloadBytes then
    let size := bytes.length
    .error (.invalid s!"payload too large: {size} > {maxQrPayloadBytes}")
  else
    match read.run bytes with
    | .error error => .error error
    | .ok (payload, rest) =>
      if rest ≠ [] then .error (.invalid "trailing bytes")
      else .ok payload

end PairingPayload

theorem consumes_readPreKey :
    Consumes readPreKey fun preKey front => front = preKeyBytes preKey := by
  refine .bind .u8 fun flag front written => ?_
  split
  · rename_i absent
    refine .pure ?_
    rw [written, absent, List.append_nil]
    rfl
  · split
    · rename_i present
      refine .bind .u32be fun id front' id' => ?_
      refine .bind (.lp 64) fun key front'' key' => .pure ?_
      rw [written, id', key', present, List.append_nil]
      rfl
    · exact .throw _

namespace PairingPayload

theorem consumes_readBody : Consumes readBody fun payload front =>
      front = payload.signedBody ∧ payload.signature = [] := by
  refine .bind (.take _) fun label front written => ?_
  obtain ⟨rfl, -⟩ := written
  refine .bind (.expect _ _) fun _ front labelled => ?_
  obtain ⟨rfl, labelled⟩ := labelled
  obtain rfl := of_decide_eq_true labelled
  refine .bind .u8 fun version front written => ?_
  subst written
  refine .bind (.expect _ _) fun _ front supported => ?_
  obtain ⟨rfl, supported⟩ := supported
  obtain rfl := of_decide_eq_true supported
  refine .bind (.lp 64) fun identityKey front written => ?_
  subst written
  refine .bind .u32be fun registrationId front written => ?_
  subst written
  refine .bind consumes_readPreKey fun preKey front written => ?_
  subst written
  refine .bind .u32be fun signedPreKeyId front written => ?_
  subst written
  refine .bind (.lp 64) fun signedPreKeyPublic front written => ?_
  subst written
  refine .bind (.lp 64) fun signedPreKeySignature front written => ?_
  subst written
  refine .bind .u32be fun kyberPreKeyId front written => ?_
  subst written
  refine .bind (.lp maxField) fun kyberPreKeyPublic front written => ?_
  subst written
  refine .bind (.lp 64) fun kyberPreKeySignature front written => ?_
  subst written
  refine .bind (.array _ _) fun onion front written => ?_
  subst written
  refine .bind (.array _ _) fun clientAuthPublic front written => ?_
  subst written
  refine .bind (.array _ _) fun nonce front written => ?_
  subst written
  refine .bind .u64be fun expiresAt front written => ?_
  subst written
  refine .pure ⟨?_, rfl⟩
  simp only [signedBody, List.append_assoc, List.append_nil, List.nil_append]

theorem consumes_read : Consumes read fun payload front => front = payload.encode ∧
      Reads readBody payload.signedBody { payload with signature := [] } := by
  refine .bind consumes_readBody.reads fun body front written => ?_
  obtain ⟨reads, rfl, unsigned⟩ := written
  refine .bind (.lp 64) fun signature front written => .pure ?_
  have bare : body = { body with signature := [] } := by rw [← unsigned]
  rw [bare] at reads
  exact ⟨by rw [written, List.append_nil]; rfl, reads⟩

theorem decode_eq_ok {bytes : Bytes} {payload : PairingPayload}
    (decoded : decode bytes = .ok payload) :
    bytes = payload.encode ∧
      Reads readBody payload.signedBody { payload with signature := [] } := by
  unfold decode at decoded
  split at decoded
  · cases decoded
  · split at decoded
    · cases decoded
    · rename_i found rest ran
      split at decoded
      · cases decoded
      · rename_i ended
        cases decoded
        obtain rfl := not_not.mp ended
        obtain ⟨front, split, -, written, reads⟩ := consumes_read _ _ _ ran
        rw [List.append_nil] at split
        exact ⟨split.trans written, reads⟩

theorem eq_of_signedBody_eq {first second : PairingPayload}
    (reads : Reads readBody first.signedBody { first with signature := [] })
    (reads' : Reads readBody second.signedBody { second with signature := [] })
    (same : second.signedBody = first.signedBody) :
    { second with signature := first.signature } = first := by
  have once := reads []
  rw [← same, reads' []] at once
  have unsigned : { second with signature := [] } = { first with signature := [] } :=
    (Prod.mk.inj (Except.ok.inj once)).1
  exact congrArg (fun payload : PairingPayload =>
    { payload with signature := first.signature }) unsigned

structure WellSized (payload : PairingPayload) : Prop where
  identityKey : payload.identityKey ≠ [] ∧ payload.identityKey.length ≤ 64
  preKey : ∀ key ∈ payload.preKey, key.2 ≠ [] ∧ key.2.length ≤ 64
  signedPreKeyPublic : payload.signedPreKeyPublic ≠ [] ∧ payload.signedPreKeyPublic.length ≤ 64
  signedPreKeySignature : payload.signedPreKeySignature ≠ [] ∧
    payload.signedPreKeySignature.length ≤ 64
  kyberPreKeyPublic : payload.kyberPreKeyPublic ≠ [] ∧ payload.kyberPreKeyPublic.length ≤ maxField
  kyberPreKeySignature : payload.kyberPreKeySignature ≠ [] ∧
    payload.kyberPreKeySignature.length ≤ 64
  signature : payload.signature ≠ [] ∧ payload.signature.length ≤ 64

end PairingPayload

theorem length_lp (bytes : Bytes) : (lp bytes).length = 2 + bytes.length := by
  rw [lp, List.length_append, length_u16be]

theorem reads_preKey (sized : ∀ key ∈ preKey, key.2 ≠ [] ∧ key.2.length ≤ 64) :
    Reads readPreKey (preKeyBytes preKey) preKey := by
  cases preKey with
  | none => exact .bind (.u8 0) (.pure none)
  | some key =>
    obtain ⟨id, key⟩ := key
    obtain ⟨some, fits⟩ := sized (id, key) rfl
    rw [preKeyBytes, List.append_assoc, ← List.append_nil (lp key)]
    refine .bind (.u8 1) ?_
    rw [if_neg (by decide), if_pos rfl]
    exact .bind (.u32be id) (.bind (.lp (by decide) fits some) (.pure _))

namespace PairingPayload

theorem reads_signedBody {payload : PairingPayload} (sized : payload.WellSized) :
    Reads readBody payload.signedBody { payload with signature := [] } := by
  have field : ∀ {bytes : Bytes} {limit : Nat}, limit ≤ maxField →
      bytes ≠ [] ∧ bytes.length ≤ limit →
      Reads (Reader.lp limit) (lp bytes) bytes := fun small sized =>
    .lp (Nat.lt_of_le_of_lt small (by decide)) sized.2 sized.1
  have ends := List.append_nil (u64be payload.expiresAt)
  simp only [signedBody, List.append_assoc]
  rw [← ends]
  refine .bind (.take rfl) ?_
  rw [← List.nil_append ([qrVersion] ++ _)]
  refine .bind (.expect _ (decide_eq_true rfl)) (.bind (.u8 _) ?_)
  rw [← List.nil_append (lp payload.identityKey ++ _)]
  refine .bind (.expect _ (decide_eq_true rfl)) ?_
  refine .bind (field (by decide) sized.identityKey) ?_
  refine .bind (.u32be _) (.bind (reads_preKey sized.preKey) ?_)
  refine .bind (.u32be _) ?_
  refine .bind (field (by decide) sized.signedPreKeyPublic) ?_
  refine .bind (field (by decide) sized.signedPreKeySignature) ?_
  refine .bind (.u32be _) ?_
  refine .bind (field le_rfl sized.kyberPreKeyPublic) ?_
  refine .bind (field (by decide) sized.kyberPreKeySignature) ?_
  refine .bind (.array (by decide) (by decide) _ _) ?_
  refine .bind (.array (by decide) (by decide) _ _) ?_
  refine .bind (.array (by decide) (by decide) _ _) ?_
  exact .bind (.u64be _) (.pure _)

theorem length_preKeyBytes_le {preKey : Option (UInt32 × Bytes)}
    (sized : ∀ key ∈ preKey, key.2 ≠ [] ∧ key.2.length ≤ 64) :
    (preKeyBytes preKey).length ≤ 71 := by
  cases preKey with
  | none => decide
  | some key =>
    have fits := (sized key rfl).2
    simp only [preKeyBytes, List.length_append, length_u32be, length_lp, List.length_singleton]
    omega

theorem length_encode_le {payload : PairingPayload} (sized : payload.WellSized) :
    payload.encode.length ≤ maxQrPayloadBytes := by
  have label : qrLabel.length = 6 := by decide +kernel
  have preKey := length_preKeyBytes_le sized.preKey
  have identity := sized.identityKey.2
  have signedKey := sized.signedPreKeyPublic.2
  have signedSignature := sized.signedPreKeySignature.2
  have kyberKey := sized.kyberPreKeyPublic.2
  have kyberSignature := sized.kyberPreKeySignature.2
  have signature := sized.signature.2
  simp only [encode, signedBody, List.length_append, length_lp, length_u32be,
    length_u64be, List.length_singleton, List.Vector.toList_length, label]
  simp only [maxField, onionRawBytes, maxQrPayloadBytes] at *
  omega

theorem decode_encode {payload : PairingPayload} (sized : payload.WellSized) :
    decode payload.encode = .ok payload := by
  have reads : Reads read payload.encode payload := by
    rw [encode, ← List.append_nil (lp payload.signature)]
    exact .bind (reads_signedBody sized)
      (.bind (.lp (by decide) sized.signature.2 sized.signature.1) (.pure _))
  have ran := reads []
  rw [List.append_nil] at ran
  rw [decode, if_neg (not_lt.mpr (length_encode_le sized)), ran]
  rfl

/-- An accepted payload has one byte form, split where the signature starts. -/
theorem encode_of_decode {bytes : Bytes} {payload : PairingPayload}
    (decoded : decode bytes = .ok payload) :
    payload.encode = bytes ∧ bytes = payload.signedBody ++ lp payload.signature ∧
      readBody.run bytes = .ok ({ payload with signature := [] }, lp payload.signature) ∧
      (∀ other, decode other = .ok payload → other = bytes) ∧
      ∀ other found, decode other = .ok found → found.signedBody = payload.signedBody →
        { found with signature := payload.signature } = payload := by
  obtain ⟨rfl, reads⟩ := decode_eq_ok decoded
  refine ⟨rfl, rfl, reads _, ?_, ?_⟩
  · intro other again
    exact (decode_eq_ok again).1
  · intro other found again same
    exact eq_of_signedBody_eq reads (decode_eq_ok again).2 same

/-- Nothing in it is longer than it has to be. -/
def shortest : PairingPayload where
  identityKey := [5]
  registrationId := 1
  preKey := none
  signedPreKeyId := 1
  signedPreKeyPublic := [5]
  signedPreKeySignature := [0]
  kyberPreKeyId := 1
  kyberPreKeyPublic := [8]
  kyberPreKeySignature := [0]
  onion := List.Vector.replicate onionRawBytes 0
  clientAuthPublic := List.Vector.replicate 32 0
  nonce := List.Vector.replicate 32 0
  expiresAt := 300
  signature := [0]

theorem wellSized_shortest : shortest.WellSized := by
  constructor <;> simp [shortest, maxField]

def keyed : PairingPayload := { shortest with preKey := some (1, [5]) }

theorem encode_of_decode_shortest : [shortest, keyed].Forall fun payload =>
    ∃ bytes, decode bytes = .ok payload ∧ bytes = payload.signedBody ++ lp payload.signature ∧
      ∀ other, decode other = .ok payload → other = bytes := by
  refine List.forall_iff_forall_mem.mpr fun payload listed => ?_
  have sized : payload.WellSized := by
    simp only [List.mem_cons, List.not_mem_nil, or_false] at listed
    rcases listed with rfl | rfl
    · exact wellSized_shortest
    · constructor <;> simp [keyed, shortest, maxField]
  have decoded := decode_encode sized
  obtain ⟨-, parts, -, unique, -⟩ := encode_of_decode decoded
  exact ⟨payload.encode, decoded, parts, unique⟩

end PairingPayload

end SChatCore.Pairing
