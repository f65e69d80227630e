import SChatCore.Wire.Bin

namespace SChatCore.Wire

/-! The outer record: version, length, payload and padding up to a bucket. -/

def recordBuckets : List Nat := [256, 512, 1024, 4096, 16384, 32768]

def maxRecordBytes : Nat := 32768

def recordHeaderBytes : Nat := 3

def bucketFor (payloadLen : Nat) : Option Nat :=
  recordBuckets.find? fun bucket => recordHeaderBytes + payloadLen ≤ bucket

/-- `padding` is the generator's output; the record takes as much of it as the
bucket leaves. -/
def buildRecord (padding : Nat → UInt8) (payload : Bytes) :
    Except WireError Bytes :=
  match bucketFor payload.length with
  | none => .error (.tooLarge "record" payload.length
      (maxRecordBytes - recordHeaderBytes))
  | some bucket =>
    .ok (2 :: u16be (UInt16.ofNat payload.length) ++ payload ++
      (List.range (bucket - (recordHeaderBytes + payload.length))).map padding)

def isBucket (len : Nat) : Bool := recordBuckets.contains len

def parseRecord (record : Bytes) : Except WireError Bytes :=
  if record.head? ≠ some 2 then
    .error (.badVersion "record" (record.head?.getD 0))
  else if ¬ isBucket record.length then
    .error (.badLength "record" record.length maxRecordBytes)
  else
    let len := fromBeBytes ((record.drop 1).take 2)
    if recordHeaderBytes + len > record.length then
      .error (.badLength "record.payload" len (record.length - recordHeaderBytes))
    else .ok ((record.drop recordHeaderBytes).take len)

theorem bucketFor_isSome : (bucketFor payloadLen).isSome ↔
      recordHeaderBytes + payloadLen ≤ maxRecordBytes := by
  unfold bucketFor
  rw [List.find?_isSome]
  constructor
  · rintro ⟨bucket, mem, fits⟩
    have bound : ∀ bucket ∈ recordBuckets, bucket ≤ maxRecordBytes := by decide
    exact le_trans (by simpa using fits) (bound bucket mem)
  · intro fits
    exact ⟨maxRecordBytes, by decide, by simpa using fits⟩

theorem buildRecord_isOk {padding : Nat → UInt8} {payload : Bytes}
    (fits : recordHeaderBytes + payload.length ≤ maxRecordBytes) :
    ∃ record, buildRecord padding payload = .ok record := by
  obtain ⟨bucket, found⟩ := Option.isSome_iff_exists.mp (bucketFor_isSome.mpr fits)
  unfold buildRecord
  rw [found]
  exact ⟨_, rfl⟩

theorem short_of_buildRecord (built : buildRecord padding payload = .ok record) :
    recordHeaderBytes + payload.length ≤ maxRecordBytes := by
  unfold buildRecord at built
  split at built
  · cases built
  · rename_i found
    exact bucketFor_isSome.mp (Option.isSome_of_eq_some found)

theorem parseRecord_of_buildRecord (built : buildRecord padding payload = .ok record) :
    parseRecord record = .ok payload := by
  unfold buildRecord at built
  split at built
  · cases built
  · rename_i bucket found
    cases built
    have bucketed := List.mem_of_find?_eq_some found
    have fits : recordHeaderBytes + payload.length ≤ bucket := by simpa using List.find?_some found
    have bound : ∀ bucket ∈ recordBuckets, bucket ≤ maxRecordBytes := by decide
    have small : payload.length < 65536 := by
      have := bound bucket bucketed
      unfold recordHeaderBytes maxRecordBytes at *
      omega
    generalize header : u16be (UInt16.ofNat payload.length) = length
    have two : length.length = 2 := header ▸ length_u16be _
    have value : fromBeBytes length = payload.length := by
      rw [← header, u16be, fromBeBytes_toBeBytes]
      simp [Nat.mod_eq_of_lt small]
    generalize padded : (List.range (bucket - (recordHeaderBytes +
      payload.length))).map padding = tail
    have rest : tail.length = bucket - (recordHeaderBytes + payload.length) := by
      rw [← padded]
      simp
    have total : (2 :: length ++ payload ++ tail).length = bucket := by
      simp only [List.length_append, List.length_cons, two, rest]
      unfold recordHeaderBytes at *
      omega
    have prefixed : ((2 :: length ++ payload ++ tail).drop 1).take 2 =
        length := by
      simp [two]
    have body : (2 :: length ++ payload ++ tail).drop recordHeaderBytes = payload ++ tail := by
      unfold recordHeaderBytes
      simp [two]
    unfold parseRecord
    rw [if_neg (by simp), total, if_neg (by simpa [isBucket] using bucketed)]
    simp only [prefixed, value, body]
    rw [if_neg (Nat.not_lt.mpr fits)]
    simp

end SChatCore.Wire
