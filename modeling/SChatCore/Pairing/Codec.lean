import SChatCore.Wire.Bin

namespace SChatCore.Pairing

open Data.Stream Wire

/-! The hand-rolled codec of pairing payloads: fixed-width integers and byte
strings behind a two-byte length. -/

inductive PairingError
  | invalid (detail : String)
  | expired
  | badSignature
  deriving DecidableEq

def lp (bytes : Bytes) : Bytes := u16be (UInt16.ofNat bytes.length) ++ bytes

abbrev Reader := StateT Bytes (Except PairingError)

namespace Reader

def take (n : Nat) : Reader Bytes := fun rest =>
  if rest.length < n then .error (.invalid "truncated")
  else .ok (rest.take n, rest.drop n)

def u8 : Reader UInt8 := fun rest =>
  match rest with
  | [] => .error (.invalid "truncated")
  | byte :: rest => .ok (byte, rest)

def u16be : Reader UInt16 := do
  return UInt16.ofNat (fromBeBytes (← take 2))

def u32be : Reader UInt32 := do
  return UInt32.ofNat (fromBeBytes (← take 4))

def u64be : Reader UInt64 := do
  return UInt64.ofNat (fromBeBytes (← take 8))

def lp (limit : Nat) : Reader Bytes := do
  let prefixed ← u16be
  let len := prefixed.toNat
  if len = 0 ∨ len > limit then
    throw (.invalid s!"lp length {len} out of range")
  else take len

def ofLength (bytes : Bytes) (length : bytes.length = n) : List.Vector UInt8 n := ⟨bytes, length⟩

def array (n : Nat) (detail : String) : Reader (List.Vector UInt8 n) := do
  let bytes ← lp n
  if length : bytes.length = n then return ofLength bytes length
  else throw (.invalid detail)

def expect (holds : Bool) (detail : String) : Reader Unit :=
  if holds then pure () else throw (.invalid detail)

end Reader

/-! What a reader took is what the writer puts there, whatever follows. -/

/-- In front of anything else, `front` is read as `value`. -/
def Reads (reader : Reader α) (front : Bytes) (value : α) : Prop :=
  ∀ more, reader.run (front ++ more) = .ok (value, more)

namespace Reads

theorem pure (value : α) : Reads (Pure.pure value) [] value := fun _ => rfl

theorem bind (first : Reads reader front value) (then' : Reads (next value) rest result) :
    Reads (reader >>= next) (front ++ rest) result := by
  intro more
  rw [List.append_assoc, run_bind, first]
  exact then' more

theorem map (f : α → β) (reads : Reads reader front value) :
    Reads (reader >>= fun value => Pure.pure (f value)) front (f value) := by
  rw [← List.append_nil front]
  exact bind reads (pure (f value))

theorem expect (detail : String) (held : holds = true) :
    Reads (Reader.expect holds detail) [] () := by
  subst held
  exact pure ()

theorem take (length : front.length = n) : Reads (Reader.take n) front front := by
  intro more
  have full : ¬ (front ++ more).length < n := by
    rw [List.length_append]
    omega
  simp only [Reader.take, StateT.run]
  rw [if_neg full, List.take_left' length, List.drop_left' length]

theorem u8 (byte : UInt8) : Reads Reader.u8 [byte] byte := fun _ => rfl

theorem u16be (value : UInt16) : Reads Reader.u16be (Wire.u16be value) value := by
  have read := map (fun bytes => UInt16.ofNat (fromBeBytes bytes)) (take (length_u16be value))
  rwa [ofNat_u16be] at read

theorem u32be (value : UInt32) : Reads Reader.u32be (Wire.u32be value) value := by
  have read := map (fun bytes => UInt32.ofNat (fromBeBytes bytes)) (take (length_u32be value))
  rwa [ofNat_u32be] at read

theorem u64be (value : UInt64) : Reads Reader.u64be (Wire.u64be value) value := by
  have read := map (fun bytes => UInt64.ofNat (fromBeBytes bytes)) (take (length_u64be value))
  rwa [ofNat_u64be] at read

theorem lp (small : limit < 65536) (fits : bytes.length ≤ limit)
    (some : bytes ≠ []) : Reads (Reader.lp limit) (Pairing.lp bytes) bytes := by
  have len : (UInt16.ofNat bytes.length).toNat = bytes.length :=
    UInt16.toNat_ofNat_of_lt' (Nat.lt_of_le_of_lt fits small)
  have positive := List.length_pos_of_ne_nil some
  refine bind (u16be _) ?_
  simp only [len]
  rw [if_neg (by omega)]
  exact take rfl

theorem array (small : n < 65536) (positive : 0 < n) (detail : String)
    (bytes : List.Vector UInt8 n) :
    Reads (Reader.array n detail) (Pairing.lp bytes.toList) bytes := by
  have length : bytes.toList.length = n := bytes.toList_length
  have some : bytes.toList ≠ [] := List.ne_nil_of_length_pos (length.symm ▸ positive)
  rw [← List.append_nil (Pairing.lp bytes.toList)]
  refine bind (lp small length.le some) ?_
  rw [dif_pos length]
  exact pure bytes

end Reads

/-- What a reader took off the bytes it would take again, and `post` holds of
the value and what was taken. -/
def Consumes (reader : Reader α) (post : α → Bytes → Prop) : Prop :=
  ∀ bytes value rest, reader.run bytes = .ok (value, rest) →
    ∃ front, bytes = front ++ rest ∧ Reads reader front value ∧ post value front

namespace Consumes

theorem pure (holds : post value []) : Consumes (Pure.pure value) post := by
  intro bytes result rest ran
  cases ran
  exact ⟨[], rfl, .pure _, holds⟩

theorem throw (error : PairingError) : Consumes (throw error : Reader β) post := by
  intro bytes result rest ran
  cases ran

theorem expect (holds : Bool) (detail : String) :
    Consumes (Reader.expect holds detail) fun _ front =>
      front = [] ∧ holds = true := by
  cases holds with
  | false => exact throw _
  | true => exact pure ⟨rfl, rfl⟩

theorem bind (first : Consumes reader mid) (then' : ∀ value front, mid value front →
      Consumes (next value) fun result more => post result (front ++ more)) :
    Consumes (reader >>= next) post := by
  intro bytes result rest ran
  obtain ⟨value, middle, step, later⟩ := run_bind_ok_iff.mp ran
  obtain ⟨front, rfl, again, holds⟩ := first bytes _ _ step
  obtain ⟨more, split, again', holds'⟩ := then' value front holds middle result rest later
  exact ⟨front ++ more, by rw [split, List.append_assoc], again.bind again', holds'⟩

theorem mono (consumes : Consumes reader post)
    (weakens : ∀ value front, post value front → weaker value front) :
    Consumes reader weaker := by
  intro bytes value rest ran
  obtain ⟨front, split, again, holds⟩ := consumes bytes value rest ran
  exact ⟨front, split, again, weakens value front holds⟩

theorem reads (consumes : Consumes reader post) :
    Consumes reader fun value front => Reads reader front value ∧
      post value front := by
  intro bytes value rest ran
  obtain ⟨front, split, again, holds⟩ := consumes bytes value rest ran
  exact ⟨front, split, again, again, holds⟩

theorem take (n : Nat) : Consumes (Reader.take n) fun bytes front =>
      front = bytes ∧ bytes.length = n := by
  intro bytes value rest ran
  simp only [Reader.take, StateT.run] at ran
  split at ran
  · cases ran
  · rename_i enough
    cases ran
    have length : (bytes.take n).length = n := by
      rw [List.length_take]
      omega
    exact ⟨bytes.take n, (List.take_append_drop n bytes).symm, .take length, rfl, length⟩

theorem u8 : Consumes Reader.u8 fun byte front => front = [byte] := by
  intro bytes value rest ran
  cases bytes with
  | nil => cases ran
  | cons byte tail =>
    cases ran
    exact ⟨[value], rfl, .u8 value, rfl⟩

theorem u16be : Consumes Reader.u16be fun value front => front = Wire.u16be value := by
  refine bind (take 2) fun bytes front taken => pure ?_
  obtain ⟨rfl, length⟩ := taken
  rw [List.append_nil, u16be_ofNat length]

theorem u32be : Consumes Reader.u32be fun value front => front = Wire.u32be value := by
  refine bind (take 4) fun bytes front taken => pure ?_
  obtain ⟨rfl, length⟩ := taken
  rw [List.append_nil, u32be_ofNat length]

theorem u64be : Consumes Reader.u64be fun value front => front = Wire.u64be value := by
  refine bind (take 8) fun bytes front taken => pure ?_
  obtain ⟨rfl, length⟩ := taken
  rw [List.append_nil, u64be_ofNat length]

theorem lp (limit : Nat) :
    Consumes (Reader.lp limit) fun bytes front => front = Pairing.lp bytes := by
  refine bind u16be fun prefixed front written => ?_
  simp only
  split
  · exact throw _
  · refine mono (take _) fun bytes more taken => ?_
    obtain ⟨rfl, length⟩ := taken
    rw [written, Pairing.lp, length, UInt16.ofNat_toNat]

theorem array (n : Nat) (detail : String) : Consumes (Reader.array n detail) fun bytes front =>
      front = Pairing.lp bytes.toList := by
  refine bind (lp n) fun bytes front written => ?_
  by_cases length : bytes.length = n
  · rw [dif_pos length]
    exact pure (by rw [List.append_nil, written]; rfl)
  · rw [dif_neg length]
    exact throw _

end Consumes

end SChatCore.Pairing
