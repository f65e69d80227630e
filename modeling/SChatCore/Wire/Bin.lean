import SChatCore.Data.Stream
import Mathlib.Data.Vector.Basic
import Mathlib.Tactic.Ring

namespace SChatCore.Wire

abbrev Bytes := List UInt8

abbrev Array16 := List.Vector UInt8 16

abbrev Array32 := List.Vector UInt8 32

abbrev MsgId := Array16

inductive WireError
  | truncated (field : String)
  | badLength (field : String) (len max : Nat)
  | badVersion (field : String) (version : UInt8)
  | badField (field : String) (detail : String)
  | trailing (field : String) (extra : Nat)
  | tooLarge (field : String) (size max : Nat)
  | unknownType (code : UInt8) (msgId : MsgId) (appSeq : UInt64)
  deriving DecidableEq

/-! Strings travel as their UTF-8 bytes. -/

def asBytes (text : String) : Bytes := text.toByteArray.data.toList

def fromUtf8 (bytes : Bytes) : Option String := String.fromUTF8? ⟨bytes.toArray⟩

@[simp] theorem fromUtf8_asBytes (text : String) : fromUtf8 (asBytes text) = some text := by
  have bytes : (⟨(asBytes text).toArray⟩ : ByteArray) = text.toByteArray := rfl
  unfold fromUtf8 String.fromUTF8?
  rw [bytes, dif_pos text.isValidUTF8]
  rfl

theorem asBytes_of_fromUtf8 (decoded : fromUtf8 bytes = some text) : asBytes text = bytes := by
  unfold fromUtf8 String.fromUTF8? at decoded
  split at decoded
  · cases decoded
    rfl
  · cases decoded

def toBeBytes : Nat → Nat → Bytes
  | 0, _ => []
  | width + 1, value => UInt8.ofNat (value / 256 ^ width) :: toBeBytes width value

def fromBeBytes (bytes : Bytes) : Nat := bytes.foldl (fun value byte => value * 256 + byte.toNat) 0

@[simp] theorem length_toBeBytes (width value : Nat) : (toBeBytes width value).length = width := by
  induction width with
  | zero => rfl
  | succ width ih => simp [toBeBytes, ih]

/-- A digest to evaluate with: the bytes as digits, each of which counts. -/
def tally (bytes : Bytes) : Array32 :=
  ⟨toBeBytes 32 (bytes.foldl (fun sum byte =>
    (sum * 257 + byte.toNat + 1) % 256 ^ 32) 0), length_toBeBytes 32 _⟩

private theorem foldl_toBeBytes (width value start : Nat) : (toBeBytes width value).foldl
        (fun value byte => value * 256 + byte.toNat) start =
      start * 256 ^ width + value % 256 ^ width := by
  induction width generalizing start with
  | zero => simp [toBeBytes, Nat.mod_one]
  | succ width ih =>
    rw [toBeBytes, List.foldl_cons, ih]
    have high : (UInt8.ofNat (value / 256 ^ width)).toNat = value / 256 ^ width % 256 := by simp
    have split : value % 256 ^ (width + 1) =
        256 ^ width * (value / 256 ^ width % 256) + value % 256 ^ width := by
      rw [pow_succ, Nat.mod_mul]
      ring
    rw [high, split]
    ring

theorem fromBeBytes_toBeBytes (width value : Nat) :
    fromBeBytes (toBeBytes width value) = value % 256 ^ width := by
  rw [fromBeBytes, foldl_toBeBytes]
  simp

theorem toBeBytes_mul_add (width factor value : Nat) :
    toBeBytes width (factor * 256 ^ width + value) = toBeBytes width value := by
  induction width generalizing factor with
  | zero => rfl
  | succ width ih =>
    have split : factor * 256 ^ (width + 1) + value = factor * 256 * 256 ^ width + value := by ring
    have high : (factor * 256 * 256 ^ width + value) / 256 ^ width =
        factor * 256 + value / 256 ^ width := by
      rw [Nat.add_comm, Nat.add_mul_div_right _ _ (Nat.pow_pos (by decide)), Nat.add_comm]
    have byte : UInt8.ofNat (factor * 256 + value / 256 ^ width) =
        UInt8.ofNat (value / 256 ^ width) := by
      apply UInt8.toNat_inj.mp
      simp
    rw [toBeBytes, toBeBytes, split, high, byte, ih]

theorem fromBeBytes_cons (byte : UInt8) (rest : Bytes) : fromBeBytes (byte :: rest) =
      byte.toNat * 256 ^ rest.length + fromBeBytes rest := by
  have general : ∀ (rest : Bytes) (start : Nat),
      rest.foldl (fun value byte => value * 256 + byte.toNat) start =
        start * 256 ^ rest.length + fromBeBytes rest := by
    intro rest
    induction rest with
    | nil => simp [fromBeBytes]
    | cons byte rest ih =>
      intro start
      rw [fromBeBytes, List.foldl_cons, List.foldl_cons, ih,
        ih (0 * 256 + byte.toNat), List.length_cons]
      ring
  rw [fromBeBytes, List.foldl_cons, general]
  simp

theorem fromBeBytes_lt (bytes : Bytes) : fromBeBytes bytes < 256 ^ bytes.length := by
  induction bytes with
  | nil => decide
  | cons byte rest ih =>
    have bound : byte.toNat ≤ 255 := Nat.le_of_lt_succ byte.toNat_lt
    calc fromBeBytes (byte :: rest) = byte.toNat * 256 ^ rest.length + fromBeBytes rest :=
          fromBeBytes_cons byte rest
      _ < 255 * 256 ^ rest.length + 256 ^ rest.length :=
          Nat.add_lt_add_of_le_of_lt (Nat.mul_le_mul_right _ bound) ih
      _ = 256 ^ (byte :: rest).length := by rw [List.length_cons]; ring

theorem toBeBytes_fromBeBytes (bytes : Bytes) :
    toBeBytes bytes.length (fromBeBytes bytes) = bytes := by
  induction bytes with
  | nil => rfl
  | cons byte rest ih =>
    have high : (byte.toNat * 256 ^ rest.length + fromBeBytes rest) /
        256 ^ rest.length = byte.toNat := by
      rw [Nat.add_comm, Nat.add_mul_div_right _ _ (Nat.pow_pos (by decide)),
        Nat.div_eq_of_lt (fromBeBytes_lt rest), Nat.zero_add]
    rw [List.length_cons, toBeBytes, fromBeBytes_cons, high,
      UInt8.ofNat_toNat, toBeBytes_mul_add, ih]

def u16be (value : UInt16) : Bytes := toBeBytes 2 value.toNat

def u32be (value : UInt32) : Bytes := toBeBytes 4 value.toNat

def u64be (value : UInt64) : Bytes := toBeBytes 8 value.toNat

def lp (bytes : Bytes) : Bytes := u32be (UInt32.ofNat bytes.length) ++ bytes

@[simp] theorem length_u16be (value : UInt16) : (u16be value).length = 2 := length_toBeBytes 2 _

@[simp] theorem length_u32be (value : UInt32) : (u32be value).length = 4 := length_toBeBytes 4 _

@[simp] theorem length_u64be (value : UInt64) : (u64be value).length = 8 := length_toBeBytes 8 _

@[simp] theorem ofNat_u16be (value : UInt16) :
    UInt16.ofNat (fromBeBytes (u16be value)) = value := by
  rw [u16be, fromBeBytes_toBeBytes,
    Nat.mod_eq_of_lt (by simpa using value.toNat_lt), UInt16.ofNat_toNat]

theorem u16be_ofNat (length : bytes.length = 2) :
    u16be (UInt16.ofNat (fromBeBytes bytes)) = bytes := by
  have small : fromBeBytes bytes < 2 ^ 16 := by simpa [length] using fromBeBytes_lt bytes
  rw [u16be, UInt16.toNat_ofNat_of_lt' small, ← length, toBeBytes_fromBeBytes]

@[simp] theorem ofNat_u32be (value : UInt32) :
    UInt32.ofNat (fromBeBytes (u32be value)) = value := by
  rw [u32be, fromBeBytes_toBeBytes,
    Nat.mod_eq_of_lt (by simpa using value.toNat_lt), UInt32.ofNat_toNat]

theorem u32be_ofNat (length : bytes.length = 4) :
    u32be (UInt32.ofNat (fromBeBytes bytes)) = bytes := by
  have small : fromBeBytes bytes < 2 ^ 32 := by simpa [length] using fromBeBytes_lt bytes
  rw [u32be, UInt32.toNat_ofNat_of_lt' small, ← length, toBeBytes_fromBeBytes]

@[simp] theorem ofNat_u64be (value : UInt64) :
    UInt64.ofNat (fromBeBytes (u64be value)) = value := by
  rw [u64be, fromBeBytes_toBeBytes,
    Nat.mod_eq_of_lt (by simpa using value.toNat_lt), UInt64.ofNat_toNat]

theorem u64be_ofNat (length : bytes.length = 8) :
    u64be (UInt64.ofNat (fromBeBytes bytes)) = bytes := by
  have small : fromBeBytes bytes < 2 ^ 64 := by simpa [length] using fromBeBytes_lt bytes
  rw [u64be, UInt64.toNat_ofNat_of_lt' small, ← length, toBeBytes_fromBeBytes]

@[simp] theorem length_lp (bytes : Bytes) : (lp bytes).length = 4 + bytes.length := by
  simp [lp]

/-! The cursor reader. Its state is what remains of the buffer, so that
`remaining` is the length of the state. -/

theorem bind_eq_ok {result : Except WireError α} : (result >>= next) = .ok value ↔
      ∃ first, result = .ok first ∧ next first = .ok value := by
  cases result with
  | error error => simp [bind, Except.bind]
  | ok first => simp [bind, Except.bind]

abbrev Reader := StateT Bytes (Except WireError)

namespace Reader

def remaining : Reader Nat := fun rest => .ok (rest.length, rest)

def take (n : Nat) (field : String) : Reader Bytes := fun rest =>
  if rest.length < n then .error (.truncated field)
  else .ok (rest.take n, rest.drop n)

def takeArray (n : Nat) (field : String) : Reader (List.Vector UInt8 n) :=
  fun rest => if short : rest.length < n then .error (.truncated field)
    else .ok (⟨rest.take n, by simp; omega⟩, rest.drop n)

def u8 (field : String) : Reader UInt8 := fun rest =>
  match rest with
  | [] => .error (.truncated field)
  | byte :: rest => .ok (byte, rest)

def u16be (field : String) : Reader UInt16 := do
  return UInt16.ofNat (fromBeBytes (← take 2 field))

def u32be (field : String) : Reader UInt32 := do
  return UInt32.ofNat (fromBeBytes (← take 4 field))

def u64be (field : String) : Reader UInt64 := do
  return UInt64.ofNat (fromBeBytes (← take 8 field))

def lp (limit : Nat) (field : String) : Reader Bytes := do
  let len ← u32be field
  if len.toNat > limit then throw (.badLength field len.toNat limit)
  else take len.toNat field

def peekU32be (field : String) : Reader UInt32 := fun rest =>
  if rest.length < 4 then .error (.truncated field)
  else .ok (UInt32.ofNat (fromBeBytes (rest.take 4)), rest)

def expectEnd (field : String) : Reader Unit := fun rest =>
  if rest.length ≠ 0 then .error (.trailing field rest.length)
  else .ok ((), rest)

def decode (reader : Reader α) (bytes : Bytes) : Except WireError α := reader.run' bytes

open Data.Stream

/-! What a writer put in front, the matching reader takes back. -/

theorem run_take (length : front.length = n) (rest : Bytes) :
    (take n field).run (front ++ rest) = .ok (front, rest) := by
  subst length
  simp [take, StateT.run]

@[simp] theorem run_takeArray (front : List.Vector UInt8 n) (rest : Bytes) :
    (takeArray n field).run (front.toList ++ rest) = .ok (front, rest) := by
  obtain ⟨front, rfl⟩ := front
  simp [takeArray, StateT.run, List.Vector.toList]

@[simp] theorem run_u8 (byte : UInt8) (rest : Bytes) :
    (u8 field).run (byte :: rest) = .ok (byte, rest) := rfl

private theorem run_fixed (length : front.length = n) (rest : Bytes) (convert : Bytes → α) :
    (do return convert (← take n field) : Reader α).run (front ++ rest) =
      .ok (convert front, rest) := by
  rw [run_bind, run_take length]
  rfl

@[simp] theorem run_u16be (value : UInt16) (rest : Bytes) :
    (u16be field).run (Wire.u16be value ++ rest) = .ok (value, rest) := by
  unfold u16be
  rw [run_fixed (length_u16be value), ofNat_u16be]

@[simp] theorem run_u32be (value : UInt32) (rest : Bytes) :
    (u32be field).run (Wire.u32be value ++ rest) = .ok (value, rest) := by
  unfold u32be
  rw [run_fixed (length_u32be value), ofNat_u32be]

@[simp] theorem run_u64be (value : UInt64) (rest : Bytes) :
    (u64be field).run (Wire.u64be value ++ rest) = .ok (value, rest) := by
  unfold u64be
  rw [run_fixed (length_u64be value), ofNat_u64be]

theorem run_lp (bounded : bytes.length ≤ limit) (fits : limit < 2 ^ 32) (rest : Bytes) :
    (lp limit field).run (Wire.lp bytes ++ rest) = .ok (bytes, rest) := by
  have length : (UInt32.ofNat bytes.length).toNat = bytes.length :=
    UInt32.toNat_ofNat_of_lt' (by simpa using lt_of_le_of_lt bounded fits)
  unfold lp Wire.lp
  rw [List.append_assoc, run_bind, run_u32be]
  simp only [length]
  rw [if_neg (by omega), run_take rfl]

@[simp] theorem run_expectEnd : (expectEnd field).run [] = .ok ((), []) := rfl

theorem run_append_nil (reader : Reader α) (bytes : Bytes) :
    reader.run bytes = reader.run (bytes ++ []) := by
  rw [List.append_nil]

@[simp] theorem run_takeArray_end (bytes : List.Vector UInt8 n) :
    (takeArray n field).run bytes.toList = .ok (bytes, []) := by
  rw [run_append_nil, run_takeArray]

@[simp] theorem run_u16be_end (value : UInt16) :
    (u16be field).run (Wire.u16be value) = .ok (value, []) := by
  rw [run_append_nil, run_u16be]

@[simp] theorem run_u32be_end (value : UInt32) :
    (u32be field).run (Wire.u32be value) = .ok (value, []) := by
  rw [run_append_nil, run_u32be]

theorem run_take_end (bytes : Bytes) : (take bytes.length field).run bytes = .ok (bytes, []) := by
  rw [run_append_nil, run_take rfl]

theorem run_lp_end (bounded : bytes.length ≤ limit) (fits : limit < 2 ^ 32) :
    (lp limit field).run (Wire.lp bytes) = .ok (bytes, []) := by
  rw [run_append_nil, run_lp bounded fits]

@[simp] theorem run_remaining (bytes : Bytes) :
    remaining.run bytes = .ok (bytes.length, bytes) := rfl

theorem run_peekU32be (value : UInt32) (rest : Bytes) :
    (peekU32be field).run (Wire.u32be value ++ rest) = .ok (value, Wire.u32be value ++ rest) := by
  simp [peekU32be, StateT.run]

@[simp] theorem run_pure (value : α) (bytes : Bytes) :
    (pure value : Reader α).run bytes = .ok (value, bytes) := rfl

theorem run_lift {result : Except WireError α} (passed : result = .ok value) (bytes : Bytes) :
    (result : Reader α).run bytes = .ok (value, bytes) := by
  subst passed
  rfl

/-! What goes through begins with what the writer would have put there. -/

section

theorem bytes_of_take (ran : (take n field).run bytes = .ok (front, rest)) :
    front.length = n ∧ bytes = front ++ rest :=
  takeExact_ok_iff.mp ran

theorem bytes_of_takeArray (ran : (takeArray n field).run bytes = .ok (front, rest)) :
    bytes = front.toList ++ rest := by
  simp only [takeArray, StateT.run] at ran
  split at ran
  · cases ran
  · cases ran
    exact (List.take_append_drop n bytes).symm

theorem bytes_of_u8 (ran : (u8 field).run bytes = .ok (byte, rest)) : bytes = byte :: rest := by
  cases bytes with
  | nil => cases ran
  | cons first others =>
    cases ran
    rfl

theorem bytes_of_ofNat {ofNat : Nat → α} {write : α → Bytes}
    (inverts : ∀ {front : Bytes}, front.length = n → write (ofNat (fromBeBytes front)) = front)
    (read : (take n field >>= fun front => pure (ofNat (fromBeBytes front)) : Reader α).run bytes =
      .ok (value, rest)) : bytes = write value ++ rest := by
  obtain ⟨front, _, taken, ran⟩ := run_bind_ok_iff.mp read
  obtain ⟨length, rfl⟩ := bytes_of_take taken
  cases ran
  rw [inverts length]

theorem bytes_of_u16be (read : (u16be field).run bytes = .ok (value, rest)) :
    bytes = Wire.u16be value ++ rest := bytes_of_ofNat u16be_ofNat read

theorem bytes_of_u32be (read : (u32be field).run bytes = .ok (value, rest)) :
    bytes = Wire.u32be value ++ rest := bytes_of_ofNat u32be_ofNat read

theorem bytes_of_u64be (read : (u64be field).run bytes = .ok (value, rest)) :
    bytes = Wire.u64be value ++ rest := bytes_of_ofNat u64be_ofNat read

theorem bytes_of_lp (read : (lp limit field).run bytes = .ok (front, rest)) :
    front.length ≤ limit ∧ bytes = Wire.lp front ++ rest := by
  obtain ⟨length, _, taken, ran⟩ := run_bind_ok_iff.mp read
  split at ran
  · cases ran
  rename_i bounded
  obtain ⟨same, rfl⟩ := bytes_of_take ran
  obtain rfl := bytes_of_u32be taken
  rw [Wire.lp, same, UInt32.ofNat_toNat, List.append_assoc]
  exact ⟨Nat.not_lt.mp bounded, rfl⟩

theorem ok_of_lift {result : Except WireError α}
    (ran : (result : Reader α).run bytes = .ok (value, rest)) :
    result = .ok value ∧ bytes = rest := by
  cases result with
  | error error => cases ran
  | ok value =>
    cases ran
    exact ⟨rfl, rfl⟩

theorem bytes_of_expectEnd (ran : (expectEnd field).run bytes = .ok (value, rest)) :
    rest = [] ∧ bytes = rest := by
  simp only [expectEnd, StateT.run] at ran
  split at ran
  · cases ran
  · rename_i empty
    cases ran
    exact ⟨List.length_eq_zero_iff.mp (not_not.mp empty), rfl⟩

theorem run_of_decode {reader : Reader α} (decoded : reader.decode bytes = .ok value) :
    ∃ rest, reader.run bytes = .ok (value, rest) := by
  unfold decode StateT.run' at decoded
  cases ran : reader bytes with
  | error error =>
    rw [ran] at decoded
    cases decoded
  | ok outcome =>
    rw [ran] at decoded
    cases decoded
    exact ⟨outcome.2, ran⟩

theorem needs_take (length : front.length = n) : Needs (take n field) front front :=
  .takeExact length

theorem needs_u8 (byte : UInt8) : Needs (u8 field) [byte] byte where
  enough _ := rfl
  short size inside := by
    rw [Nat.lt_one_iff.mp inside]
    exact ⟨_, rfl⟩

private theorem needs_fixed {convert : Bytes → α} (length : front.length = n)
    (same : convert front = value) :
    Needs (do return convert (← take n field) : Reader α) front value := by
  rw [← List.append_nil front, ← same]
  exact (needs_take length).bind (.pure (convert front))

theorem needs_u16be (value : UInt16) : Needs (u16be field) (Wire.u16be value) value :=
  needs_fixed (length_u16be value) (ofNat_u16be value)

theorem needs_u32be (value : UInt32) : Needs (u32be field) (Wire.u32be value) value :=
  needs_fixed (length_u32be value) (ofNat_u32be value)

theorem needs_lp (bounded : bytes.length ≤ limit) (fits : limit < 2 ^ 32) :
    Needs (lp limit field) (Wire.lp bytes) bytes := by
  have length : (UInt32.ofNat bytes.length).toNat = bytes.length :=
    UInt32.toNat_ofNat_of_lt' (by simpa using lt_of_le_of_lt bounded fits)
  refine (needs_u32be _).bind ?_
  rw [length, if_neg (Nat.not_lt.mpr bounded)]
  exact needs_take rfl

end

theorem decode_eq {reader : Reader α} {bytes rest : Bytes} {value : α}
    (outcome : reader.run bytes = .ok (value, rest)) :
    reader.decode bytes = .ok value := by
  unfold decode StateT.run'
  have step : reader bytes = .ok (value, rest) := outcome
  rw [step]
  rfl

/-! What a reader that goes through has checked, against the number of bytes
it took. -/

def Measures (reader : Reader α) (post : α → Nat → Prop) : Prop :=
  ∀ bytes value rest, reader.run bytes = .ok (value, rest) →
    ∃ taken, bytes.length = taken + rest.length ∧ post value taken

theorem Measures.pure (holds : post value 0) : Measures (Pure.pure value) post := by
  intro bytes result rest ran
  cases ran
  exact ⟨0, (Nat.zero_add _).symm, holds⟩

theorem Measures.throw (error : WireError) :
    Measures (MonadExcept.throw error : Reader β) post := by
  intro bytes result rest ran
  cases ran

theorem Measures.guard [Decidable refused] (then' : ¬ refused → Measures next post) :
    Measures (if refused then MonadExcept.throw error else next) post := by
  split
  · exact .throw error
  · rename_i passed
    exact then' passed

theorem Measures.bind (first : Measures reader mid) (then' : ∀ value taken, mid value taken →
      Measures (next value) fun result more => post result (taken + more)) :
    Measures (reader >>= next) post := by
  intro bytes result rest ran
  obtain ⟨value, middle, step, ran⟩ := run_bind_ok_iff.mp ran
  obtain ⟨taken, length, holds⟩ := first bytes value middle step
  obtain ⟨more, length', holds'⟩ := then' value taken holds middle result rest ran
  exact ⟨taken + more, by omega, holds'⟩

/-- A reader known by what it takes off the front. -/
theorem Measures.front {checked : α → Prop} (front : α → Bytes)
    (inverts : ∀ {bytes value rest}, reader.run bytes = .ok (value, rest) →
      checked value ∧ bytes = front value ++ rest)
    (then' : ∀ value, checked value → Measures (next value)
      fun result more => post result ((front value).length + more)) :
    Measures (reader >>= next) post := by
  have first : Measures reader fun value taken =>
      checked value ∧ taken = (front value).length := by
    intro bytes value rest ran
    obtain ⟨passed, rfl⟩ := inverts ran
    exact ⟨_, List.length_append, passed, rfl⟩
  refine first.bind ?_
  rintro value _ ⟨passed, rfl⟩
  exact then' value passed

theorem Measures.lift {result : Except WireError α}
    (then' : ∀ value, result = .ok value → Measures (next value) post) :
    Measures ((result : Reader α) >>= next) post := by
  refine .front (fun _ => []) ok_of_lift fun value passed => ?_
  simpa using then' value passed

theorem Measures.take (then' : ∀ bytes : Bytes, bytes.length = n →
      Measures (next bytes) fun result more => post result (n + more)) :
    Measures (Reader.take n field >>= next) post := by
  refine .front id bytes_of_take fun bytes length => ?_
  simpa only [id, length] using then' bytes length

theorem Measures.takeArray (then' : ∀ value : List.Vector UInt8 n,
      Measures (next value) fun result more => post result (n + more)) :
    Measures (Reader.takeArray n field >>= next) post := by
  refine .front List.Vector.toList (fun ran => ⟨trivial, bytes_of_takeArray ran⟩) fun value _ => ?_
  simpa only [List.Vector.toList_length] using then' value

theorem Measures.u8 (then' : ∀ value, Measures (next value)
      fun result more => post result (1 + more)) :
    Measures (Reader.u8 field >>= next) post :=
  .front (fun value => [value]) (fun ran => ⟨trivial, bytes_of_u8 ran⟩) fun value _ => then' value

theorem Measures.u16be (then' : ∀ value, Measures (next value)
      fun result more => post result (2 + more)) :
    Measures (Reader.u16be field >>= next) post :=
  .front Wire.u16be (fun ran => ⟨trivial, bytes_of_u16be ran⟩) fun value _ => then' value

theorem Measures.u32be (then' : ∀ value, Measures (next value)
      fun result more => post result (4 + more)) :
    Measures (Reader.u32be field >>= next) post :=
  .front Wire.u32be (fun ran => ⟨trivial, bytes_of_u32be ran⟩) fun value _ => then' value

theorem Measures.u64be (then' : ∀ value, Measures (next value)
      fun result more => post result (8 + more)) :
    Measures (Reader.u64be field >>= next) post :=
  .front Wire.u64be (fun ran => ⟨trivial, bytes_of_u64be ran⟩) fun value _ => then' value

theorem Measures.lp (then' : ∀ bytes : Bytes, bytes.length ≤ limit →
      Measures (next bytes) fun result more =>
        post result (4 + bytes.length + more)) :
    Measures (Reader.lp limit field >>= next) post := by
  refine .front Wire.lp bytes_of_lp fun bytes bounded => ?_
  simpa only [length_lp] using then' bytes bounded

theorem Measures.peekU32be (then' : ∀ value, Measures (next value) post) :
    Measures (Reader.peekU32be field >>= next) post := by
  intro bytes result rest ran
  obtain ⟨value, _, step, ran⟩ := run_bind_ok_iff.mp ran
  simp only [Reader.peekU32be, StateT.run] at step
  split at step
  · cases step
  · cases step
    exact then' _ bytes result rest ran

theorem Measures.remaining (then' : ∀ value, Measures (next value) post) :
    Measures (Reader.remaining >>= next) post := by
  intro bytes result rest ran
  obtain ⟨_, _, step, ran⟩ := run_bind_ok_iff.mp ran
  cases step
  exact then' _ bytes result rest ran

theorem Measures.expectEnd (then' : Measures (next ()) post) :
    Measures (Reader.expectEnd field >>= next) post := by
  refine .front (fun _ => []) (fun ran => ⟨trivial, (bytes_of_expectEnd ran).2⟩) fun _ _ => ?_
  simpa using then'

theorem Measures.decode (measures : Measures reader post)
    (decoded : reader.decode bytes = .ok value) :
    ∃ taken, taken ≤ bytes.length ∧ post value taken := by
  obtain ⟨rest, ran⟩ := run_of_decode decoded
  obtain ⟨taken, length, holds⟩ := measures bytes value rest ran
  exact ⟨taken, by omega, holds⟩

end Reader

end SChatCore.Wire
