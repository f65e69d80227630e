import SChatCore.Store.Schema
import Mathlib.Data.Char
import Mathlib.Data.List.Lex
import Mathlib.Data.List.Sort

namespace SChatCore.Vault

open Data.Stream Wire Store

inductive VaultError
  | badDek
  | pairing
  | io
  | queue (detail : String)
  deriving DecidableEq

structure QueuedDrop where
  serviceId : String
  intro : Option Bytes
  frame : Bytes
  deriving DecidableEq

/-! The blob of a drop. -/

def magic : Bytes := [0x53, 0x36, 0x51]

def version : UInt8 := 1

def encodeIntro : Option Bytes → Bytes
  | some intro => [1] ++ (u16be (UInt16.ofNat intro.length) ++ intro)
  | none => [0]

/-- The casts cut off the high bits of the lengths. -/
def encodeBlob (drop : QueuedDrop) : Bytes :=
  (magic ++ [version]) ++ (u16be (UInt16.ofNat (asBytes drop.serviceId).length) ++
      asBytes drop.serviceId ++ (encodeIntro drop.intro ++
        (u32be (UInt32.ofNat drop.frame.length) ++ drop.frame)))

def bad (detail : String) : VaultError := .queue s!"queue blob: {detail}"

def take (n : Nat) : Reader UInt8 VaultError Bytes := takeExact (bad "truncated") n

def take16 : Reader UInt8 VaultError Bytes := do
  let len ← take 2
  take (UInt16.ofNat (fromBeBytes len)).toNat

def takeIntro : Reader UInt8 VaultError (Option Bytes) := do
  let flag ← take 1
  if flag = [0] then return none
  else if flag = [1] then return some (← take16)
  else throw (bad "bad intro flag")

def readBlob : Reader UInt8 VaultError QueuedDrop := do
  let header ← takeExact (bad "bad magic/version") 4
  if header ≠ magic ++ [version] then throw (bad "bad magic/version")
  else do
    let id ← take16
    match fromUtf8 id with
    | none => throw (bad "service id not utf8")
    | some serviceId => do
      let intro ← takeIntro
      let len ← take 4
      let frame ← take (UInt32.ofNat (fromBeBytes len)).toNat
      return { serviceId, intro, frame }

def decodeBlob (blob : Bytes) : Except VaultError QueuedDrop :=
  match readBlob.run blob with
  | .error error => .error error
  | .ok (drop, rest) => if rest = [] then .ok drop else .error (bad "trailing bytes")

/-- The lengths survive the casts. -/
structure Fits (drop : QueuedDrop) : Prop where
  serviceId : (asBytes drop.serviceId).length < 2 ^ 16
  intro : ∀ intro, drop.intro = some intro → intro.length < 2 ^ 16
  frame : drop.frame.length < 2 ^ 32

theorem run_take16 (short : bytes.length < 2 ^ 16) :
    take16.run (u16be (UInt16.ofNat bytes.length) ++ bytes ++ rest) = .ok (bytes, rest) := by
  refine run_bind_ok_iff.mpr ⟨u16be (UInt16.ofNat bytes.length), bytes ++ rest,
    takeExact_ok_iff.mpr ⟨length_u16be _, List.append_assoc _ _ _⟩, ?_⟩
  rw [ofNat_u16be, UInt16.toNat_ofNat_of_lt' short]
  exact takeExact_ok_iff.mpr ⟨rfl, rfl⟩

theorem run_takeIntro (short : ∀ bytes, intro = some bytes → bytes.length < 2 ^ 16) :
    takeIntro.run (encodeIntro intro ++ rest) = .ok (intro, rest) := by
  cases intro with
  | none => exact run_bind_ok_iff.mpr ⟨[0], rest, rfl, rfl⟩
  | some bytes =>
    refine run_bind_ok_iff.mpr ⟨[1], u16be (UInt16.ofNat bytes.length) ++
      bytes ++ rest, takeExact_ok_iff.mpr ⟨rfl, by simp [encodeIntro]⟩, ?_⟩
    rw [if_neg (by decide), if_pos rfl]
    exact run_bind_ok_iff.mpr ⟨bytes, rest, run_take16 (short _ rfl), rfl⟩

theorem decodeBlob_encodeBlob (fits : Fits drop) : decodeBlob (encodeBlob drop) = .ok drop := by
  have read : readBlob.run (encodeBlob drop) = .ok (drop, []) := by
    refine run_bind_ok_iff.mpr ⟨magic ++ [version], _, takeExact_ok_iff.mpr ⟨rfl, rfl⟩, ?_⟩
    rw [if_neg (by simp)]
    refine run_bind_ok_iff.mpr ⟨_, _, run_take16 fits.serviceId, ?_⟩
    rw [fromUtf8_asBytes]
    refine run_bind_ok_iff.mpr ⟨_, _, run_takeIntro fits.intro, ?_⟩
    refine run_bind_ok_iff.mpr ⟨_, _, takeExact_ok_iff.mpr ⟨length_u32be _, rfl⟩, ?_⟩
    rw [ofNat_u32be, UInt32.toNat_ofNat_of_lt' fits.frame]
    exact run_bind_ok_iff.mpr ⟨drop.frame, [],
      takeExact_ok_iff.mpr ⟨rfl, (List.append_nil _).symm⟩, rfl⟩
  rw [decodeBlob, read]
  rfl

structure TierA where
  encrypt : Bytes → Bytes → Bytes
  decrypt : Bytes → Bytes → Option Bytes
  length_encrypt : ∀ nonce blob, (encrypt nonce blob).length = blob.length + 16
  decrypt_encrypt : ∀ nonce blob, decrypt nonce (encrypt nonce blob) = some blob

structure DropQueue where
  key : TierA
  sha256 : Bytes → Array32
  maxFiles : Nat
  maxBytes : Nat

structure QueueFile where
  name : List Char
  modified : Nat
  contents : Bytes
  deriving DecidableEq

def sanitize (serviceId : String) : List Char :=
  (serviceId.toList.map fun char =>
    if char.isAlphanum || char = '-' || char = '_' then char else '_').take 64

/-- Temporary and foreign files are passed over. -/
def listed (name : List Char) : Bool := name.head? ≠ some '.' && name.contains '.'

def filesOldestFirst (dir : List QueueFile) : List QueueFile :=
  (dir.filter fun file => listed file.name).insertionSort fun first second =>
    first.modified < second.modified ∨ first.modified = second.modified ∧ first.name ≤ second.name

namespace DropQueue

variable (queue : DropQueue)

def fileName (drop : QueuedDrop) : List Char :=
  sanitize drop.serviceId ++ '.' :: (hexEncode (queue.sha256 (encodeBlob drop)).toList).toList

def wrap (nonce : List.Vector UInt8 12) (blob : Bytes) : Bytes :=
  nonce.toList ++ queue.key.encrypt nonce.toList blob

def unwrapBlob (wrapped : Bytes) : Except VaultError Bytes :=
  if wrapped.length < 12 + 16 then .error (.queue "queue file too short")
  else
    match queue.key.decrypt (wrapped.take 12) (wrapped.drop 12) with
    | some blob => .ok blob
    | none => .error (.queue "tier-a unwrap failed")

def opened (file : QueueFile) : Except VaultError QueuedDrop :=
  (queue.unwrapBlob file.contents).bind decodeBlob

def hasRoom (dir : List QueueFile) (blob : Bytes) : Bool :=
  (filesOldestFirst dir).length < queue.maxFiles &&
    ((filesOldestFirst dir).map fun file => file.contents.length).sum +
      blob.length + 40 ≤ queue.maxBytes

structure Writing where
  lists : Bool
  writes : Bool
  nonce : List.Vector UInt8 12
  modified : Nat

/-- A rename replaces the file of that name. -/
def enqueue (io : Writing) (drop : QueuedDrop) (dir : List QueueFile) :
    Except VaultError Bool × List QueueFile :=
  if !io.lists then (.error .io, dir)
  else if !queue.hasRoom dir (encodeBlob drop) then (.ok false, dir)
  else if !io.writes then (.error .io, dir)
  else (.ok true, dir.filter (·.name ≠ queue.fileName drop) ++
    [⟨queue.fileName drop, io.modified, queue.wrap io.nonce (encodeBlob drop)⟩])

structure Reading where
  opens : Bool
  restores : Bool
  lists : Bool
  reads : QueueFile → Bool
  removes : QueueFile → Bool
  ingests : QueuedDrop → Bool

/-- A file that cannot be read ends the loop; the files before it are gone and
with them what was read. -/
def drainFiles (io : Reading) : List QueueFile → List QueueFile →
    Except VaultError (List QueuedDrop) × List QueueFile
  | [], dir => (.ok [], dir)
  | file :: rest, dir =>
    if !io.reads file then (.error .io, dir)
    else
      let (drops, dir) := drainFiles io rest
        (if io.removes file then dir.filter (·.name ≠ file.name) else dir)
      match queue.opened file with
      | .ok drop => (drops.map (drop :: ·), dir)
      | .error _ => (drops, dir)

def drain (io : Reading) (dir : List QueueFile) :
    Except VaultError (List QueuedDrop) × List QueueFile :=
  if !io.lists then (.error .io, dir)
  else queue.drainFiles io (filesOldestFirst dir) dir

end DropQueue

end SChatCore.Vault
