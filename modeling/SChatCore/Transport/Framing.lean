import SChatCore.Store.Schema
import SChatCore.Transport.Onion
import SChatCore.Wire.Record

namespace SChatCore.Transport

open Data Data.Stream Wire Store

/-! The framing of records on a connection: a flag, an optional intro and the
record, the last two behind their lengths. -/

def versionV2 : UInt8 := 2

def flagSizedQuiet : UInt8 := 0x05

def flagSizedAlert : UInt8 := 0x06

def introSizedQuiet : UInt8 := 0xfc

def introSizedAlert : UInt8 := 0xfd

def maxIntroBytes : Nat := 8192

structure OpaqueFrame where
  intro : Option Bytes
  frame : Bytes
  alert : Bool
  deriving DecidableEq

def pack (intro : Option Bytes) (frame : Bytes) (alert : Bool) :
    Except TransportError Bytes :=
  let len := frame.length
  if ¬ isBucket len then
    .error (.malformedFrame s!"frame length {len} is not a record bucket")
  else if frame.head? ≠ some versionV2 then
    .error (.malformedFrame "frame does not start with VERSION_V2")
  else
    match intro with
    | none =>
      .ok ((if alert then flagSizedAlert else flagSizedQuiet) :: u16be (UInt16.ofNat len) ++ frame)
    | some intro =>
      let introLen := intro.length
      if intro.isEmpty ∨ introLen > maxIntroBytes then
        .error (.malformedFrame s!"intro length {introLen} out of range")
      else
        .ok ((if alert then introSizedAlert else introSizedQuiet) ::
          u16be (UInt16.ofNat introLen) ++ intro ++
          u16be (UInt16.ofNat len) ++ frame)

abbrev FrameReader := Stream.Reader UInt8 TransportError

def readExact (len : Nat) : FrameReader Bytes := takeExact (.io "early eof") len

def readU16 : FrameReader UInt16 := do
  let bytes ← readExact 2
  return UInt16.ofNat (fromBeBytes bytes)

/-- The stream may end here, and only here. -/
def readFlag : FrameReader (Option UInt8) := fun stream =>
  match stream with
  | [] => .ok (none, [])
  | flag :: rest => .ok (some flag, rest)

/-- Whether a frame alerts, and whether it has an intro. -/
def flagKind (flag : UInt8) : Option (Bool × Bool) :=
  if flag = flagSizedQuiet then some (false, false)
  else if flag = flagSizedAlert then some (true, false)
  else if flag = introSizedQuiet then some (false, true)
  else if flag = introSizedAlert then some (true, true)
  else none

def readIntro (hasIntro : Bool) : FrameReader (Option Bytes) :=
  if hasIntro then do
    let len ← readU16
    let introLen := len.toNat
    if introLen = 0 ∨ introLen > maxIntroBytes then
      throw (.malformedFrame s!"intro length {introLen} out of range")
    else do
      let intro ← readExact introLen
      return some intro
  else return none

def readRecord : FrameReader Bytes := do
  let len ← readU16
  let frameLen := len.toNat
  if ¬ isBucket frameLen then
    throw (.malformedFrame s!"record length {frameLen} is not a bucket")
  else do
    let frame ← readExact frameLen
    if frame.head? ≠ some versionV2 then
      throw (.malformedFrame "record version byte is not VERSION_V2")
    else return frame

def readFrame : FrameReader (Option OpaqueFrame) := do
  let flag ← readFlag
  match flag with
  | none => return none
  | some flag =>
    match flagKind flag with
    | none =>
      let shown := hexEncode [flag]
      throw (.malformedFrame s!"unknown frame flag 0x{shown} (legacy flags are dropped)")
    | some (alert, hasIntro) => do
      let intro ← readIntro hasIntro
      let frame ← readRecord
      return some { intro, frame, alert }

theorem readExact_ok_iff : (readExact len).run stream = .ok (front, rest) ↔
      front.length = len ∧ stream = front ++ rest :=
  takeExact_ok_iff

theorem readU16_ok_iff : readU16.run stream = .ok (value, rest) ↔ stream = u16be value ++ rest := by
  unfold readU16
  simp only [run_bind_ok_iff, readExact_ok_iff, run_pure_ok_iff]
  constructor
  · rintro ⟨bytes, _, ⟨length, rfl⟩, rfl, rfl⟩
    rw [u16be_ofNat length]
  · rintro rfl
    exact ⟨u16be value, rest, ⟨length_u16be _, rfl⟩, (ofNat_u16be value).symm, rfl⟩

def IntroRange (intro : Option Bytes) : Prop :=
  ∀ bytes, intro = some bytes → 1 ≤ bytes.length ∧ bytes.length ≤ maxIntroBytes

structure Recordlike (frame : Bytes) : Prop where
  bucket : isBucket frame.length = true
  version : frame.head? = some versionV2

def sized (bytes : Bytes) : Bytes := u16be (UInt16.ofNat bytes.length) ++ bytes

def introBytes : Option Bytes → Bytes
  | none => []
  | some intro => sized intro

def flagOf (alert hasIntro : Bool) : UInt8 :=
  match hasIntro, alert with
  | false, false => flagSizedQuiet
  | false, true => flagSizedAlert
  | true, false => introSizedQuiet
  | true, true => introSizedAlert

theorem Recordlike.small (record : Recordlike frame) : frame.length < 2 ^ 16 := by
  have bound : ∀ bucket ∈ recordBuckets, bucket < 2 ^ 16 := by decide
  exact bound _ (List.contains_iff_mem.mp record.bucket)

theorem sized_eq (same : len.toNat = bytes.length) : sized bytes = u16be len ++ bytes := by
  rw [sized, ← same, UInt16.ofNat_toNat]

theorem readIntro_ok_iff : (readIntro hasIntro).run stream = .ok (intro, rest) ↔
      intro.isSome = hasIntro ∧ IntroRange intro ∧ stream = introBytes intro ++ rest := by
  unfold readIntro
  cases hasIntro with
  | false =>
    rw [if_neg Bool.false_ne_true, run_pure_ok_iff]
    constructor
    · rintro ⟨rfl, rfl⟩
      exact ⟨rfl, nofun, rfl⟩
    · rintro ⟨absent, -, rfl⟩
      cases intro with
      | none => exact ⟨rfl, rfl⟩
      | some intro => cases absent
  | true =>
    rw [if_pos rfl]
    simp only [run_bind_ok_iff, readU16_ok_iff]
    constructor
    · rintro ⟨len, _, rfl, ran⟩
      split at ran
      · cases ran
      · rename_i range
        simp only [run_bind_ok_iff, readExact_ok_iff, run_pure_ok_iff] at ran
        obtain ⟨front, _, ⟨length, rfl⟩, rfl, rfl⟩ := ran
        refine ⟨rfl, ?_, ?_⟩
        · rintro _ ⟨⟩
          omega
        · rw [introBytes, sized_eq length.symm, List.append_assoc]
    · rintro ⟨present, range, rfl⟩
      cases intro with
      | none => cases present
      | some intro =>
        obtain ⟨some, bounded⟩ := range intro rfl
        have value : (UInt16.ofNat intro.length).toNat = intro.length :=
          UInt16.toNat_ofNat_of_lt' (lt_of_le_of_lt bounded (by decide))
        refine ⟨_, intro ++ rest, List.append_assoc _ _ _, ?_⟩
        rw [value, if_neg (by omega)]
        simp only [run_bind_ok_iff, readExact_ok_iff, run_pure_ok_iff]
        exact ⟨intro, rest, ⟨rfl, rfl⟩, rfl, rfl⟩

theorem readRecord_ok_iff : readRecord.run stream = .ok (frame, rest) ↔
      Recordlike frame ∧ stream = sized frame ++ rest := by
  unfold readRecord
  simp only [run_bind_ok_iff, readU16_ok_iff]
  constructor
  · rintro ⟨len, _, rfl, ran⟩
    split at ran
    · cases ran
    rename_i bucket
    simp only [run_bind_ok_iff, readExact_ok_iff] at ran
    obtain ⟨front, _, ⟨length, rfl⟩, ran⟩ := ran
    split at ran
    · cases ran
    rename_i version
    obtain ⟨rfl, rfl⟩ := run_pure_ok_iff.mp ran
    refine ⟨⟨?_, not_not.mp version⟩, ?_⟩
    · rw [length]
      exact not_not.mp bucket
    · rw [sized_eq length.symm, List.append_assoc]
  · rintro ⟨record, rfl⟩
    have value : (UInt16.ofNat frame.length).toNat = frame.length :=
      UInt16.toNat_ofNat_of_lt' record.small
    refine ⟨_, frame ++ rest, List.append_assoc _ _ _, ?_⟩
    rw [value, if_neg (not_not.mpr record.bucket)]
    simp only [run_bind_ok_iff, readExact_ok_iff]
    refine ⟨frame, rest, ⟨rfl, rfl⟩, ?_⟩
    rw [if_neg (not_not.mpr record.version)]
    rfl

theorem flagKind_eq_some_iff :
    flagKind flag = some (alert, hasIntro) ↔ flag = flagOf alert hasIntro := by
  constructor
  · intro known
    unfold flagKind at known
    split at known
    · cases known
      assumption
    split at known
    · cases known
      assumption
    split at known
    · cases known
      assumption
    split at known
    · cases known
      assumption
    · cases known
  · rintro rfl
    cases alert <;> cases hasIntro <;> decide

theorem pack_ok_iff {intro : Option Bytes} {frame packed : Bytes} {alert : Bool} :
    pack intro frame alert = .ok packed ↔ Recordlike frame ∧ IntroRange intro ∧
        packed = flagOf alert intro.isSome :: (introBytes intro ++ sized frame) := by
  unfold pack
  simp only
  split
  · rename_i bucket
    exact ⟨nofun, fun right => absurd right.1.bucket bucket⟩
  split
  · rename_i version
    exact ⟨nofun, fun right => absurd right.1.version version⟩
  rename_i bucket version
  have record : Recordlike frame := ⟨not_not.mp bucket, not_not.mp version⟩
  cases intro with
  | none =>
    simp only [Except.ok.injEq]
    constructor
    · rintro rfl
      refine ⟨record, nofun, ?_⟩
      cases alert <;> rfl
    · rintro ⟨-, -, rfl⟩
      cases alert <;> rfl
  | some intro =>
    simp only
    split
    · rename_i outside
      refine ⟨nofun, fun right => absurd (right.2.1 intro rfl) ?_⟩
      rintro ⟨some, bounded⟩
      rcases outside with empty | long
      · rw [List.isEmpty_iff.mp empty] at some
        cases some
      · omega
    · rename_i inside
      rw [List.isEmpty_iff_length_eq_zero] at inside
      simp only [Except.ok.injEq]
      constructor
      · rintro rfl
        refine ⟨record, ?_, ?_⟩
        · rintro _ ⟨⟩
          omega
        · cases alert <;> simp [flagOf, introBytes, sized]
      · rintro ⟨-, -, rfl⟩
        cases alert <;> simp [flagOf, introBytes, sized]

theorem readFrame_ok_iff : readFrame.run stream = .ok (some frame, rest) ↔
      ∃ packed, pack frame.intro frame.frame frame.alert = .ok packed ∧
        stream = packed ++ rest := by
  simp only [pack_ok_iff]
  unfold readFrame
  rw [run_bind_ok_iff]
  constructor
  · rintro ⟨flag, middle, flagged, ran⟩
    cases stream with
    | nil =>
      cases flagged
      cases ran
    | cons first others =>
      cases flagged
      simp only at ran
      split at ran
      · cases ran
      · rename_i alert hasIntro known
        obtain ⟨intro, _, introduced, ran⟩ := run_bind_ok_iff.mp ran
        obtain ⟨body, _, recorded, ran⟩ := run_bind_ok_iff.mp ran
        obtain ⟨same, rfl⟩ := run_pure_ok_iff.mp ran
        cases same
        obtain ⟨rfl, range, rfl⟩ := readIntro_ok_iff.mp introduced
        obtain ⟨record, rfl⟩ := readRecord_ok_iff.mp recorded
        rw [flagKind_eq_some_iff] at known
        refine ⟨_, ⟨record, range, rfl⟩, ?_⟩
        simp [known]
  · rintro ⟨packed, ⟨record, range, rfl⟩, rfl⟩
    refine ⟨_, _, rfl, ?_⟩
    simp only [flagKind_eq_some_iff.mpr rfl]
    refine run_bind_ok_iff.mpr ⟨frame.intro, sized frame.frame ++ rest,
      readIntro_ok_iff.mpr ⟨rfl, range, List.append_assoc _ _ _⟩, ?_⟩
    exact run_bind_ok_iff.mpr ⟨frame.frame, rest, readRecord_ok_iff.mpr ⟨record, rfl⟩, rfl⟩

structure Item where
  intro : Option Bytes
  frame : Bytes
  alert : Bool
  introRange : IntroRange intro
  fits : frame.length ≤ maxRecordBytes - recordHeaderBytes

def transmit (item : Item) (padding : Nat → UInt8) : Option Bytes := do
  let record ← (buildRecord padding item.frame).toOption
  (pack item.intro record item.alert).toOption

def unpacked (frame : OpaqueFrame) : Option (Option Bytes × Bytes × Bool) := do
  let payload ← (parseRecord frame.frame).toOption
  return (frame.intro, payload, frame.alert)

theorem recordlike_of_parseRecord (parsed : parseRecord record = .ok payload) :
    Recordlike record := by
  unfold parseRecord at parsed
  split at parsed
  · cases parsed
  rename_i version
  split at parsed
  · cases parsed
  rename_i bucket
  exact ⟨not_not.mp bucket, not_not.mp version⟩

theorem transmit_reads (item : Item) (padding : Nat → UInt8) :
    ∃ packed frame, transmit item padding = some packed ∧
      unpacked frame = some (item.intro, item.frame, item.alert) ∧
      ∀ more, readFrame.run (packed ++ more) = .ok (some frame, more) := by
  have fits : recordHeaderBytes + item.frame.length ≤ maxRecordBytes := by
    have := item.fits
    unfold maxRecordBytes recordHeaderBytes at *
    omega
  obtain ⟨record, built⟩ := @buildRecord_isOk padding _ fits
  have parsed := parseRecord_of_buildRecord built
  have packed := (@pack_ok_iff item.intro record _ item.alert).mpr
    ⟨recordlike_of_parseRecord parsed, item.introRange, rfl⟩
  refine ⟨_, ⟨item.intro, record, item.alert⟩, ?_, ?_, fun more =>
    readFrame_ok_iff.mpr ⟨_, packed, rfl⟩⟩
  · unfold transmit
    rw [built]
    exact congrArg Except.toOption packed
  · unfold unpacked
    rw [parsed]
    rfl

/-- The induction is over the items; what follows them in the stream is
arbitrary. -/
theorem calls_readFrame (items : List (Item × (Nat → UInt8))) (more : Bytes) :
    ∃ (packed : List Bytes) (frames : List OpaqueFrame),
      items.mapM (fun entry => transmit entry.1 entry.2) = some packed ∧
      (calls readFrame items.length).run (packed.flatten ++ more) = .ok (frames.map some, more) ∧
      frames.map unpacked = items.map fun entry =>
        some (entry.1.intro, entry.1.frame, entry.1.alert) := by
  induction items with
  | nil => exact ⟨[], [], rfl, rfl, rfl⟩
  | cons entry rest ih =>
    obtain ⟨packed, frames, sent, read, shown⟩ := ih
    obtain ⟨first, frame, transmitted, content, reads⟩ := transmit_reads entry.1 entry.2
    refine ⟨first :: packed, frame :: frames, ?_, ?_, ?_⟩
    · rw [List.mapM_cons, transmitted, sent]
      rfl
    · rw [List.flatten_cons, List.append_assoc]
      exact run_calls_cons (reads _) read
    · rw [List.map_cons, List.map_cons, content, shown]

/-- Every list of items is read back in order, and then the end of the stream;
and what a read of any stream takes from it is the packed frame it returns. -/
theorem framing_lossless : (∀ items : List (Item × (Nat → UInt8)),
      ∃ (packed : List Bytes) (frames : List OpaqueFrame),
      items.mapM (fun entry => transmit entry.1 entry.2) = some packed ∧
      (calls readFrame (items.length + 1)).run packed.flatten =
        .ok (frames.map some ++ [none], []) ∧
      frames.map unpacked = items.map fun entry =>
        some (entry.1.intro, entry.1.frame, entry.1.alert)) ∧
    ∀ stream rest frame, readFrame.run stream = .ok (some frame, rest) →
      ∃ packed, pack frame.intro frame.frame frame.alert = .ok packed ∧
        stream = packed ++ rest := by
  refine ⟨fun items => ?_, fun stream rest frame => readFrame_ok_iff.mp⟩
  obtain ⟨packed, frames, sent, read, shown⟩ := calls_readFrame items []
  rw [List.append_nil] at read
  exact ⟨packed, frames, sent, run_calls_concat read rfl, shown⟩

end SChatCore.Transport
