import SChatCore.Wire.Bin

namespace SChatCore.Wire

/-! Message bodies: `MSG` and `EDIT` share one layout, raw UTF-8. -/

def maxBodyBytes : Nat := 16 * 1024

def encodeBody (field body : String) : Except WireError Bytes :=
  if (asBytes body).length > maxBodyBytes then
    .error (.tooLarge field (asBytes body).length maxBodyBytes)
  else .ok (asBytes body)

def decodeBody (field : String) (bytes : Bytes) : Except WireError String :=
  if bytes.length > maxBodyBytes then
    .error (.tooLarge field bytes.length maxBodyBytes)
  else
    match fromUtf8 bytes with
    | some body => .ok body
    | none => .error (.badField field "invalid utf-8")

theorem decodeBody_of_encodeBody (encoded : encodeBody field body = .ok bytes) :
    decodeBody field bytes = .ok body := by
  unfold encodeBody at encoded
  split at encoded
  · cases encoded
  · rename_i bounded
    cases encoded
    simp [decodeBody, if_neg bounded]

structure Msg where
  body : String
  deriving DecidableEq

def Msg.encodePayload (msg : Msg) : Except WireError Bytes := encodeBody "msg.body" msg.body

def Msg.decodePayload (bytes : Bytes) : Except WireError Msg :=
  Msg.mk <$> decodeBody "msg.body" bytes

structure Edit where
  body : String
  deriving DecidableEq

def Edit.encodePayload (edit : Edit) : Except WireError Bytes := encodeBody "edit.body" edit.body

def Edit.decodePayload (bytes : Bytes) : Except WireError Edit :=
  Edit.mk <$> decodeBody "edit.body" bytes

/-- The payload of `DELETE`, `DELETE_ALL`, `CONTACT_CLOSE`, `PROFILE_REQ`
and `READ`. -/
def decodeEmpty (field : String) (bytes : Bytes) : Except WireError Unit :=
  if bytes.isEmpty then .ok ()
  else .error (.tooLarge field bytes.length 0)

/-! `PREF`. -/

def maxEraseHours : UInt32 := 24 * 365

structure Pref where
  receiveMedia : Bool
  listenSaver : Bool
  inactivityEraseHours : UInt32
  deriving DecidableEq

namespace Pref

def flagReceiveMedia : UInt32 := 1

def flagListenSaver : UInt32 := 2

def checkHours (hours : UInt32) : Except WireError Unit :=
  if hours > maxEraseHours then
    .error (.badField "pref.inactivity_erase_hours" s!"{hours} exceeds {maxEraseHours}")
  else .ok ()

def encodePayload (pref : Pref) : Except WireError Bytes := do
  checkHours pref.inactivityEraseHours
  let flags := (if pref.receiveMedia then flagReceiveMedia else 0) |||
    (if pref.listenSaver then flagListenSaver else 0)
  return [1] ++ u32be flags ++ u32be pref.inactivityEraseHours

def reader : Reader Pref := do
  let version ← Reader.u8 "pref.version"
  if version ≠ 1 then throw (.badVersion "pref" version)
  else do
    let flags ← Reader.u32be "pref.flags"
    let hours ← Reader.u32be "pref.erase_hours"
    Reader.expectEnd "pref"
    checkHours hours
    return {
      receiveMedia := flags &&& flagReceiveMedia ≠ 0
      listenSaver := flags &&& flagListenSaver ≠ 0
      inactivityEraseHours := hours }

def decodePayload (bytes : Bytes) : Except WireError Pref := reader.decode bytes

end Pref

/-! `PRESENCE` and `TYPING`: a version byte and a flag byte. -/

def flagByte (field : String) : Reader UInt8 := do
  let version ← Reader.u8 (field ++ ".version")
  if version ≠ 1 then throw (.badVersion field version)
  else do
    let flags ← Reader.u8 (field ++ ".flags")
    Reader.expectEnd field
    return flags

structure Presence where
  inApp : Bool
  doNotDisturb : Bool
  deriving DecidableEq

namespace Presence

def flagInApp : UInt8 := 1

def flagDnd : UInt8 := 2

def encodePayload (presence : Presence) : Except WireError Bytes :=
  .ok [1, (if presence.inApp then flagInApp else 0) |||
    (if presence.doNotDisturb then flagDnd else 0)]

def decodePayload (bytes : Bytes) : Except WireError Presence := do
  let flags ← (flagByte "presence").decode bytes
  return {
    inApp := flags &&& flagInApp ≠ 0
    doNotDisturb := flags &&& flagDnd ≠ 0 }

end Presence

structure Typing where
  typing : Bool
  deriving DecidableEq

namespace Typing

def flagTyping : UInt8 := 1

def encodePayload (beat : Typing) : Except WireError Bytes :=
  .ok [1, if beat.typing then flagTyping else 0]

def decodePayload (bytes : Bytes) : Except WireError Typing := do
  let flags ← (flagByte "typing").decode bytes
  return { typing := flags &&& flagTyping ≠ 0 }

end Typing

/-! `PROFILE`. Normalisation is the Unicode library's. -/

def maxNameBytes : Nat := 32

def maxJpeg : Nat := 24 * 1024

def isControl (c : Char) : Bool := c.val < 0x20 || (0x7f ≤ c.val && c.val < 0xa0)

def nameOk (nfc : String → String) (raw : String) : Bool :=
  nfc raw = raw && !(asBytes raw).isEmpty &&
    (asBytes raw).length ≤ maxNameBytes && !raw.toList.any isControl

def jpegOk (jpeg : Bytes) : Bool :=
  match jpeg with
  | [] => true
  | first :: second :: _ :: _ => first = 0xff && second = 0xd8
  | _ => false

structure Profile where
  name : String
  jpeg : Bytes
  deriving DecidableEq

namespace Profile

variable (nfc : String → String)

def checkName (name : String) : Except WireError Unit :=
  if nameOk nfc name then .ok ()
  else .error (.badField "profile.name" "name fails nfc/length/control rules")

def checkJpeg (jpeg : Bytes) : Except WireError Unit :=
  if jpegOk jpeg then .ok ()
  else .error (.badField "profile.jpeg" "bad jpeg magic")

def encodePayload (profile : Profile) : Except WireError Bytes := do
  checkName nfc profile.name
  if profile.jpeg.length > maxJpeg then
    throw (.tooLarge "profile.jpeg" profile.jpeg.length maxJpeg)
  else do
    checkJpeg profile.jpeg
    return [1] ++ lp (asBytes profile.name) ++ lp profile.jpeg

def reader : Reader Profile := do
  let version ← Reader.u8 "profile.version"
  if version ≠ 1 then throw (.badVersion "profile" version)
  else do
    let nameBytes ← Reader.lp maxNameBytes "profile.name"
    match fromUtf8 nameBytes with
    | none => throw (.badField "profile.name" "invalid utf-8")
    | some name => do
      checkName nfc name
      let jpeg ← Reader.lp maxJpeg "profile.jpeg"
      Reader.expectEnd "profile"
      checkJpeg jpeg
      return { name, jpeg }

def decodePayload (bytes : Bytes) : Except WireError Profile := (reader nfc).decode bytes

end Profile

end SChatCore.Wire
