import SChatCore.Wire.Bin

namespace SChatCore.Wire

def ttl1h : UInt32 := 3600

def ttl24h : UInt32 := 86400

def ttlNever : UInt32 := 0

def ttlOptions : List UInt32 := [ttl1h, 21600, 43200, ttl24h, 259200, 604800, 1209600, ttlNever]

def isAllowedTtl (ttl : UInt32) : Bool := ttlOptions.contains ttl

structure ChatPolicy where
  op : UInt8
  ttlSec : UInt32
  screenshot : Bool
  attachDownload : Bool
  wantAttach : Bool
  wantEmoji : Bool
  wantPresence : Bool
  wantTyping : Bool
  wantReceipts : Bool
  capId : UInt8
  capOn : Bool
  proposeId : Array16
  deriving DecidableEq

namespace ChatPolicy

def opRulePropose : UInt8 := 1

def opRuleAccept : UInt8 := 2

def opCapSet : UInt8 := 3

def opSync : UInt8 := 4

def flagScreenshot : UInt32 := 1

def flagAttachDl : UInt32 := 2

def flagWantAttach : UInt32 := 4

def flagWantEmoji : UInt32 := 8

def flagWantPresence : UInt32 := 16

def flagWantTyping : UInt32 := 32

def flagWantReceipts : UInt32 := 64

def capIdAttach : UInt8 := 0

def capIdEmoji : UInt8 := 1

def capIdPresence : UInt8 := 2

def capIdTyping : UInt8 := 3

def capIdReceipts : UInt8 := 4

def capBit (capId : UInt8) : UInt32 :=
  if capId = capIdAttach then flagWantAttach
  else if capId = capIdEmoji then flagWantEmoji
  else if capId = capIdPresence then flagWantPresence
  else if capId = capIdTyping then flagWantTyping
  else if capId = capIdReceipts then flagWantReceipts
  else 0

def size : Nat := 28

def flags (policy : ChatPolicy) : UInt32 :=
  (if policy.screenshot then flagScreenshot else 0) |||
    (if policy.attachDownload then flagAttachDl else 0) |||
    (if policy.wantAttach then flagWantAttach else 0) |||
    (if policy.wantEmoji then flagWantEmoji else 0) |||
    (if policy.wantPresence then flagWantPresence else 0) |||
    (if policy.wantTyping then flagWantTyping else 0) |||
    (if policy.wantReceipts then flagWantReceipts else 0)

def validate (policy : ChatPolicy) : Except WireError Unit :=
  let op := policy.op
  let ttl := policy.ttlSec
  let capId := policy.capId
  if ¬ (opRulePropose ≤ op ∧ op ≤ opSync) then
    .error (.badField "policy.op" s!"op {op}")
  else if op ≠ opCapSet ∧ ¬ isAllowedTtl ttl then
    .error (.badField "policy.ttl_sec" s!"ttl {ttl} not in options")
  else if op = opCapSet ∧ capId > capIdReceipts then
    .error (.badField "policy.cap_id" s!"cap id {capId}")
  else .ok ()

def encodePayload (policy : ChatPolicy) : Except WireError Bytes := do
  policy.validate
  return [1, policy.op] ++ u32be policy.ttlSec ++ u32be policy.flags ++
    [policy.capId, if policy.capOn then 1 else 0] ++ policy.proposeId.toList

def reader : Reader ChatPolicy := do
  let version ← Reader.u8 "policy.version"
  if version ≠ 1 then throw (.badVersion "policy" version)
  else do
    let op ← Reader.u8 "policy.op"
    let ttlSec ← Reader.u32be "policy.ttl"
    let flags ← Reader.u32be "policy.flags"
    let capId ← Reader.u8 "policy.cap_id"
    let capOn ← Reader.u8 "policy.cap_on"
    if capOn > 1 then throw (.badField "policy.cap_on" s!"{capOn}")
    else do
      let proposeId ← Reader.takeArray 16 "policy.propose_id"
      Reader.expectEnd "policy"
      let out : ChatPolicy := {
        op, ttlSec, capId, proposeId
        screenshot := flags &&& flagScreenshot ≠ 0
        attachDownload := flags &&& flagAttachDl ≠ 0
        wantAttach := flags &&& flagWantAttach ≠ 0
        wantEmoji := flags &&& flagWantEmoji ≠ 0
        wantPresence := flags &&& flagWantPresence ≠ 0
        wantTyping := flags &&& flagWantTyping ≠ 0
        wantReceipts := flags &&& flagWantReceipts ≠ 0
        capOn := capOn = 1 }
      out.validate
      return out

def decodePayload (bytes : Bytes) : Except WireError ChatPolicy :=
  if bytes.length ≠ size then
    .error (.badLength "policy" bytes.length size)
  else reader.decode bytes

end ChatPolicy

end SChatCore.Wire
