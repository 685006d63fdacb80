import Tquic.H3.Basic

/-! The frames of HTTP/3 and their codec, after `h3/frame.rs`. -/

set_option autoImplicit false

namespace Tquic.H3

open Lib

def dataFrameType : Nat := 0x0
def headersFrameType : Nat := 0x1
def cancelPushFrameType : Nat := 0x3
def settingsFrameType : Nat := 0x4
def pushPromiseFrameType : Nat := 0x5
def goawayFrameType : Nat := 0x7
def maxPushIdFrameType : Nat := 0xd
def priorityUpdateFrameRequestType : Nat := 0xf0700
def priorityUpdateFramePushType : Nat := 0xf0701

def settingsQpackMaxTableCapacity : Nat := 0x1
def settingsMaxFieldSectionSize : Nat := 0x6
def settingsQpackBlockedStreams : Nat := 0x7
def settingsEnableConnectProtocol : Nat := 0x8

def maxSettingsPayloadSize : Nat := 256

inductive Http3Frame where
  | data (data : Bytes)
  | headers (fieldSection : Bytes)
  | cancelPush (pushId : Nat)
  | settings (maxFieldSectionSize qpackMaxTableCapacity qpackBlockedStreams
      connectProtocolEnabled : Option Nat) (raw : Option (List (Nat × Nat)))
  | pushPromise (pushId : Nat) (fieldSection : Bytes)
  | goAway (id : Nat)
  | maxPushId (pushId : Nat)
  | priorityUpdateRequest (prioritizedElementId : Nat) (priorityFieldValue : Bytes)
  | priorityUpdatePush (prioritizedElementId : Nat) (priorityFieldValue : Bytes)
  | unknown (rawType payloadLength : Nat)
  deriving DecidableEq

namespace Http3Frame

open Http3Decoder Http3Encoder

/-! ## Encoding -/

def settingLen (identifier : Nat) : Option Nat → Nat
  | none => 0
  | some val => encodeVarintLen identifier + encodeVarintLen val

def writeSetting (identifier : Nat) : Option Nat → Http3Encoder Unit
  | none => return ()
  | some val => do
      writeVarint identifier
      writeVarint val

/-- The number of bytes that were written. -/
def encodeSettingsFrame (maxFieldSectionSize qpackMaxTableCapacity qpackBlockedStreams
    connectProtocolEnabled : Option Nat) : Http3Encoder Nat := Writer.measured do
  let frameLen := settingLen settingsMaxFieldSectionSize maxFieldSectionSize +
    settingLen settingsQpackMaxTableCapacity qpackMaxTableCapacity +
    settingLen settingsQpackBlockedStreams qpackBlockedStreams +
    settingLen settingsEnableConnectProtocol connectProtocolEnabled
  writeVarint settingsFrameType
  writeVarint frameLen
  writeSetting settingsMaxFieldSectionSize maxFieldSectionSize
  writeSetting settingsQpackMaxTableCapacity qpackMaxTableCapacity
  writeSetting settingsQpackBlockedStreams qpackBlockedStreams
  writeSetting settingsEnableConnectProtocol connectProtocolEnabled

def writeBytesFrame (frameType : Nat) (payload : Bytes) : Http3Encoder Unit := do
  writeVarint frameType
  writeVarint payload.length
  write payload

/-- A frame whose payload is an identifier. -/
def writeIdFrame (frameType id : Nat) : Http3Encoder Unit := do
  writeVarint frameType
  writeVarint (encodeVarintLen id)
  writeVarint id

def writeIdBytesFrame (frameType id : Nat) (payload : Bytes) : Http3Encoder Unit := do
  let len := encodeVarintLen id + payload.length
  writeVarint frameType
  writeVarint len
  writeVarint id
  write payload

def writeFrame : Http3Frame → Http3Encoder Unit
  | .data bytes => writeBytesFrame dataFrameType bytes
  | .headers fieldSection => writeBytesFrame headersFrameType fieldSection
  | .cancelPush pushId => writeIdFrame cancelPushFrameType pushId
  | .settings maxFieldSectionSize qpackMaxTableCapacity qpackBlockedStreams
      connectProtocolEnabled _ => do
      -- the source cuts the buffer by the length that is returned, which is what was written
      let _ ← encodeSettingsFrame maxFieldSectionSize qpackMaxTableCapacity qpackBlockedStreams
        connectProtocolEnabled
      return ()
  | .pushPromise pushId fieldSection =>
      writeIdBytesFrame pushPromiseFrameType pushId fieldSection
  | .goAway id => writeIdFrame goawayFrameType id
  | .maxPushId pushId => writeIdFrame maxPushIdFrameType pushId
  | .priorityUpdateRequest prioritizedElementId priorityFieldValue =>
      writeIdBytesFrame priorityUpdateFrameRequestType prioritizedElementId priorityFieldValue
  | .priorityUpdatePush prioritizedElementId priorityFieldValue =>
      writeIdBytesFrame priorityUpdateFramePushType prioritizedElementId priorityFieldValue
  | .unknown _ _ => throw .panic

/-- Encode the frame into a buffer of `room` bytes: what was written, with its length. -/
def encode (frame : Http3Frame) (room : Nat) : Except Http3Error (Bytes × Nat) :=
  match frame.writeFrame.run { written := [], room } with
  | .error error => .error error
  | .ok (_, sink) => .ok (sink.written, room - sink.room)

/-! ## Decoding -/

/-- The settings of a SETTINGS frame as they are collected. -/
structure Settings where
  maxFieldSectionSize : Option Nat := none
  qpackMaxTableCapacity : Option Nat := none
  qpackBlockedStreams : Option Nat := none
  connectProtocolEnabled : Option Nat := none
  raw : List (Nat × Nat) := []

/-- One turn of the loop of `decode_settings_frame`. -/
def Settings.set (found : Settings) (identifier value : Nat) : Except Http3Error Settings :=
  let found := { found with raw := found.raw ++ [(identifier, value)] }
  if identifier = settingsMaxFieldSectionSize then
    .ok { found with maxFieldSectionSize := some value }
  else if identifier = settingsQpackMaxTableCapacity then
    .ok { found with qpackMaxTableCapacity := some value }
  else if identifier = settingsQpackBlockedStreams then
    .ok { found with qpackBlockedStreams := some value }
  else if identifier = settingsEnableConnectProtocol then
    if value > 1 then .error .settingsError
    else .ok { found with connectProtocolEnabled := some value }
  -- identifiers that HTTP/2 used
  else if identifier ∈ [0x0, 0x2, 0x3, 0x4, 0x5] then .error .settingsError
  else .ok found

/-- The loop of `decode_settings_frame`. Every turn takes at least two bytes, so that as many
turns as there are bytes are enough. -/
def decodeSettings : Nat → Settings → Bytes → Except Http3Error Settings
  | _, found, [] => .ok found
  | 0, _, _ :: _ => .error .panic
  | turns + 1, found, b => do
      let (identifier, b) ← readVarint.run b
      let (value, b) ← readVarint.run b
      let found ← found.set identifier value
      decodeSettings turns found b

def decodeSettingsFrame (payloadLength : Nat) (b : Bytes) : Except Http3Error Http3Frame := do
  if payloadLength > maxSettingsPayloadSize then throw .excessiveLoad
  let found ← decodeSettings b.length {} b
  return .settings found.maxFieldSectionSize found.qpackMaxTableCapacity
    found.qpackBlockedStreams found.connectProtocolEnabled (some found.raw)

/-- An identifier and the bytes that the length of the payload leaves. The length of the
identifier is computed, not measured. -/
def readIdBytes (payloadLength : Nat) : Http3Decoder (Nat × Bytes) := do
  let id ← readVarint
  if payloadLength < encodeVarintLen id then throw .panic
  let bytes ← read (payloadLength - encodeVarintLen id)
  return (id, bytes)

def decodePushPromise (payloadLength : Nat) (b : Bytes) : Except Http3Error Http3Frame := do
  let ((pushId, fieldSection), _) ← (readIdBytes payloadLength).run b
  return .pushPromise pushId fieldSection

def decodePriorityUpdate (frameType payloadLength : Nat) (b : Bytes) :
    Except Http3Error Http3Frame := do
  let ((prioritizedElementId, priorityFieldValue), _) ← (readIdBytes payloadLength).run b
  if frameType = priorityUpdateFrameRequestType then
    return .priorityUpdateRequest prioritizedElementId priorityFieldValue
  else if frameType = priorityUpdateFramePushType then
    return .priorityUpdatePush prioritizedElementId priorityFieldValue
  else throw .panic

/-- Decode the payload of a frame from the front of `buf`. -/
def decodePayload (frameType payloadLength : Nat) (buf : Bytes) : Except Http3Error Http3Frame := do
  if frameType = dataFrameType then
    let (bytes, _) ← (read payloadLength).run buf
    return .data bytes
  else if frameType = headersFrameType then
    let (fieldSection, _) ← (read payloadLength).run buf
    return .headers fieldSection
  else if frameType = cancelPushFrameType then
    let (pushId, _) ← readVarint.run buf
    return .cancelPush pushId
  else if frameType = settingsFrameType then decodeSettingsFrame payloadLength buf
  else if frameType = pushPromiseFrameType then decodePushPromise payloadLength buf
  else if frameType = goawayFrameType then
    let (id, _) ← readVarint.run buf
    return .goAway id
  else if frameType = maxPushIdFrameType then
    let (pushId, _) ← readVarint.run buf
    return .maxPushId pushId
  else if frameType = priorityUpdateFrameRequestType ∨ frameType = priorityUpdateFramePushType then
    decodePriorityUpdate frameType payloadLength buf
  else return .unknown frameType payloadLength

def decode (buf : Bytes) : Except Http3Error Http3Frame := do
  let (frameType, buf) ← readVarint.run buf
  let (payloadLength, buf) ← readVarint.run buf
  decodePayload frameType payloadLength buf

end Http3Frame

end Tquic.H3
