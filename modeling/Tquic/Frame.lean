import Tquic.Codec
import Tquic.Ranges

/-! QUIC frames and their encoding, after `frame.rs`. -/

set_option autoImplicit false

namespace Tquic

open Lib Decoder Encoder

inductive PacketType where
  | versionNegotiation
  | initial
  | zeroRtt
  | handshake
  | retry
  | oneRtt
  deriving DecidableEq, Repr

/-- Offsets of stream data stay below this bound. -/
def maxStreamSize : Nat := 4611686018427387904

structure EcnCounts where
  ect0Count : Nat
  ect1Count : Nat
  ecnCeCount : Nat
  deriving DecidableEq

inductive Frame where
  | paddings (len : Nat)
  /-- `pmtuProbe` is for internal use and is not transmitted. -/
  | ping (pmtuProbe : Option (Nat × Nat))
  | ack (ackDelay : Nat) (ackRanges : RangeSet) (ecnCounts : Option EcnCounts)
  | resetStream (streamId errorCode finalSize : Nat)
  | stopSending (streamId errorCode : Nat)
  | crypto (offset length : Nat) (data : Bytes)
  | newToken (token : Bytes)
  | stream (streamId offset length : Nat) (fin : Bool) (data : Bytes)
  | maxData (max : Nat)
  | maxStreamData (streamId max : Nat)
  | maxStreams (bidi : Bool) (max : Nat)
  | dataBlocked (max : Nat)
  | streamDataBlocked (streamId max : Nat)
  | streamsBlocked (bidi : Bool) (max : Nat)
  | newConnectionId (seqNum retirePriorTo : Nat) (connId : ConnectionId)
      (resetToken : Vector UInt8 16)
  | retireConnectionId (seqNum : Nat)
  | pathChallenge (data : Vector UInt8 8)
  | pathResponse (data : Vector UInt8 8)
  | connectionClose (errorCode frameType : Nat) (reason : Bytes)
  | applicationClose (errorCode : Nat) (reason : Bytes)
  | handshakeDone
  | pathAbandon (dcidSeqNum errorCode : Nat) (reason : Bytes)
  | pathStatus (dcidSeqNum seqNum status : Nat)

namespace Frame

/-! ## Decoding -/

/-- Zero bytes at the front of the input, and the input after them. -/
def skipPaddings : Bytes → Nat × Bytes
  | [] => (0, [])
  | byte :: rest => if byte = 0 then ((skipPaddings rest).1 + 1, (skipPaddings rest).2)
      else (0, byte :: rest)

def readPaddings : Decoder Frame := fun input =>
  .ok (.paddings ((skipPaddings input).1 + 1), (skipPaddings input).2)

def readArray (len : Nat) : Decoder (Vector UInt8 len) := do
  let bytes ← read len
  if exact : bytes.length = len then return ⟨bytes.toArray, exact⟩ else throw .bufferTooShort

/-- The loop of `parse_ack_frame` over the ranges after the first one. -/
def parseAckRanges : Nat → Nat → RangeSet → Decoder RangeSet
  | 0, _, ackRanges => return ackRanges
  | count + 1, smallestAck, ackRanges => do
      let gap ← readVarint
      if smallestAck < 2 + gap then throw .frameEncodingError
      else
        let largestAck := smallestAck - gap - 2
        let ackRangeLen ← readVarint
        if largestAck < ackRangeLen then throw .frameEncodingError
        else
          let smallestAck := largestAck - ackRangeLen
          parseAckRanges count smallestAck (ackRanges.insert ⟨smallestAck, largestAck + 1⟩)

def readEcnCounts : Decoder EcnCounts := do
  let ect0Count ← readVarint
  let ect1Count ← readVarint
  let ecnCeCount ← readVarint
  return { ect0Count, ect1Count, ecnCeCount }

def parseAckFrame (withEcn : Bool) : Decoder Frame := do
  let largestAck ← readVarint
  let ackDelay ← readVarint
  let rangeCount ← readVarint
  let ackRangeLen ← readVarint
  if largestAck < ackRangeLen then throw .frameEncodingError
  else
    let smallestAck := largestAck - ackRangeLen
    let ackRanges ← parseAckRanges rangeCount smallestAck
      (RangeSet.default.insert ⟨smallestAck, largestAck + 1⟩)
    if withEcn then
      let ecnCounts ← readEcnCounts
      return .ack ackDelay ackRanges (some ecnCounts)
    else return .ack ackDelay ackRanges none

def readData (length : Nat) : Decoder Bytes := do
  let input ← get
  if length > input.length then throw .bufferTooShort else read length

def parseCryptoFrame : Decoder Frame := do
  let offset ← readVarint
  let length ← readVarint
  let data ← readData length
  return .crypto offset length data

/-- The three flags are the low bits of the frame type. -/
def parseStreamFrame (withOffset withLength fin : Bool) : Decoder Frame := do
  let streamId ← readVarint
  let offset ← if withOffset then readVarint else pure 0
  let length ← if withLength then readVarint else List.length <$> get
  if offset + length ≥ maxStreamSize then throw .frameEncodingError
  else
    let data ← readData length
    return .stream streamId offset length fin data

def parseNewConnectionIdFrame : Decoder Frame := do
  let seqNum ← readVarint
  let retirePriorTo ← readVarint
  let cid ← readWithU8Length
  let resetToken ← readArray 16
  return .newConnectionId seqNum retirePriorTo (.new cid) resetToken

def parseFields (frameType : Nat) : Decoder Frame := do
  match frameType with
  | 0x00 => readPaddings
  | 0x01 => return .ping none
  | 0x02 => parseAckFrame false
  | 0x03 => parseAckFrame true
  | 0x04 => return .resetStream (← readVarint) (← readVarint) (← readVarint)
  | 0x05 => return .stopSending (← readVarint) (← readVarint)
  | 0x06 => parseCryptoFrame
  | 0x07 => return .newToken (← readWithVarintLength)
  | 0x08 => parseStreamFrame false false false
  | 0x09 => parseStreamFrame false false true
  | 0x0a => parseStreamFrame false true false
  | 0x0b => parseStreamFrame false true true
  | 0x0c => parseStreamFrame true false false
  | 0x0d => parseStreamFrame true false true
  | 0x0e => parseStreamFrame true true false
  | 0x0f => parseStreamFrame true true true
  | 0x10 => return .maxData (← readVarint)
  | 0x11 => return .maxStreamData (← readVarint) (← readVarint)
  | 0x12 => return .maxStreams true (← readVarint)
  | 0x13 => return .maxStreams false (← readVarint)
  | 0x14 => return .dataBlocked (← readVarint)
  | 0x15 => return .streamDataBlocked (← readVarint) (← readVarint)
  | 0x16 => return .streamsBlocked true (← readVarint)
  | 0x17 => return .streamsBlocked false (← readVarint)
  | 0x18 => parseNewConnectionIdFrame
  | 0x19 => return .retireConnectionId (← readVarint)
  | 0x1a => return .pathChallenge (← readArray 8)
  | 0x1b => return .pathResponse (← readArray 8)
  | 0x1c => return .connectionClose (← readVarint) (← readVarint) (← readWithVarintLength)
  | 0x1d => return .applicationClose (← readVarint) (← readWithVarintLength)
  | 0x1e => return .handshakeDone
  | 0x15228c05 => return .pathAbandon (← readVarint) (← readVarint) (← readWithVarintLength)
  | 0x15228c06 => return .pathStatus (← readVarint) (← readVarint) (← readVarint)
  | _ => throw .frameEncodingError

def validateFrame : PacketType → Frame → Bool
  | _, .paddings _ => true
  | _, .ping _ => true
  | .zeroRtt, .ack _ _ _ => false
  | .zeroRtt, .crypto _ _ _ => false
  | .zeroRtt, .handshakeDone => false
  | .zeroRtt, .newToken _ => false
  | .zeroRtt, .pathResponse _ => false
  | .zeroRtt, .retireConnectionId _ => false
  | .zeroRtt, .connectionClose _ _ _ => false
  | _, .ack _ _ _ => true
  | _, .crypto _ _ _ => true
  | _, .connectionClose _ _ _ => true
  | .oneRtt, _ => true
  | .zeroRtt, _ => true
  | _, _ => false

def readFrame : Decoder Frame := do
  let frameType ← readVarint
  parseFields frameType

/-- Decode the frame at the front of `buf`, with the number of bytes it takes. -/
def fromBytes (buf : Bytes) (pkt : PacketType) : Except Error (Frame × Nat) :=
  match readFrame.run buf with
  | .error error => .error error
  | .ok (frame, rest) =>
      if validateFrame pkt frame then .ok (frame, buf.length - rest.length)
      else .error .invalidPacket

/-! ## Encoding -/

def writePaddings : Nat → Encoder Unit
  | 0 => return ()
  | left + 1 => do
      writeVarint 0x00
      writePaddings left

/-- The ranges after the first one, in descending order. -/
def writeAckRanges : Nat → List Range → Encoder Unit
  | _, [] => return ()
  | smallestAck, range :: rest => do
      writeVarint (smallestAck - range.stop - 1)
      writeVarint (range.stop - 1 - range.start)
      writeAckRanges range.start rest

def writeEcnCounts : Option EcnCounts → Encoder Unit
  | none => return ()
  | some counts => do
      writeVarint counts.ect0Count
      writeVarint counts.ect1Count
      writeVarint counts.ecnCeCount

def writeAckFrame (ackDelay : Nat) (ackRanges : RangeSet) (ecnCounts : Option EcnCounts) :
    Encoder Unit := do
  writeVarint (if ecnCounts.isNone then 0x02 else 0x03)
  match ackRanges.iter.reverse with
  | [] => throw .panic
  | first :: rest =>
      writeVarint (first.stop - 1)
      writeVarint ackDelay
      writeVarint rest.length
      writeVarint (first.stop - 1 - first.start)
      writeAckRanges first.start rest
      writeEcnCounts ecnCounts

def encodeCryptoHeader (offset length : Nat) : Encoder Unit := do
  writeVarint 0x06
  writeVarint offset
  writeVarintWithLen length 2

def encodeStreamHeader (streamId offset length : Nat) (fin : Bool) : Encoder Unit := do
  -- The offset and the length are always encoded.
  writeVarint (if fin then 0x0f else 0x0e)
  writeVarint streamId
  writeVarint offset
  writeVarintWithLen length 2

def writeFrame : Frame → Encoder Unit
  | .paddings len => writePaddings len
  | .ping _ => writeVarint 0x01
  | .ack ackDelay ackRanges ecnCounts => writeAckFrame ackDelay ackRanges ecnCounts
  | .resetStream streamId errorCode finalSize => do
      writeVarint 0x04
      writeVarint streamId
      writeVarint errorCode
      writeVarint finalSize
  | .stopSending streamId errorCode => do
      writeVarint 0x05
      writeVarint streamId
      writeVarint errorCode
  | .crypto offset length data => do
      encodeCryptoHeader offset length
      write data
  | .newToken token => do
      writeVarint 0x07
      writeVarint token.length
      write token
  | .stream streamId offset length fin data => do
      encodeStreamHeader streamId offset length fin
      write data
  | .maxData max => do
      writeVarint 0x10
      writeVarint max
  | .maxStreamData streamId max => do
      writeVarint 0x11
      writeVarint streamId
      writeVarint max
  | .maxStreams bidi max => do
      writeVarint (if bidi then 0x12 else 0x13)
      writeVarint max
  | .dataBlocked max => do
      writeVarint 0x14
      writeVarint max
  | .streamDataBlocked streamId max => do
      writeVarint 0x15
      writeVarint streamId
      writeVarint max
  | .streamsBlocked bidi max => do
      writeVarint (if bidi then 0x16 else 0x17)
      writeVarint max
  | .newConnectionId seqNum retirePriorTo connId resetToken => do
      writeVarint 0x18
      writeVarint seqNum
      writeVarint retirePriorTo
      writeU8 connId.bytes.length
      write connId.bytes
      write resetToken.toList
  | .retireConnectionId seqNum => do
      writeVarint 0x19
      writeVarint seqNum
  | .pathChallenge data => do
      writeVarint 0x1a
      write data.toList
  | .pathResponse data => do
      writeVarint 0x1b
      write data.toList
  | .connectionClose errorCode frameType reason => do
      writeVarint 0x1c
      writeVarint errorCode
      writeVarint frameType
      writeVarint reason.length
      write reason
  | .applicationClose errorCode reason => do
      writeVarint 0x1d
      writeVarint errorCode
      writeVarint reason.length
      write reason
  | .handshakeDone => writeVarint 0x1e
  | .pathAbandon dcidSeqNum errorCode reason => do
      writeVarint 0x15228c05
      writeVarint dcidSeqNum
      writeVarint errorCode
      writeVarint reason.length
      write reason
  | .pathStatus dcidSeqNum seqNum status => do
      writeVarint 0x15228c06
      writeVarint dcidSeqNum
      writeVarint seqNum
      writeVarint status

/-- Encode the frame into a buffer of `room` bytes: what was written, with its length. -/
def toBytes (frame : Frame) (room : Nat) : Except Error (Bytes × Nat) :=
  match frame.writeFrame.run { written := [], room } with
  | .error error => .error error
  | .ok (_, sink) => .ok (sink.written, room - sink.room)

def ackRangesWireLen : Nat → List Range → Nat
  | _, [] => 0
  | smallestAck, range :: rest =>
      encodeVarintLen (smallestAck - range.stop - 1) +
        encodeVarintLen (range.stop - 1 - range.start) + ackRangesWireLen range.start rest

/-- An empty set of ranges makes the source panic. -/
def ackWireLen (ackDelay : Nat) (ackRanges : RangeSet) (ecnCounts : Option EcnCounts) : Nat :=
  match ackRanges.iter.reverse with
  | [] => 0
  | first :: rest =>
      let len := 1 + encodeVarintLen (first.stop - 1) + encodeVarintLen ackDelay +
        encodeVarintLen rest.length + encodeVarintLen (first.stop - 1 - first.start) +
        ackRangesWireLen first.start rest
      match ecnCounts with
      | none => len
      | some counts => len + (encodeVarintLen counts.ect0Count + encodeVarintLen counts.ect1Count +
          encodeVarintLen counts.ecnCeCount)

def wireLen : Frame → Nat
  | .paddings len => len
  | .ping _ => 1
  | .ack ackDelay ackRanges ecnCounts => ackWireLen ackDelay ackRanges ecnCounts
  | .resetStream streamId errorCode finalSize =>
      1 + encodeVarintLen streamId + encodeVarintLen errorCode + encodeVarintLen finalSize
  | .stopSending streamId errorCode => 1 + encodeVarintLen streamId + encodeVarintLen errorCode
  | .crypto offset _ data => 1 + encodeVarintLen offset + 2 + data.length
  | .newToken token => 1 + encodeVarintLen token.length + token.length
  | .stream streamId offset _ _ data =>
      1 + encodeVarintLen streamId + encodeVarintLen offset + 2 + data.length
  | .maxData max => 1 + encodeVarintLen max
  | .maxStreamData streamId max => 1 + encodeVarintLen streamId + encodeVarintLen max
  | .maxStreams _ max => 1 + encodeVarintLen max
  | .dataBlocked max => 1 + encodeVarintLen max
  | .streamDataBlocked streamId max => 1 + encodeVarintLen streamId + encodeVarintLen max
  | .streamsBlocked _ max => 1 + encodeVarintLen max
  | .newConnectionId seqNum retirePriorTo connId resetToken =>
      1 + encodeVarintLen seqNum + encodeVarintLen retirePriorTo + 1 + connId.bytes.length +
        resetToken.toList.length
  | .retireConnectionId seqNum => 1 + encodeVarintLen seqNum
  | .pathChallenge _ => 1 + 8
  | .pathResponse _ => 1 + 8
  | .connectionClose errorCode frameType reason =>
      1 + encodeVarintLen errorCode + encodeVarintLen frameType + encodeVarintLen reason.length +
        reason.length
  | .applicationClose errorCode reason =>
      1 + encodeVarintLen errorCode + encodeVarintLen reason.length + reason.length
  | .handshakeDone => 1
  | .pathAbandon dcidSeqNum errorCode reason =>
      4 + encodeVarintLen dcidSeqNum + encodeVarintLen errorCode + encodeVarintLen reason.length +
        reason.length
  | .pathStatus dcidSeqNum seqNum status =>
      4 + encodeVarintLen dcidSeqNum + encodeVarintLen seqNum + encodeVarintLen status

end Frame

end Tquic
