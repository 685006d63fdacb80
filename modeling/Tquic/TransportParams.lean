import Tquic.Frame

/-! Transport parameters and their encoding, after `trans_param.rs`. -/

set_option autoImplicit false

namespace Tquic

open Lib Decoder Encoder

structure SocketAddrV4 where
  ip : Vector UInt8 4
  port : UInt16
  deriving DecidableEq

structure SocketAddrV6 where
  ip : Vector UInt8 16
  port : UInt16
  flowinfo : UInt32
  scopeId : UInt32
  deriving DecidableEq

structure PreferredAddress where
  ipv4Address : Option SocketAddrV4
  ipv6Address : Option SocketAddrV6
  connectionId : ConnectionId
  statelessResetToken : Vector UInt8 16
  deriving DecidableEq

namespace PreferredAddress

def wireLen (address : PreferredAddress) : Nat :=
  4 + 2 + 16 + 2 + 1 + address.connectionId.bytes.length + 16

def writeIpv4 : Option SocketAddrV4 → Encoder Unit
  | some addr => do
      write addr.ip.toList
      writeU16 addr.port.toNat
  | none => do
      write (Vector.replicate 4 0).toList
      writeU16 0

def writeIpv6 : Option SocketAddrV6 → Encoder Unit
  | some addr => do
      write addr.ip.toList
      writeU16 addr.port.toNat
  | none => do
      write (Vector.replicate 16 0).toList
      writeU16 0

def toBytes (address : PreferredAddress) : Encoder Unit := do
  writeIpv4 address.ipv4Address
  writeIpv6 address.ipv6Address
  writeU8 address.connectionId.bytes.length
  write address.connectionId.bytes
  write address.statelessResetToken.toList

def readIpv4 : Decoder (Option SocketAddrV4) := do
  let ip ← Frame.readArray 4
  let port ← readU16
  return if ip = .replicate 4 0 ∧ port = 0 then none else some { ip, port := .ofNat port }

def readIpv6 : Decoder (Option SocketAddrV6) := do
  let ip ← Frame.readArray 16
  let port ← readU16
  return if ip = .replicate 16 0 ∧ port = 0 then none
    else some { ip, port := .ofNat port, flowinfo := 0, scopeId := 0 }

def fromBytes : Decoder PreferredAddress := do
  let ipv4Address ← readIpv4
  let ipv6Address ← readIpv6
  let cidLen ← readU8
  let cid ← read cidLen
  let token ← Frame.readArray 16
  return { ipv4Address, ipv6Address, connectionId := .new cid, statelessResetToken := token }

end PreferredAddress

structure TransportParams where
  originalDestinationConnectionId : Option ConnectionId
  maxIdleTimeout : Nat
  statelessResetToken : Option (BitVec 128)
  maxUdpPayloadSize : Nat
  initialMaxData : Nat
  initialMaxStreamDataBidiLocal : Nat
  initialMaxStreamDataBidiRemote : Nat
  initialMaxStreamDataUni : Nat
  initialMaxStreamsBidi : Nat
  initialMaxStreamsUni : Nat
  ackDelayExponent : Nat
  maxAckDelay : Nat
  disableActiveMigration : Bool
  preferredAddress : Option PreferredAddress
  activeConnIdLimit : Nat
  initialSourceConnectionId : Option ConnectionId
  retrySourceConnectionId : Option ConnectionId
  enableMultipath : Bool
  disableEncryption : Bool
  deriving DecidableEq

namespace TransportParams

def default : TransportParams where
  originalDestinationConnectionId := none
  maxIdleTimeout := 0
  statelessResetToken := none
  maxUdpPayloadSize := 65527
  initialMaxData := 0
  initialMaxStreamDataBidiLocal := 0
  initialMaxStreamDataBidiRemote := 0
  initialMaxStreamDataUni := 0
  initialMaxStreamsBidi := 0
  initialMaxStreamsUni := 0
  ackDelayExponent := 3
  maxAckDelay := 25
  disableActiveMigration := false
  preferredAddress := none
  activeConnIdLimit := 2
  initialSourceConnectionId := none
  retrySourceConnectionId := none
  enableMultipath := false
  disableEncryption := false

/-! ## Decoding -/

def readChecked (valid : Nat → Bool) : Decoder Nat := do
  let value ← readVarint
  if valid value then return value else throw .transportParameterError

/-- Store the parameter `id`, whose value is the input. Some parameters are only sent by a
server; unknown ones are ignored. -/
def setParam (isServer : Bool) (id : Nat) (tp : TransportParams) : Decoder TransportParams :=
  match id with
  | 0x00 => do
      if isServer then throw .transportParameterError
      else return { tp with originalDestinationConnectionId := some (.new (← get)) }
  | 0x01 => return { tp with maxIdleTimeout := ← readVarint }
  | 0x02 => do
      if isServer then throw .transportParameterError
      else return { tp with statelessResetToken := some (.ofNat 128 (← readUint 16)) }
  | 0x03 => return { tp with maxUdpPayloadSize := ← readChecked (1200 ≤ ·) }
  | 0x04 => return { tp with initialMaxData := ← readVarint }
  | 0x05 => return { tp with initialMaxStreamDataBidiLocal := ← readVarint }
  | 0x06 => return { tp with initialMaxStreamDataBidiRemote := ← readVarint }
  | 0x07 => return { tp with initialMaxStreamDataUni := ← readVarint }
  | 0x08 => return { tp with initialMaxStreamsBidi := ← readChecked (· ≤ maxStreamsPerType) }
  | 0x09 => return { tp with initialMaxStreamsUni := ← readChecked (· ≤ maxStreamsPerType) }
  | 0x0a => return { tp with ackDelayExponent := ← readChecked (· ≤ 20) }
  | 0x0b => return { tp with maxAckDelay := ← readChecked (· < 2 ^ 14) }
  | 0x0c => return { tp with disableActiveMigration := true }
  | 0x0d => do
      if isServer then throw .transportParameterError
      else return { tp with preferredAddress := some (← PreferredAddress.fromBytes) }
  | 0x0e => return { tp with activeConnIdLimit := ← readChecked (2 ≤ ·) }
  | 0x0f => return { tp with initialSourceConnectionId := some (.new (← get)) }
  | 0x10 => do
      if isServer then throw .transportParameterError
      else return { tp with retrySourceConnectionId := some (.new (← get)) }
  | 0x0f739bbc1b666d05 => return { tp with enableMultipath := true }
  | 0xbaad => return { tp with disableEncryption := true }
  | _ => return tp

/-- The loop of `decode`. Every turn takes at least two bytes, so that as many turns as there
are bytes are enough. -/
def decodeParams (isServer : Bool) : Nat → List Nat → TransportParams → Bytes →
    Except Error TransportParams
  | _, _, tp, [] => .ok tp
  | 0, _, _, _ :: _ => .error .panic
  | turns + 1, foundParams, tp, buf => do
      let (id, buf) ← readVarint.run buf
      if id ∈ foundParams then throw .transportParameterError
      else
        let (val, buf) ← readWithVarintLength.run buf
        let (tp, _) ← (setParam isServer id tp).run val
        decodeParams isServer turns (id :: foundParams) tp buf

def decode (buf : Bytes) (isServer : Bool) : Except Error (TransportParams × Nat) := do
  let tp ← decodeParams isServer buf.length [] default buf
  return (tp, buf.length)

/-! ## Encoding -/

def writeWhen (condition : Bool) (writer : Encoder Unit) : Encoder Unit :=
  if condition then writer else return ()

def writeSome {α : Type} (value : Option α) (writer : α → Encoder Unit) : Encoder Unit :=
  match value with
  | some value => writer value
  | none => return ()

def writeInt (id value : Nat) : Encoder Unit := do
  writeVarint id
  writeVarint (encodeVarintLen value)
  writeVarint value

def writeCid (id : Nat) (cid : ConnectionId) : Encoder Unit := do
  writeVarint id
  writeVarint cid.bytes.length
  write cid.bytes

def writeFlag (id : Nat) : Encoder Unit := do
  writeVarint id
  writeVarint 0

def writeToken (id : Nat) (token : BitVec 128) : Encoder Unit := do
  writeVarint id
  writeVarint 16
  writeUint 16 token.toNat

def writePreferredAddress (id : Nat) (address : PreferredAddress) : Encoder Unit := do
  writeVarint id
  writeVarint address.wireLen
  address.toBytes

def writeParams (tp : TransportParams) (isServer : Bool) : Encoder Unit := do
  writeWhen isServer (writeSome tp.originalDestinationConnectionId (writeCid 0x00))
  writeWhen (tp.maxIdleTimeout ≠ 0) (writeInt 0x01 tp.maxIdleTimeout)
  writeWhen isServer (writeSome tp.statelessResetToken (writeToken 0x02))
  writeWhen (tp.maxUdpPayloadSize ≠ 0) (writeInt 0x03 tp.maxUdpPayloadSize)
  writeWhen (tp.initialMaxData ≠ 0) (writeInt 0x04 tp.initialMaxData)
  writeWhen (tp.initialMaxStreamDataBidiLocal ≠ 0) (writeInt 0x05 tp.initialMaxStreamDataBidiLocal)
  writeWhen (tp.initialMaxStreamDataBidiRemote ≠ 0)
    (writeInt 0x06 tp.initialMaxStreamDataBidiRemote)
  writeWhen (tp.initialMaxStreamDataUni ≠ 0) (writeInt 0x07 tp.initialMaxStreamDataUni)
  writeWhen (tp.initialMaxStreamsBidi ≠ 0) (writeInt 0x08 tp.initialMaxStreamsBidi)
  writeWhen (tp.initialMaxStreamsUni ≠ 0) (writeInt 0x09 tp.initialMaxStreamsUni)
  writeWhen (tp.ackDelayExponent ≠ 0) (writeInt 0x0a tp.ackDelayExponent)
  writeWhen (tp.maxAckDelay ≠ 0) (writeInt 0x0b tp.maxAckDelay)
  writeWhen tp.disableActiveMigration (writeFlag 0x0c)
  -- The role is not looked at here.
  writeSome tp.preferredAddress (writePreferredAddress 0x0d)
  writeWhen (2 ≤ tp.activeConnIdLimit) (writeInt 0x0e tp.activeConnIdLimit)
  writeSome tp.initialSourceConnectionId (writeCid 0x0f)
  writeWhen isServer (writeSome tp.retrySourceConnectionId (writeCid 0x10))
  writeWhen tp.enableMultipath (writeFlag 0x0f739bbc1b666d05)
  writeWhen tp.disableEncryption (writeFlag 0xbaad)

/-- Encode the parameters into a buffer of `room` bytes: what was written, with its length. -/
def encode (tp : TransportParams) (isServer : Bool) (room : Nat) : Except Error (Bytes × Nat) :=
  match (tp.writeParams isServer).run { written := [], room } with
  | .error error => .error error
  | .ok (_, sink) => .ok (sink.written, room - sink.room)

end TransportParams

end Tquic
