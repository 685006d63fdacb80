import Tquic.Connection.SendFrames
import Tquic.PacketHeaders

/-! A packet from its header to its encryption, after `send_packet` of `connection.rs` and
`encrypt_packet` of `packet.rs`. The type of the packet has been selected before. -/

set_option autoImplicit false

namespace Tquic

open Lib

/-- The length of the tag of each AEAD algorithm. -/
def tagLen : Nat := 16

/-- A key for packets that are sent. The payload is encrypted in a buffer with `room` bytes. -/
structure Seal where
  sealPayload (cidSeq : Option Nat) (pktNum : Nat) (hdr payload : Bytes) (room : Nat) :
    Except Error Bytes
  newMask : Bytes → Except Error (Vector UInt8 5)

/-- Encrypt the payload and protect the header. `out` is what stands in the buffer: the sample may
reach behind the packet. -/
def encryptPacket (key : Seal) (out : Bytes) (cidSeq : Option Nat) (pktNum pktNumLen : Nat)
    (hdr payload : Bytes) : Except Error Bytes :=
  if out.length < hdr.length + payload.length then .error .bufferTooShort
  else
    match key.sealPayload cidSeq pktNum hdr payload (out.length - hdr.length) with
    | .error error => .error error
    | .ok ciphertext =>
      match encryptHeader key.newMask hdr pktNumLen
          (ciphertext ++ out.drop (hdr.length + ciphertext.length)) with
      | .error error => .error error
      | .ok hdr => .ok (hdr ++ ciphertext)

namespace Connection

/-- A connection and what only the packet around the frames depends on. The key is the one for the
level of the packet. -/
structure PacketSender where
  conn : FrameWriter
  draining : Bool
  disableEncryption : Bool
  version : UInt32
  keyPhase : Bool
  sealKey : Option Seal
  nextPktNum : Nat
  largestAcked : Option Nat
  needElicitAck : Bool
  lossProbes : Nat

/-- A packet before its frames are written: the header up to the length field, the packet number
and the room for frames. -/
structure PacketPlan where
  dcidSeq : Nat
  key : Seal
  hdr : Bytes
  pktNumLen : Nat
  number : Bytes
  overhead : Nat
  left : Nat

def PacketPlan.pktNumOffset (plan : PacketPlan) (pktType : PacketType) : Nat :=
  plan.hdr.length + (if pktType = .oneRtt then 0 else lengthFieldLen)

def PacketPlan.payloadOffset (plan : PacketPlan) (pktType : PacketType) : Nat :=
  plan.pktNumOffset pktType + plan.number.length

/-- A packet that was written. -/
structure PacketBytes where
  pktType : PacketType
  isPmtuProbe : Bool
  pktNumOffset : Nat
  pktNumLen : Nat
  payloadLen : Nat
  bytes : Bytes

namespace PacketSender

def required {α : Type} : Option α → Except Error α
  | some value => .ok value
  | none => .error .internalError

def scid (sender : PacketSender) (pktType : PacketType) : Except Error ConnectionId :=
  match sender.conn.path.scidSeq with
  | some scidSeq => (required (sender.conn.cids.scids.get scidSeq)).map (·.cid)
  | none => if pktType = .oneRtt then .ok (.new []) else .error .internalError

def isEncryptionDisabled (sender : PacketSender) (pktType : PacketType) : Bool :=
  pktType = .oneRtt && sender.disableEncryption

/-- What comes before the frames. There must be room for a payload that is just long enough. -/
def plan (sender : PacketSender) (outLen left : Nat) (pktType : PacketType) :
    Except Error PacketPlan := do
  if outLen < left then throw .invalidState
  if sender.draining then throw .done
  let _ ← pktType.toLevel
  let pktNumLen := packetNumLen sender.nextPktNum sender.largestAcked
  let dcidSeq ← required sender.conn.path.dcidSeq
  let dcid ← required (sender.conn.cids.dcids.get dcidSeq)
  let scid ← sender.scid pktType
  let hdr : Header :=
    { pktType
      pktNumLen
      pktNum := 0
      keyPhase := sender.keyPhase
      version := sender.version
      dcid := dcid.cid
      scid
      token := if !sender.conn.isServer && pktType = .initial then sender.conn.token else none }
  let (hdr, hdrOffset) ← hdr.toBytes left
  let pktNumOffset := hdrOffset + (if pktType = .oneRtt then 0 else lengthFieldLen)
  let key ← required sender.sealKey
  let overhead :=
    if sender.isEncryptionDisabled pktType then pktNumOffset + pktNumLen
    else pktNumOffset + pktNumLen + tagLen
  if left < overhead then throw .bufferTooShort
  let left := left - overhead
  if left < minPayloadLen then throw .bufferTooShort
  let (_, number) ← (encodePacketNum sender.nextPktNum pktNumLen).run
    { written := [], room := pktNumLen }
  return { dcidSeq, key, hdr, pktNumLen, number := number.written, overhead, left }

def start (sender : PacketSender) (plan : PacketPlan) : FrameWriter :=
  { sender.conn with
    st :=
      { ackElicitRequired := sender.needElicitAck
        isProbe := sender.lossProbes > 0
        overhead := plan.overhead } }

def lengthField (plan : PacketPlan) (pktType : PacketType) (payloadLen : Nat) :
    Except Error Bytes :=
  if pktType = .oneRtt then .ok []
  else
    match (Encoder.writeVarintWithLen (plan.pktNumLen + payloadLen + tagLen) lengthFieldLen).run
        { written := [], room := lengthFieldLen } with
    | .error error => .error error
    | .ok (_, field) => .ok field.written

/-- What comes after the frames. -/
def finish (sender : PacketSender) (plan : PacketPlan) (out : Bytes) (pktType : PacketType)
    (conn : FrameWriter) : Except Error PacketBytes × PacketSender :=
  let encrypted : Except Error Bytes := do
    let field ← lengthField plan pktType conn.st.written
    let hdr := plan.hdr ++ (field ++ plan.number)
    if sender.isEncryptionDisabled pktType then return hdr ++ conn.st.payload
    else
      encryptPacket plan.key out (if conn.enableMultipath then some plan.dcidSeq else none)
        sender.nextPktNum plan.pktNumLen hdr conn.st.payload
  match encrypted with
  | .error error => (.error error, { sender with conn })
  | .ok bytes =>
    (.ok
      { pktType
        isPmtuProbe := conn.st.isPmtuProbe
        pktNumOffset := plan.pktNumOffset pktType
        pktNumLen := plan.pktNumLen
        payloadLen := conn.st.written
        bytes },
      { sender with conn, nextPktNum := sender.nextPktNum + 1 })

/-- Write a packet into the buffer `out`, of which `left` bytes may be used. The writers may end
early if they have written something; `none` if they do not end. -/
def sendPacket (sender : PacketSender) (out : Bytes) (left : Nat) (pktType : PacketType)
    (first hasInitial : Bool) : Option (Except Error PacketBytes × PacketSender) :=
  match sender.plan out.length left pktType with
  | .error error => some (.error error, sender)
  | .ok plan =>
    match FrameWriter.sendFrames (out.length - plan.payloadOffset pktType) plan.left pktType first
        hasInitial (sender.start plan) with
    | none => none
    | some (.ok _, conn) => some (sender.finish plan out pktType conn)
    | some (.error error, conn) =>
      if error = .done ∧ conn.st.written > 0 then some (sender.finish plan out pktType conn)
      else some (.error error, { sender with conn })

end PacketSender

end Connection

end Tquic
