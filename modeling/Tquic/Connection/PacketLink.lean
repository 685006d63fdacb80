import Tquic.Connection.Acknowledgements
import Tquic.Connection.RecoveryRun
import Tquic.Connection.StreamLink

/-! The frames of a stream in packets: the sending end numbers its packets and finds them acknowledged
or lost, the receiving end drops duplicates and writes ACK frames. The network loses, repeats and
reorders the packets and the ACK frames. -/

set_option autoImplicit false

namespace Tquic.Connection

open Lib

/-- A packet as it travels. Its space is known to both ends. -/
structure Packet where
  spaceId : SpaceId
  pktNum : Nat
  frames : List RangeBuf
  deriving DecidableEq

structure PacketLink where
  link : StreamLink
  sender : Sender RangeBuf
  -- All packets that were built, the newest first.
  built : List Packet
  -- Packets on the network.
  wire : List Packet
  receiver : Acknowledger
  -- Packets whose frames the receiving end has processed, the newest first.
  processed : List Packet

namespace PacketLink

def new (window maxWindow : Nat) (recovery : Recovery) (receiver : Acknowledger) : PacketLink :=
  { link := .new window maxWindow, sender := .new recovery, built := [], wire := [], receiver,
    processed := [] }

/-- What the applications and flow control do. -/
inductive StreamOp where
  | write (data : Bytes) (fin : Bool)
  | read (outLen : Nat)
  | announce (now : Instant) (srtt : Duration)
  | tune (now : Instant) (srtt : Duration)
  | deliverLimit (limit : Nat)
  | dropLimit (limit : Nat)
  | ackLimit (limit : Nat)
  | loseLimit (limit : Nat)

def StreamOp.toOp : StreamOp → StreamLink.Op
  | .write data fin => .write data fin
  | .read outLen => .read outLen
  | .announce now srtt => .announce now srtt
  | .tune now srtt => .tune now srtt
  | .deliverLimit limit => .deliverLimit limit
  | .dropLimit limit => .dropLimit limit
  | .ackLimit limit => .ackLimit limit
  | .loseLimit limit => .loseLimit limit

inductive Op where
  | stream (op : StreamOp)
  | sendPacket (pkt : SentPacket RangeBuf) (outLens : List Nat) (spaceId : SpaceId)
      (status : HandshakeStatus) (now : Instant)
  | recvPacket (packet : Packet) (ackEliciting probing : Bool) (now : Instant)
  | dropPacket (packet : Packet)
  -- What the receiving end does beside receiving packets.
  | receiver (op : Acknowledger.Op)
  | recvAck (spaceId : SpaceId) (ackDelay : Nat) (ackRanges : RangeSet)
      (ecnCounts : Option EcnCounts) (delay : Nat) (status : HandshakeStatus) (now : Instant)
  | lossTimeout (spaceId : SpaceId) (status : HandshakeStatus) (now : Instant)
  | spaceDiscarded (spaceId : SpaceId) (status : HandshakeStatus) (now : Instant)
  | spaceAdded
  | processAcked (spaceId : SpaceId)
  | processLost (spaceId : SpaceId)

/-- Write frames into a packet, each into a buffer of the given length. -/
def transmitAll : List Nat → StreamLink → Option (StreamLink × List RangeBuf)
  | [], link => some (link, [])
  | outLen :: rest, link =>
    match link.transmit outLen with
    | none => none
    | some next =>
      (transmitAll rest next).map fun written => (written.1, next.sent.take 1 ++ written.2)

/-- The next packet number of a space is above all numbers used in it. -/
def unused (state : PacketLink) (spaceId : SpaceId) (pktNum : Nat) : Bool :=
  state.built.all fun packet => packet.spaceId.key ≠ spaceId.key || packet.pktNum < pktNum

def sendPacket (state : PacketLink) (pkt : SentPacket RangeBuf) (outLens : List Nat)
    (spaceId : SpaceId) (status : HandshakeStatus) (now : Instant) : Option PacketLink :=
  if state.unused spaceId pkt.pktNum && pkt.pktNum < 2 ^ 62 then
    match transmitAll outLens state.link with
    | none => none
    | some (link, frames) =>
      let packet : Packet := ⟨spaceId, pkt.pktNum, frames⟩
      (state.sender.step (.packetSent { pkt with frames } spaceId status now)).map fun sender =>
        { state with link, sender, built := packet :: state.built, wire := packet :: state.wire }
  else none

/-- A packet is processed unless its number was seen before. An error of a frame closes the
connection. -/
def recvPacket (state : PacketLink) (packet : Packet) (ackEliciting probing : Bool)
    (now : Instant) : PacketLink :=
  if state.receiver.accepts packet.spaceId packet.pktNum then
    let link := packet.frames.foldl StreamLink.deliver state.link
    if link.failure.isSome then { state with link }
    else
      { state with
        link
        receiver := state.receiver.recvPacket packet.spaceId
          ⟨packet.pktNum, ackEliciting, probing, now⟩ now
        processed := packet :: state.processed }
  else state

def acknowledges (state : PacketLink) (spaceId : SpaceId) (frame : Frame) : Bool :=
  (state.receiver.get spaceId).any fun space => frame ∈ space.history.written

def step (state : PacketLink) : Op → Option PacketLink
  | .stream op => (state.link.step op.toOp).map fun link => { state with link }
  | .sendPacket pkt outLens spaceId status now => state.sendPacket pkt outLens spaceId status now
  | .recvPacket packet ackEliciting probing now =>
    if packet ∈ state.wire then some (state.recvPacket packet ackEliciting probing now) else none
  | .dropPacket packet => some { state with wire := state.wire.erase packet }
  | .receiver (.recvPacket _ _ _) => none
  | .receiver op => (state.receiver.step op).map fun receiver => { state with receiver }
  | .recvAck spaceId ackDelay ackRanges ecnCounts delay status now =>
    if state.acknowledges spaceId (.ack ackDelay ackRanges ecnCounts) then
      (state.sender.step (.ackReceived ackRanges delay spaceId status now)).map fun sender =>
        { state with sender }
    else none
  | .lossTimeout spaceId status now =>
    (state.sender.step (.lossTimeout spaceId status now)).map fun sender => { state with sender }
  | .spaceDiscarded spaceId status now =>
    (state.sender.step (.spaceDiscarded spaceId status now)).map fun sender =>
      { state with sender }
  | .spaceAdded => (state.sender.step .spaceAdded).map fun sender => { state with sender }
  | .processAcked spaceId =>
    match state.sender.spaces.get spaceId with
    | none => none
    | some space =>
      (state.sender.step (.ackedProcessed spaceId)).map fun sender =>
        { state with sender, link := space.acked.foldl StreamLink.ack state.link }
  | .processLost spaceId =>
    match state.sender.spaces.get spaceId with
    | none => none
    | some space =>
      (state.sender.step (.lostProcessed spaceId)).map fun sender =>
        { state with sender, link := space.lost.foldl StreamLink.lose state.link }

end PacketLink

end Tquic.Connection
