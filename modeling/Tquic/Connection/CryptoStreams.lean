import Tquic.Frame
import Tquic.Connection.KeyUpdate
import Tquic.Connection.PathValidation
import Tquic.Connection.RecoveryRun
import Tquic.Connection.Stream

/-! The crypto streams of a connection and the end of a packet number space, after `CryptoStreams`
and `drop_space_state` of `connection.rs`, with the operations that change the keys, the crypto
streams, the paths or the spaces. -/

set_option autoImplicit false

namespace Tquic.Connection

open Lib

def maxStreamWindow : Nat := 6 * 1024 * 1024

/-- The streams for the levels Initial, Handshake and 1-RTT. -/
structure CryptoStreams where
  streams : Vector Stream 3

namespace CryptoStreams

/-- CRYPTO frames are not flow controlled. -/
def newStream : Stream := .new true true u64Max u64Max maxStreamWindow

def new : CryptoStreams := ⟨#v[newStream, newStream, newStream]⟩

/-- The slot that `get_mut` takes for a level. -/
def slot : Level → Except Error (Fin 3)
  | .initial => .ok 0
  | .handshake => .ok 1
  | .oneRtt => .ok 2
  | .zeroRtt => .error .internalError

def get (crypto : CryptoStreams) (level : Level) : Except Error Stream :=
  (slot level).map fun index : Fin 3 => crypto.streams[index]

def modify (crypto : CryptoStreams) (level : Level) (change : Stream → Stream) :
    Except Error CryptoStreams :=
  (slot level).map fun index : Fin 3 =>
    ⟨crypto.streams.set index (change crypto.streams[index])⟩

def clear (crypto : CryptoStreams) : Level → CryptoStreams
  | .initial => ⟨crypto.streams.set 0 newStream⟩
  | .handshake => ⟨crypto.streams.set 0 newStream⟩
  | .zeroRtt => crypto
  | .oneRtt => crypto

def onFrameAcked (level : Level) (crypto : CryptoStreams) : Frame → CryptoStreams
  | .crypto offset length _ =>
    ((crypto.modify level fun stream =>
      { stream with send := stream.send.ackAndDrop offset length }).toOption).getD crypto
  | _ => crypto

def onFrameLost (level : Level) (crypto : CryptoStreams) : Frame → CryptoStreams
  | .crypto offset length _ =>
    ((crypto.modify level fun stream =>
      { stream with send := stream.send.retransmit offset length }).toOption).getD crypto
  | _ => crypto

end CryptoStreams

def SpaceId.toLevel : SpaceId → Level
  | .initial => .initial
  | .handshake => .handshake
  | .data => .oneRtt
  | .dataExt _ => .oneRtt

/-- Operations on one crypto stream. -/
inductive CryptoOp where
  -- The TLS session writes data to be sent.
  | write (data : Bytes)
  -- Data is put into a CRYPTO frame.
  | send (outLen : Nat)
  | receive (offset : Nat) (data : Bytes)
  -- Received data is handed to the TLS session.
  | read (outLen : Nat)

/-- A call that fails leaves the stream as it was. -/
def CryptoOp.run (stream : Stream) : CryptoOp → Stream
  | .write data =>
    match stream.send.write data false with
    | .ok (_, buf) => { stream with send := buf }
    | .error _ => stream
  | .send outLen =>
    match stream.send.read outLen with
    | some (_, buf) => { stream with send := buf }
    | none => stream
  | .receive offset data =>
    match stream.recv.write offset data false with
    | .ok buf => { stream with recv := buf }
    | .error _ => stream
  | .read outLen => { stream with recv := (stream.recv.read outLen).2 }

structure SpaceConn (Opener Sealer : Type) where
  tls : TlsSession Opener Sealer
  crypto : CryptoStreams
  paths : ValidationRun
  -- The recovery state of the path in every slot, and the one that a new path gets.
  recovery : Nat → Recovery
  newRecovery : Recovery
  spaces : PacketNumSpaceMap Frame
  -- The next packet number of every space.
  nextPktNum : Nat → Nat
  peerVerifiedInitialAddress : Bool
  handshakeCompleted : Bool
  -- The path on which a packet of a space was sent, as long as there is this path. The code does
  -- not keep it.
  sentOn : Nat → Nat → Option Nat

namespace SpaceConn

variable {Opener Sealer : Type}

def start (newRecovery : Recovery) (localAddr remoteAddr : SocketAddr)
    (maxDatagramSize maxPaths antiAmplFactor : Nat) (isServer addrToken : Bool) :
    SpaceConn Opener Sealer :=
  { tls := .new
    crypto := .new
    paths := .start localAddr remoteAddr maxDatagramSize maxPaths antiAmplFactor isServer addrToken
    recovery := fun _ => newRecovery
    newRecovery
    spaces := .new
    nextPktNum := fun _ => 0
    peerVerifiedInitialAddress := false
    handshakeCompleted := false
    sentOn := fun _ _ => none }

def handshakeStatus (conn : SpaceConn Opener Sealer) : HandshakeStatus :=
  let keys := conn.tls.keyCollection .handshake
  { derivedHandshakeKeys := keys.sealKey.isSome && keys.openKey.isSome
    peerVerifiedAddress := conn.peerVerifiedInitialAddress
    completed := conn.handshakeCompleted }

def dropLevel : SpaceId → Option Level
  | .initial => some .initial
  | .handshake => some .handshake
  | .data => none
  | .dataExt _ => none

def dropSpaceState (conn : SpaceConn Opener Sealer) (sid : SpaceId) (now : Instant) :
    SpaceConn Opener Sealer :=
  match dropLevel sid with
  | none => conn
  | some level =>
    if (conn.tls.keyCollection level).openKey.isNone then conn
    else
      let conn := { conn with
        tls := conn.tls.setKeys level ⟨none, none⟩
        crypto := conn.crypto.clear level }
      match conn.paths.map.getActivePathId with
      | .error _ => conn
      | .ok pathId =>
        let result := (conn.recovery pathId).onPktNumSpaceDiscarded sid conn.spaces
          conn.handshakeStatus now
        { conn with
          recovery := Function.update conn.recovery pathId result.1
          spaces := result.2 }

/-! ## Runs -/

inductive Op (Opener Sealer : Type) where
  | setKeys (level : Level) (keys : Keys Opener Sealer)
  | crypto (level : Level) (op : CryptoOp)
  | paths (op : ValidationRun.Op)
  | packetSent (pathId : Nat) (pkt : SentPacket Frame) (sid : SpaceId) (now : Instant)
  | ackReceived (pathId : Nat) (ranges : RangeSet) (ackDelay : Nat) (sid : SpaceId) (now : Instant)
  | lossTimeout (pathId : Nat) (sid : SpaceId) (now : Instant)
  | spaceAdded
  | ackedProcessed (sid : SpaceId)
  | lostProcessed (sid : SpaceId)
  | peerVerified
  | completed
  | dropSpace (sid : SpaceId) (now : Instant)

def recover (conn : SpaceConn Opener Sealer) (pathId : Nat) (op : Sender.Op Frame) :
    Option (SpaceConn Opener Sealer) :=
  (Sender.step ⟨conn.recovery pathId, conn.spaces⟩ op).map fun sender =>
    { conn with
      recovery := Function.update conn.recovery pathId sender.recovery
      spaces := sender.spaces }

def insertedSlot (map : PathMap) : ValidationRun.Op → Option Nat
  | .insertPath localAddr remoteAddr maxDatagramSize _ _ _ =>
    (map.insertPath (.new localAddr remoteAddr false maxDatagramSize)).toOption.map (·.1)
  | _ => none

/-- A path has come into a slot, and the one that was there before is gone. -/
def replacePath (conn : SpaceConn Opener Sealer) : Option Nat → SpaceConn Opener Sealer
  | none => conn
  | some pathId =>
    { conn with
      recovery := Function.update conn.recovery pathId conn.newRecovery
      sentOn := fun key pktNum => (conn.sentOn key pktNum).filter fun other => other ≠ pathId }

def noteSent (conn : SpaceConn Opener Sealer) (pathId key : Nat) : SpaceConn Opener Sealer :=
  { conn with
    nextPktNum := Function.update conn.nextPktNum key (conn.nextPktNum key + 1)
    sentOn := Function.update conn.sentOn key
      (Function.update (conn.sentOn key) (conn.nextPktNum key) (some pathId)) }

def step (conn : SpaceConn Opener Sealer) : Op Opener Sealer → Option (SpaceConn Opener Sealer)
  | .setKeys level keys => some { conn with tls := conn.tls.setKeys level keys }
  | .crypto level op =>
    (conn.crypto.modify level op.run).toOption.map fun crypto => { conn with crypto }
  | .paths op =>
    (conn.paths.step op).map fun paths =>
      { conn.replacePath (insertedSlot conn.paths.map op) with paths }
  | .packetSent pathId pkt sid now =>
    if (conn.paths.map.get pathId).isSome && pkt.pktNum = conn.nextPktNum sid.key then
      (conn.recover pathId (.packetSent pkt sid conn.handshakeStatus now)).map
        (·.noteSent pathId sid.key)
    else none
  | .ackReceived pathId ranges ackDelay sid now =>
    conn.recover pathId (.ackReceived ranges ackDelay sid conn.handshakeStatus now)
  | .lossTimeout pathId sid now => conn.recover pathId (.lossTimeout sid conn.handshakeStatus now)
  -- The rest does not depend on the recovery state of a path.
  | .spaceAdded => conn.recover 0 .spaceAdded
  | .ackedProcessed sid =>
    match conn.spaces.get sid with
    | none => none
    | some space =>
      let crypto := space.acked.foldl (CryptoStreams.onFrameAcked sid.toLevel) conn.crypto
      recover { conn with crypto } 0 (.ackedProcessed sid)
  | .lostProcessed sid =>
    match conn.spaces.get sid with
    | none => none
    | some space =>
      let crypto := space.lost.foldl (CryptoStreams.onFrameLost sid.toLevel) conn.crypto
      recover { conn with crypto } 0 (.lostProcessed sid)
  | .peerVerified => some { conn with peerVerifiedInitialAddress := true }
  | .completed => some { conn with handshakeCompleted := true }
  | .dropSpace sid now => some (conn.dropSpaceState sid now)

/-- The states in which connections begin. -/
inductive Starts : SpaceConn Opener Sealer → Prop where
  | intro {maxAckDelay : Duration} {ptoLinearFactor : Nat} {maxPto initialRtt : Duration}
      {timeThresh : Duration → Duration} {localAddr remoteAddr : SocketAddr}
      {maxDatagramSize maxPaths antiAmplFactor : Nat} {isServer addrToken : Bool} :
      Starts (start (.new maxAckDelay ptoLinearFactor maxPto initialRtt timeThresh) localAddr
        remoteAddr maxDatagramSize maxPaths antiAmplFactor isServer addrToken)

def Reachable (guard : SpaceConn Opener Sealer → Op Opener Sealer → Prop)
    (conn : SpaceConn Opener Sealer) : Prop :=
  ∃ first, Starts first ∧ Run step guard first conn

end SpaceConn

end Tquic.Connection
