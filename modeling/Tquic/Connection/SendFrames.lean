import Mathlib.Data.Finset.Sort
import Tquic.Connection.BufferedFrames
import Tquic.Connection.CidAdvertisement
import Tquic.Connection.Exchange
import Tquic.Connection.Pmtu
import Tquic.Lib.Fuelled

/-! The frames of a packet, after `send_frames` of `connection.rs` and the writers that it calls.
The writer that finds too little room for a frame ends the packet with `Done`. -/

set_option autoImplicit false

namespace Tquic.Connection

open Lib
open StreamMap (streamHeaderWireLen maxStreamOverhead)

structure ConnectionError where
  isApp : Bool
  errorCode : Nat
  reason : Bytes

/-- What loss recovery and congestion control say of a path. -/
structure PathRecovery where
  canSend : Bool
  congestionWindow : Nat
  inRecovery : Bool
  smoothedRtt : Duration

/-- An order in which a hash table is visited. -/
structure Visit (α : Type) where
  arrange : List α → List α
  perm : ∀ entries, (arrange entries).Perm entries

def Visit.ascending {α : Type} : Visit α := ⟨id, fun _ => .refl _⟩

/-- The orders in which one packet visits the streams that have something to tell. -/
structure Visits where
  almostFull : Visit Nat := .ascending
  stopped : Visit (Nat × Nat) := .ascending
  reset : Visit (Nat × Nat × Nat) := .ascending
  dataBlocked : Visit (Nat × Nat) := .ascending

/-- What the writers read of a connection, of one of its paths and of the packet number space, and
the packet they write. -/
structure FrameWriter where
  isServer : Bool
  handshakeCompleted : Bool
  enableMultipath : Bool
  -- Whether the multipath scheduler may send data again.
  bufferRequired : Bool
  localError : Option ConnectionError
  token : Option Bytes
  needSendHandshakeDone : Bool
  needSendNewToken : Bool
  pathId : Nat
  path : Path
  pathsLen : Nat
  needSendPing : Bool
  dplpmtud : Dplpmtud
  peerMaxUdpPayloadSize : Nat
  peerLarge : defaultSendUdpPayloadSize ≤ peerMaxUdpPayloadSize
  recovery : PathRecovery
  recvPktNumNeedAck : RangeSet
  needSendAck : Bool
  -- The age of the largest packet number, as it is encoded.
  ackDelay : Nat
  cids : ConnectionIdMgr
  streams : StreamMap
  -- The send side of the crypto stream at the level of the packet.
  crypto : SendBuf
  buffered : BufferQueue
  now : Instant
  -- The random data of the next PATH_CHALLENGE.
  challenge : ChallengeData
  visits : Visits := {}
  st : FrameWriteStatus

def Path.needExpandPaddingFrames (path : Path) (isServer : Bool) : Bool :=
  if path.isValidated then false
  else if isServer && path.antiAmplLimit ≤ path.maxDatagramSize then false
  else true

namespace FrameWriter

def isClosing (conn : FrameWriter) : Bool := conn.localError.isSome

def needSendHandshakeDoneFrame (conn : FrameWriter) : Bool :=
  conn.isServer && conn.handshakeCompleted && conn.needSendHandshakeDone

def elicit (conn : FrameWriter) : FrameWriter :=
  { conn with st := { conn.st with ackEliciting := true, inFlight := true } }

def pass : Fuelled FrameWriter Error := Fuelled.ofExcept (.ok ())

def writeFrame (outLen : Nat) (frame : Frame) (written : FrameWriter → FrameWriter) :
    Fuelled FrameWriter Error :=
  fun conn =>
    match writeFrameToPacket frame outLen conn.st with
    | .error error => some (.error error, conn)
    | .ok st => some (.ok (), written { conn with st })

/-! ## ACK, CONNECTION_CLOSE and the probe of the path MTU -/

def tryWriteAckFrame (outLen : Nat) : Fuelled FrameWriter Error := fun conn =>
  if conn.recvPktNumNeedAck.isEmpty || !conn.needSendAck || conn.isClosing ||
      !conn.path.isActive then pass conn
  else
    writeFrame outLen (.ack conn.ackDelay conn.recvPktNumNeedAck none)
      (fun conn => { conn with needSendAck := false }) conn

/-- Errors of the application are only told in 0-RTT and 1-RTT packets. -/
def closeFrame (conn : FrameWriter) (pktType : PacketType) : Option Frame :=
  match conn.localError with
  | none => none
  | some error =>
    if !error.isApp then some (.connectionClose error.errorCode 0 error.reason)
    else if pktType = .oneRtt || pktType = .zeroRtt then
      some (.applicationClose error.errorCode error.reason)
    else none

def tryWriteCloseFrame (outLen : Nat) (pktType : PacketType) : Fuelled FrameWriter Error :=
  fun conn =>
    if !conn.path.isActive && conn.pathsLen > 1 then pass conn
    else
      match conn.closeFrame pktType with
      | none => pass conn
      | some frame => writeFrame outLen frame elicit conn

/-- All other frames count toward the congestion window, unless the packet is a probe. -/
def checkCongestion : Fuelled FrameWriter Error := fun conn =>
  if !conn.st.isProbe && !conn.recovery.canSend then some (.error .done, conn)
  else pass { conn with st := { conn.st with pacing := true } }

/-- The probe is filled up to its size, which may exceed what other packets are limited to. It
shares its packet with no other frames. -/
def tryWritePmtuProbeFrames (bufLen : Nat) (pktType : PacketType) (first : Bool) :
    Fuelled FrameWriter Error := fun conn =>
  if pktType ≠ .oneRtt || !conn.handshakeCompleted || conn.isClosing || !first ||
      !conn.st.frames.isEmpty then pass conn
  else
    let (probeSize, dplpmtud) := conn.dplpmtud.getProbeSize conn.peerLarge
    let conn := { conn with dplpmtud }
    if !conn.path.isValidated || !dplpmtud.shouldProbe || probeSize > bufLen ||
        probeSize > conn.recovery.congestionWindow || conn.recovery.inRecovery then pass conn
    else if probeSize < conn.st.overhead + 1 then some (.error .panic, conn)
    else
      (writeFrame bufLen (.ping (some (conn.pathId, probeSize))) id).andThen
        ((writeFrame bufLen (.paddings (probeSize - conn.st.overhead - 1))
            (fun conn => { conn.elicit with
              st := { conn.elicit.st with isPmtuProbe := true } })).andThen
          (Fuelled.ofExcept (.error .done))) conn

/-! ## Paths and connection ids -/

def tryWritePathValidationFrames (outLen : Nat) (pktType : PacketType) :
    Fuelled FrameWriter Error :=
  fun conn =>
    if pktType ≠ .oneRtt then pass conn
    else
      (Fuelled.each (fun data conn => writeFrame outLen (.pathResponse data) elicit
        { conn with path := conn.path.popRecvChal.2 }) conn.path.recvChals).andThen
      (fun conn =>
        if conn.path.needSendChallenge then
          writeFrame outLen (.pathChallenge conn.challenge)
            (fun conn => { conn.elicit with
              st := { conn.elicit.st with challenge := some conn.challenge } }) conn
        else pass conn) conn

/-- NEW_CONNECTION_ID frames for the source ids to advertise. -/
def writeNewConnectionIds (outLen : Nat) : Nat → Fuelled FrameWriter Error
  | 0 => fun _ => none
  | fuel + 1 => fun conn =>
    match conn.cids.nextScidToAdvertise with
    | none => pass conn
    | some seq =>
      match conn.cids.createNewConnectionIdFrame seq with
      | .error error => some (.error error, conn)
      | .ok frame =>
        (writeFrame outLen frame (fun conn => { conn.elicit with
          cids := conn.cids.markScidToAdvertise seq false })).andThen
        (writeNewConnectionIds outLen fuel) conn

def writeRetireConnectionIds (outLen : Nat) : Nat → Fuelled FrameWriter Error
  | 0 => fun _ => none
  | fuel + 1 => fun conn =>
    match conn.cids.nextDcidToRetire with
    | none => pass conn
    | some seq =>
      match conn.path.dcidSeq with
      | none => some (.error .internalError, conn)
      | some dcidSeq =>
        -- The number stays at the front of the list, so the loop does not end.
        if seq = dcidSeq then writeRetireConnectionIds outLen fuel conn
        else
          (writeFrame outLen (.retireConnectionId seq) (fun conn => { conn.elicit with
            cids := conn.cids.markDcidToRetire seq false })).andThen
          (writeRetireConnectionIds outLen fuel) conn

def tryWriteCidControlFrame (outLen : Nat) (pktType : PacketType) : Fuelled FrameWriter Error :=
  fun conn =>
    if pktType ≠ .oneRtt || conn.isClosing then pass conn
    else
      (writeNewConnectionIds outLen (conn.cids.scidsToAdvertise.length + 1)).andThen
        (fun conn =>
          if !conn.path.isActive then pass conn
          else writeRetireConnectionIds outLen (conn.cids.dcidsToRetire.length + 1) conn) conn

def tryWriteHandshakeDone (outLen : Nat) (pktType : PacketType) : Fuelled FrameWriter Error :=
  fun conn =>
    if pktType = .oneRtt && !conn.isClosing && conn.path.isActive &&
        conn.needSendHandshakeDoneFrame then
      writeFrame outLen .handshakeDone
        (fun conn => { conn.elicit with needSendHandshakeDone := false }) conn
    else pass conn

/-! ## Stream control frames -/

def writeDue (outLen : Nat) (due : StreamMap → Option (Frame × StreamMap)) :
    Fuelled FrameWriter Error :=
  fun conn =>
    match due conn.streams with
    | none => pass conn
    | some (frame, streams) =>
      writeFrame outLen frame (fun conn => { conn.elicit with streams }) conn

def maxStreamsDue (bidi : Bool) (streams : StreamMap) : Option (Frame × StreamMap) :=
  (streams.writeMaxStreams bidi).map fun due => (.maxStreams bidi due.1, due.2)

def dataBlockedDue (streams : StreamMap) : Option (Frame × StreamMap) :=
  streams.writeDataBlocked.map fun due => (.dataBlocked due.1, due.2)

def streamsBlockedDue (bidi : Bool) (streams : StreamMap) : Option (Frame × StreamMap) :=
  (streams.writeStreamsBlocked bidi).map fun due => (.streamsBlocked bidi due.1, due.2)

def writeMaxStreamData (outLen streamId : Nat) : Fuelled FrameWriter Error := fun conn =>
  match conn.streams.get streamId with
  | none => pass { conn with streams := conn.streams.markAlmostFull streamId false }
  | some stream =>
    let recv := stream.recv.autotuneWindow conn.now conn.recovery.smoothedRtt
    writeFrame outLen (.maxStreamData streamId recv.flowControl.maxDataNext)
      (fun conn =>
        let raised := (conn.streams.setStream streamId
          { stream with recv := recv.updateMaxData conn.now }).markAlmostFull streamId false
        { conn.elicit with
          streams := { raised with
            flowControl := raised.flowControl.ensureWindowLowerBound
              (connectionWindowFor recv.flowControl.window)
            rxAlmostFull := true } })
      { conn with streams := conn.streams.setStream streamId { stream with recv } }

def writeMaxData (outLen : Nat) : Fuelled FrameWriter Error := fun conn =>
  if conn.streams.needSendMaxData then
    let flowControl :=
      conn.streams.flowControl.autotuneWindow conn.now conn.recovery.smoothedRtt
    writeFrame outLen (.maxData flowControl.maxDataNext)
      (fun conn => { conn.elicit with
        streams := { conn.streams with
          flowControl := conn.streams.flowControl.updateMaxData conn.now
          rxAlmostFull := false } })
      { conn with streams := { conn.streams with flowControl } }
  else pass conn

def writeEach {α : Type} (outLen : Nat) (entries : List (Nat × α)) (frame : Nat → α → Frame)
    (unmark : StreamMap → Nat → StreamMap) : Fuelled FrameWriter Error :=
  Fuelled.each (fun entry => writeFrame outLen (frame entry.1 entry.2)
    (fun conn => { conn.elicit with streams := unmark conn.streams entry.1 })) entries

def writeStopSending (outLen : Nat) : Fuelled FrameWriter Error := fun conn =>
  writeEach outLen (conn.visits.stopped.arrange conn.streams.stopped.entries) .stopSending
    (fun streams streamId => streams.markStopped streamId false 0) conn

def writeResetStream (outLen : Nat) : Fuelled FrameWriter Error := fun conn =>
  writeEach outLen (conn.visits.reset.arrange conn.streams.reset.entries)
    (fun streamId reset => .resetStream streamId reset.1 reset.2)
    (fun streams streamId => streams.markReset streamId false 0 0) conn

def writeStreamDataBlocked (outLen : Nat) : Fuelled FrameWriter Error := fun conn =>
  writeEach outLen (conn.visits.dataBlocked.arrange conn.streams.dataBlocked.entries)
    .streamDataBlocked
    (fun streams streamId => streams.markBlocked streamId false 0) conn

def tryWriteStreamControlFrames (outLen : Nat) (pktType : PacketType) : Fuelled FrameWriter Error :=
  fun conn =>
    if pktType ≠ .oneRtt || conn.isClosing || !conn.path.isActive then pass conn
    else
      (writeDue outLen (maxStreamsDue true)).andThen
      ((writeDue outLen (maxStreamsDue false)).andThen
      ((writeDue outLen dataBlockedDue).andThen
      (Fuelled.andThen (fun conn => Fuelled.each (writeMaxStreamData outLen)
        (conn.visits.almostFull.arrange (conn.streams.almostFull.sort (· ≤ ·))) conn)
      ((writeMaxData outLen).andThen
      ((writeStopSending outLen).andThen
      ((writeResetStream outLen).andThen
      ((writeStreamDataBlocked outLen).andThen
      ((writeDue outLen (streamsBlockedDue true)).andThen
      (writeDue outLen (streamsBlockedDue false)))))))))) conn

/-! ## Data -/

def maxCryptoOverhead : Nat := 8

/-- Type, offset and a length of two bytes. -/
def cryptoHeaderWireLen (offset : Nat) : Nat := 1 + encodeVarintLen offset + 2

def withData (conn : FrameWriter) (frame : Frame) (bytes : Bytes) : FrameWriter :=
  { conn.elicit with
    st := { conn.elicit.st with
      payload := conn.st.payload ++ bytes
      frames := conn.st.frames ++ [frame]
      hasData := true } }

def tryWriteCryptoFrame (outLen : Nat) (pktType : PacketType) : Fuelled FrameWriter Error :=
  fun conn =>
    let room := outLen - conn.st.written
    if pktType = .zeroRtt then pass conn
    else if !(conn.crypto.ready && room > maxCryptoOverhead && !conn.isClosing &&
        conn.path.isActive) then pass conn
    else
      let cryptoOff := conn.crypto.sendOff
      let hdrLen := cryptoHeaderWireLen cryptoOff
      if room ≤ hdrLen then pass conn
      else
        match conn.crypto.read (room - hdrLen) with
        | none => none
        | some ((data, _), crypto) =>
          match (Frame.encodeCryptoHeader cryptoOff data.length).run { written := [], room } with
          | .error error => some (.error error, { conn with crypto })
          | .ok (_, header) =>
            pass ({ conn with crypto }.withData (.crypto cryptoOff data.length [])
              (header.written ++ data))

def writeBufferedFrames (outLen : Nat) (pktType : PacketType) : Fuelled FrameWriter Error :=
  fun conn =>
    match tryWriteBufferedFrames conn.enableMultipath conn.isClosing conn.path.isActive pktType
        conn.streams outLen ⟨conn.buffered, conn.st⟩ with
    | none => none
    | some (.error error) => some (.error error, conn)
    | some (.ok (_, packing)) => pass { conn with buffered := packing.buffered, st := packing.st }

/-- The loop of `try_write_stream_frames` over what is left of the buffer. -/
def writeStreamFrames : Nat → Nat → Fuelled FrameWriter Error
  | 0, _ => fun _ => none
  | fuel + 1, cap => fun conn =>
    match conn.streams.peekSendable with
    | (none, streams) => pass { conn with streams }
    | (some streamId, streams) =>
      match (streams.get streamId).filter (fun stream => !stream.send.isStopped) with
      -- No frames for streams that are gone or were stopped by the peer.
      | none => writeStreamFrames fuel cap { conn with streams := streams.removeSendable }
      | some stream =>
        let offset := stream.send.sendOff
        let hdrLen := streamHeaderWireLen streamId offset
        match stream.send.read (cap - hdrLen) with
        | none => none
        | some ((bytes, fin), send) =>
          let stream := { stream with send }
          let streams := streams.setStream streamId stream
          match (Frame.encodeStreamHeader streamId offset bytes.length fin).run
              { written := [], room := hdrLen } with
          | .error error => some (.error error, { conn with streams })
          | .ok (_, header) =>
            let data := if conn.enableMultipath && conn.bufferRequired then bytes else []
            let streams := if !stream.isSendable then streams.removeSendable else streams
            let conn := { conn with streams }.withData
              (.stream streamId offset bytes.length fin data) (header.written ++ bytes)
            let cap := cap - (hdrLen + bytes.length)
            if cap ≤ maxStreamOverhead then pass conn
            else writeStreamFrames fuel cap conn

/-- Every round removes an entry of the queues or writes at least a byte. -/
def tryWriteStreamFrames (outLen : Nat) (pktType : PacketType) : Fuelled FrameWriter Error :=
  fun conn =>
    let room := outLen - conn.st.written
    if (pktType ≠ .oneRtt && pktType ≠ .zeroRtt) || conn.isClosing || room ≤ maxStreamOverhead ||
        !conn.path.isActive then pass conn
    else writeStreamFrames (conn.streams.sendableLen + room + 1) room conn

/-! ## The end of a packet -/

def newTokenFrame (conn : FrameWriter) (pktType : PacketType) : Option Frame :=
  if pktType = .oneRtt && conn.isServer && !conn.isClosing && conn.path.isActive &&
      conn.needSendNewToken then conn.token.map .newToken
  else none

def tryWriteNewTokenFrame (outLen : Nat) (pktType : PacketType) : Fuelled FrameWriter Error :=
  fun conn =>
    match conn.newTokenFrame pktType with
    | none => pass conn
    | some frame =>
      writeFrame outLen frame (fun conn => { conn.elicit with needSendNewToken := false }) conn

def tryWritePing (outLen : Nat) : Fuelled FrameWriter Error := fun conn =>
  if ((conn.st.ackElicitRequired && !conn.st.ackEliciting) || conn.needSendPing) &&
      !conn.isClosing then
    writeFrame outLen (.ping none) (fun conn => { conn.elicit with needSendPing := false }) conn
  else pass conn

def writePaddings (outLen len : Nat) : Fuelled FrameWriter Error :=
  writeFrame outLen (.paddings len)
    (fun conn => { conn with st := { conn.st with inFlight := true } })

def expandPaddings (outLen : Nat) (pktType : PacketType) (hasInitial : Bool) :
    Fuelled FrameWriter Error := fun conn =>
  if outLen - conn.st.written ≥ 1 && (hasInitial ||
      (conn.st.isProbe && !conn.isServer && pktType = .handshake) ||
      conn.path.needExpandPaddingFrames conn.isServer) then
    writePaddings outLen (outLen - conn.st.written) conn
  else pass conn

/-- Enough for a sample, whatever the length of the packet number. -/
def fillPayload (outLen : Nat) : Fuelled FrameWriter Error := fun conn =>
  if conn.st.written < minPayloadLen then
    writePaddings outLen (minPayloadLen - conn.st.written) conn
  else pass conn

def checkFrames : Fuelled FrameWriter Error := fun conn =>
  if conn.st.frames.isEmpty then some (.error .done, conn) else pass conn

/-- Only the probe of the path MTU may use more than `left` of the `bufLen` bytes. -/
def sendFrames (bufLen left : Nat) (pktType : PacketType) (first hasInitial : Bool) :
    Fuelled FrameWriter Error :=
  (tryWriteAckFrame left).andThen
  ((tryWriteCloseFrame left pktType).andThen
  (checkCongestion.andThen
  ((tryWritePmtuProbeFrames bufLen pktType first).andThen
  ((tryWritePathValidationFrames left pktType).andThen
  ((tryWriteCidControlFrame left pktType).andThen
  ((tryWriteHandshakeDone left pktType).andThen
  ((tryWriteStreamControlFrames left pktType).andThen
  ((tryWriteCryptoFrame left pktType).andThen
  ((writeBufferedFrames left pktType).andThen
  ((tryWriteStreamFrames left pktType).andThen
  ((tryWriteNewTokenFrame left pktType).andThen
  ((tryWritePing left).andThen
  (checkFrames.andThen
  ((expandPaddings left pktType hasInitial).andThen
  (fillPayload left)))))))))))))))

end FrameWriter

end Tquic.Connection
