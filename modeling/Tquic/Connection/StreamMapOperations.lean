import Tquic.Codec
import Tquic.Connection.StreamMap

/-! The operations of the stream map: what the application calls, what received frames,
acknowledgements and losses do, and what is written into packets. -/

set_option autoImplicit false

namespace Tquic.Connection

open Lib

/-- A STREAM frame as the sender remembers it, without its data. -/
structure StreamFrame where
  streamId : Nat
  offset : Nat
  length : Nat
  fin : Bool
  deriving DecidableEq, Repr

namespace StreamMap

/-! ## Application -/

def streamSetPriority (map : StreamMap) (streamId urgency : Nat) (incremental : Bool) :
    Except Error Unit × StreamMap :=
  match map.getOrCreate streamId true with
  | (.error .done, map) => (.ok (), map)
  | (.error error, map) => (.error error, map)
  | (.ok stream, map) => (.ok (), map.setStream streamId { stream with urgency, incremental })

def streamBidiNew (map : StreamMap) (urgency : Nat) (incremental : Bool) :
    Except Error Nat × StreamMap :=
  let streamId := map.nextStreamIdBidi
  match map.streamSetPriority streamId urgency incremental with
  | (.ok _, map) => (.ok streamId, map)
  | (.error error, map) => (.error error, map)

def streamUniNew (map : StreamMap) (urgency : Nat) (incremental : Bool) :
    Except Error Nat × StreamMap :=
  let streamId := map.nextStreamIdUni
  match map.streamSetPriority streamId urgency incremental with
  | (.ok _, map) => (.ok streamId, map)
  | (.error error, map) => (.error error, map)

/-- The context itself is left out; a stream that does not exist yet is created. -/
def streamSetContext (map : StreamMap) (streamId : Nat) : Except Error Unit × StreamMap :=
  match map.getOrCreate streamId true with
  | (.error .done, map) => (.ok (), map)
  | (.error error, map) => (.error error, map)
  | (.ok _, map) => (.ok (), map)

def streamRead (map : StreamMap) (streamId outLen : Nat) :
    Except Error (Bytes × Bool) × StreamMap :=
  if !isBidi streamId && isLocal streamId map.isServer then (.error .streamStateError, map)
  else
    match map.get streamId with
    | none => (.error .streamStateError, map)
    | some stream =>
      if !stream.isReadable then (.error .done, map)
      else
        let outcome := stream.recv.read outLen
        let stream := { stream with recv := outcome.2 }
        let map := map.setStream streamId stream
        match outcome.1 with
        | .error error =>
          -- The receive side may have been reset by the peer.
          let map := if stream.isComplete then map.markClosed streamId stream.byLocal else map
          (.error error, map.markReadable streamId false)
        | .ok (bytes, fin) =>
          let map :=
            if stream.recv.shouldSendMaxData then map.markAlmostFull streamId true else map
          let map := map.consume bytes.length
          let map := if !stream.isReadable then map.markReadable streamId false else map
          let map := if stream.isComplete then map.markClosed streamId stream.byLocal else map
          (.ok (bytes, fin), map)

/-- Record whether the peer's limit has cut a write of `bufLen` bytes short. -/
def noteBlocked (map : StreamMap) (streamId : Nat) (stream : Stream) (bufLen written : Nat) :
    StreamMap :=
  let maxData := stream.send.maxData
  if written < bufLen then
    if stream.send.blockedAt ≠ some maxData then
      (map.setStream streamId
        { stream with send := stream.send.updateBlockedAt (some maxData) }).markBlocked
          streamId true maxData
    else map.setStream streamId stream
  else
    (map.setStream streamId { stream with send := stream.send.updateBlockedAt none }).markBlocked
      streamId false 0

def noteSendable (map : StreamMap) (streamId : Nat) (stream : Stream)
    (wasSendable emptyFin : Bool) : StreamMap :=
  if (stream.isSendable || emptyFin) && !wasSendable then
    map.pushSendable streamId stream.urgency stream.incremental
  else map

/-- The end of `stream_write`, after the send buffer took `written` of `bufLen` bytes. -/
def noteWritten (map : StreamMap) (streamId : Nat) (stream : Stream)
    (wasWritable wasSendable blockedByCap emptyFin : Bool) (expectWritten bufLen written : Nat) :
    Except Error Nat × StreamMap :=
  let map := map.noteBlocked streamId stream bufLen written
  let map := map.noteSendable streamId stream wasSendable emptyFin
  let map :=
    if !stream.isWritable then map.markWritable streamId false
    else if wasWritable && blockedByCap then map.markWritable streamId true
    else map
  let map :=
    { map with
      sendCapacity :=
        { map.sendCapacity with
          capacity := map.sendCapacity.capacity - written
          txData := map.sendCapacity.txData + written } }
  let map := if written < expectWritten then (map.wantWrite streamId true).2 else map
  (if written = 0 && bufLen > 0 then .error .done else .ok written, map)

def streamWrite (map : StreamMap) (streamId : Nat) (buf : Bytes) (fin : Bool) :
    Except Error Nat × StreamMap :=
  if !isBidi streamId && !isLocal streamId map.isServer then (.error .streamStateError, map)
  else
    let map :=
      if map.maxTxDataLeft < buf.length then
        map.updateDataBlockedAt (some map.sendCapacity.maxData)
      else map
    let capacity := map.sendCapacity.capacity
    match map.getOrCreate streamId true with
    | (.error error, map) => (.error error, map)
    | (.ok stream, map) =>
      let wasWritable := stream.isWritable
      let wasSendable := stream.isSendable
      if capacity = 0 && !buf.isEmpty then
        let map := if wasWritable then map.markWritable streamId true else map
        (.error .done, (map.wantWrite streamId true).2)
      else
        let blockedByCap : Bool := capacity < buf.length
        let kept := if blockedByCap then buf.take capacity else buf
        let fin := if blockedByCap then false else fin
        match stream.send.write kept fin with
        | .error error => (.error error, map.markWritable streamId false)
        | .ok (written, send) =>
          map.noteWritten streamId { stream with send } wasWritable wasSendable blockedByCap
            (kept.length = 0 && fin) buf.length kept.length written

def streamCapacity (map : StreamMap) (streamId : Nat) : Except Error Nat :=
  match map.get streamId with
  | none => .error .streamStateError
  | some stream =>
    match stream.send.capacity with
    | .error error => .error error
    | .ok capacity => .ok (min map.sendCapacity.capacity capacity)

/-- Mark a stream whose capacity is below `len` as blocked by the peer, or as writable if
only the connection is. -/
def noteWritable (map : StreamMap) (streamId : Nat) (stream : Stream) (capacity len : Nat) :
    StreamMap :=
  let maxData := stream.send.maxData
  if capacity < len then
    if stream.send.blockedAt ≠ some maxData then
      (map.setStream streamId
        { stream with send := stream.send.updateBlockedAt (some maxData) }).markBlocked
          streamId true maxData
    else map.setStream streamId stream
  else if stream.isWritable then (map.setStream streamId stream).markWritable streamId true
  else map.setStream streamId stream

def streamWritable (map : StreamMap) (streamId len : Nat) : Except Error Bool × StreamMap :=
  match map.streamCapacity streamId with
  | .error error => (.error error, map)
  | .ok capacity =>
    if len ≤ capacity then (.ok true, map)
    else
      let map :=
        if map.maxTxDataLeft < len then map.updateDataBlockedAt (some map.sendCapacity.maxData)
        else map
      match map.get streamId with
      -- The capacity was found, so the stream exists.
      | none => (.error .streamStateError, map)
      | some stream =>
        let stream := { stream with writeThresh := max 1 len }
        match stream.send.capacity with
        | .error error => (.error error, map.setStream streamId stream)
        | .ok capacity => (.ok false, map.noteWritable streamId stream capacity len)

def shutdownRead (map : StreamMap) (streamId : Nat) (stream : Stream) (errorCode : Nat) :
    Except Error Unit × StreamMap :=
  if isLocal streamId map.isServer && !isBidi streamId then (.error .streamStateError, map)
  else
    match stream.recv.shutdown with
    | (.error error, _) => (.error error, map)
    | (.ok unreadLen, recv) =>
      let map := map.setStream streamId { stream with recv }
      let map := if !recv.isFin then map.markStopped streamId true errorCode else map
      (.ok (), (map.markReadable streamId false).consume unreadLen)

/-- Give back the credit of data that was never sent, and ask for a RESET_STREAM frame. -/
def noteReset (map : StreamMap) (streamId errorCode finalSize unsent : Nat) : StreamMap :=
  let returned := { map.sendCapacity with txData := map.sendCapacity.txData - unsent }
  ({ map with sendCapacity := returned.updateCapacity }).markReset streamId true errorCode finalSize

def shutdownWrite (map : StreamMap) (streamId : Nat) (stream : Stream) (errorCode : Nat) :
    Except Error Unit × StreamMap :=
  if !isLocal streamId map.isServer && !isBidi streamId then (.error .streamStateError, map)
  else
    match stream.send.shutdown with
    | .error error => (.error error, map)
    | .ok ((finalSize, unsent), send) =>
      let map := map.setStream streamId { stream with send }
      (.ok (), (map.noteReset streamId errorCode finalSize unsent).markWritable streamId false)

def streamShutdown (map : StreamMap) (streamId : Nat) (direction : Shutdown) (errorCode : Nat) :
    Except Error Unit × StreamMap :=
  match map.get streamId with
  | none => (.error .done, map)
  | some stream =>
    match direction with
    | .read => map.shutdownRead streamId stream errorCode
    | .write => map.shutdownWrite streamId stream errorCode

/-! ## Received frames -/

def onMaxDataFrameReceived (map : StreamMap) (maxData : Nat) : StreamMap :=
  let send := (map.sendCapacity.updateMaxData maxData).updateCapacity
  let send :=
    if send.blockedAt.all (fun blockedAt => blockedAt < send.maxData) then
      send.updateBlockedAt none
    else send
  { map with sendCapacity := send }

/-- Frames for a stream that was closed and collected are ignored. -/
def onMaxStreamDataFrameReceived (map : StreamMap) (streamId maxData : Nat) :
    Except Error Unit × StreamMap :=
  if !isLocal streamId map.isServer && !isBidi streamId then (.error .streamStateError, map)
  else
    match map.getOrCreate streamId false with
    | (.error .done, map) => (.ok (), map)
    | (.error error, map) => (.error error, map)
    | (.ok stream, map) =>
      let wasSendable := stream.isSendable
      let stream := { stream with send := stream.send.updateMaxData maxData }
      let map := map.setStream streamId stream
      let map := map.noteSendable streamId stream wasSendable false
      (.ok (), if stream.isWritable then map.markWritable streamId true else map)

def onMaxStreamsFrameReceived (map : StreamMap) (maxStreams : Nat) (bidi : Bool) :
    Except Error Unit × StreamMap :=
  if maxStreams > maxStreamsPerType then (.error .frameEncodingError, map)
  else
    (.ok (), { map with
      concurrencyControl := map.concurrencyControl.updatePeerMaxStreams bidi maxStreams })

def onStreamDataBlockedFrameReceived (map : StreamMap) (streamId : Nat) :
    Except Error Unit × StreamMap :=
  if isLocal streamId map.isServer && !isBidi streamId then (.error .streamStateError, map)
  else (.ok (), map)

def onStreamsBlockedFrameReceived (map : StreamMap) (maxStreams : Nat) :
    Except Error Unit × StreamMap :=
  if maxStreams > maxStreamsPerType then (.error .frameEncodingError, map) else (.ok (), map)

def onResetStreamFrameReceived (map : StreamMap) (streamId errorCode finalSize : Nat) :
    Except Error Unit × StreamMap :=
  if !isBidi streamId && isLocal streamId map.isServer then (.error .streamStateError, map)
  else
    let maxRxDataLeft := map.maxRxDataLeft
    match map.getOrCreate streamId false with
    | (.error .done, map) => (.ok (), map)
    | (.error error, map) => (.error error, map)
    | (.ok stream, map) =>
      let wasReadable := stream.isReadable
      -- The discarded data counts as consumed.
      let maxFcOffDelta := finalSize - stream.recv.readOff
      let outcome := stream.recv.reset errorCode finalSize
      let stream := { stream with recv := outcome.2 }
      let map := map.setStream streamId stream
      match outcome.1 with
      | .error error => (.error error, map)
      | .ok maxRxOffDelta =>
        if maxRxOffDelta > maxRxDataLeft then (.error .flowControlError, map)
        else
          let map :=
            if !wasReadable && stream.isReadable then map.markReadable streamId true else map
          let map :=
            if stream.isComplete && !stream.isReadable then
              map.markClosed streamId stream.byLocal
            else map
          let map :=
            { map with flowControl := map.flowControl.increaseRecvOff maxRxOffDelta }
          (.ok (), map.consume maxFcOffDelta)

def onStopSendingFrameReceived (map : StreamMap) (streamId errorCode : Nat) :
    Except Error Unit × StreamMap :=
  if !isLocal streamId map.isServer && !isBidi streamId then (.error .streamStateError, map)
  else
    match map.getOrCreate streamId false with
    | (.error .done, map) => (.ok (), map)
    | (.error error, map) => (.error error, map)
    | (.ok stream, map) =>
      let wasWritable := stream.isWritable
      match stream.send.stop errorCode with
      | .error _ => (.ok (), map)
      | .ok ((finalSize, unsent), send) =>
        let map := map.setStream streamId { stream with send }
        let map := map.noteReset streamId errorCode finalSize unsent
        (.ok (), if !wasWritable then map.markWritable streamId true else map)

def onStreamFrameReceived (map : StreamMap) (streamId offset length : Nat) (fin : Bool)
    (data : Bytes) : Except Error Unit × StreamMap :=
  if isLocal streamId map.isServer &&
      (!isBidi streamId || ((map.get streamId).isNone && !map.isClosed streamId)) then
    (.error .streamStateError, map)
  else
    let maxRxDataLeft := map.maxRxDataLeft
    match map.getOrCreate streamId false with
    | (.error .done, map) => (.ok (), map)
    | (.error error, map) => (.error error, map)
    | (.ok stream, map) =>
      let maxRxOffDelta := offset + length - stream.recv.recvOff
      if maxRxOffDelta > maxRxDataLeft then (.error .flowControlError, map)
      else
        match stream.recv.write offset data fin with
        | .error error => (.error error, map)
        | .ok recv =>
          let wasReadable := stream.isReadable
          let wasDraining := stream.isDraining
          let stream := { stream with recv }
          let map := map.setStream streamId stream
          let map :=
            if !wasReadable && stream.isReadable then map.markReadable streamId true else map
          let map :=
            { map with flowControl := map.flowControl.increaseRecvOff maxRxOffDelta }
          -- Data received after a shutdown is discarded and counts as consumed.
          (.ok (), if wasDraining then map.consume maxRxOffDelta else map)

def updatePeerStreamTransportParams (map : StreamMap) (params : StreamTransportParams) :
    StreamMap :=
  { map with
    peerTransportParams := params
    sendCapacity := (map.sendCapacity.updateMaxData params.initialMaxData).updateCapacity
    concurrencyControl :=
      (map.concurrencyControl.updatePeerMaxStreams true
        params.initialMaxStreamsBidi).updatePeerMaxStreams false params.initialMaxStreamsUni }

/-! ## Acknowledged and lost frames -/

def closeIfDone (map : StreamMap) (streamId : Nat) (stream : Stream) : StreamMap :=
  if stream.isComplete && !stream.isReadable then map.markClosed streamId stream.byLocal else map

def onStreamFrameAcked (map : StreamMap) (streamId offset length : Nat) : StreamMap :=
  match map.get streamId with
  | none => map
  | some stream =>
    let stream := { stream with send := stream.send.ackAndDrop offset length }
    (map.setStream streamId stream).closeIfDone streamId stream

def onResetStreamFrameAcked (map : StreamMap) (streamId : Nat) : StreamMap :=
  match map.get streamId with
  | none => map
  | some stream => map.closeIfDone streamId stream

def onStreamFrameLost (map : StreamMap) (streamId offset length : Nat) (fin : Bool) : StreamMap :=
  match map.get streamId with
  | none => map
  | some stream =>
    let wasSendable := stream.isSendable
    let emptyFin := length = 0 && fin
    let stream := { stream with send := stream.send.retransmit offset length }
    (map.setStream streamId stream).noteSendable streamId stream wasSendable emptyFin

def onResetStreamFrameLost (map : StreamMap) (streamId errorCode finalSize : Nat) : StreamMap :=
  if (map.get streamId).isSome then map.markReset streamId true errorCode finalSize else map

def onStopSendingFrameLost (map : StreamMap) (streamId errorCode : Nat) : StreamMap :=
  match map.get streamId with
  | none => map
  | some stream => if !stream.recv.isFin then map.markStopped streamId true errorCode else map

def onMaxStreamDataFrameLost (map : StreamMap) (streamId : Nat) : StreamMap :=
  if (map.get streamId).isSome then map.markAlmostFull streamId true else map

def onMaxDataFrameLost (map : StreamMap) : StreamMap := { map with rxAlmostFull := true }

def onStreamDataBlockedFrameLost (map : StreamMap) (streamId blockedAt : Nat) : StreamMap :=
  match map.get streamId with
  | none => map
  | some stream =>
    if blockedAt = stream.send.maxData then map.markBlocked streamId true blockedAt else map

def onDataBlockedFrameLost (map : StreamMap) (maxData : Nat) : StreamMap :=
  if maxData = map.sendCapacity.maxData then map.updateDataBlockedAt (some maxData) else map

def onStreamsBlockedFrameLost (map : StreamMap) (bidi : Bool) (maxStreams : Nat) : StreamMap :=
  if maxStreams = map.concurrencyControl.peerMaxStreams bidi then
    { map with
      concurrencyControl :=
        map.concurrencyControl.updateStreamsBlockedAt bidi (some maxStreams) }
  else map

/-! ## Writing frames into packets -/

/-- Type, stream identifier, offset and a length of two bytes. -/
def streamHeaderWireLen (streamId offset : Nat) : Nat :=
  1 + encodeVarintLen streamId + encodeVarintLen offset + 2

def maxStreamOverhead : Nat := 19

theorem streamHeaderWireLen_le (streamId offset : Nat) :
    streamHeaderWireLen streamId offset ≤ maxStreamOverhead := by
  have id := encodeVarintLen_le streamId
  have off := encodeVarintLen_le offset
  unfold streamHeaderWireLen maxStreamOverhead
  omega

/-- The loop of `try_write_stream_frames` over a buffer with `cap` bytes left. Returns
the frames written, newest last; `none` if the fuel or the copying of a stream ends. -/
def writeStreamFrames : Nat → StreamMap → Nat → Option (List StreamFrame × StreamMap)
  | 0, _, _ => none
  | fuel + 1, map, cap =>
    match map.peekSendable with
    | (none, map) => some ([], map)
    | (some streamId, map) =>
      match (map.get streamId).filter (fun stream => !stream.send.isStopped) with
      -- No frames for streams that are gone or were stopped by the peer.
      | none => writeStreamFrames fuel map.removeSendable cap
      | some stream =>
        let offset := stream.send.sendOff
        let headerLen := streamHeaderWireLen streamId offset
        match stream.send.read (cap - headerLen) with
        | none => none
        | some ((bytes, fin), send) =>
          let stream := { stream with send }
          let map := map.setStream streamId stream
          let cap := cap - (headerLen + bytes.length)
          let frame : StreamFrame := ⟨streamId, offset, bytes.length, fin⟩
          let map := if !stream.isSendable then map.removeSendable else map
          if cap ≤ maxStreamOverhead then some ([frame], map)
          else
            (writeStreamFrames fuel map cap).map
              fun written => (frame :: written.1, written.2)

def sendableLen (map : StreamMap) : Nat :=
  map.sendable.total (fun entry => entry.2.nonIncremental.length + entry.2.incremental.length)

/-- Every round of the loop removes an entry of the queues or writes at least a byte. -/
def tryWriteStreamFrames (map : StreamMap) (outLen : Nat) : Option (List StreamFrame × StreamMap) :=
  if outLen ≤ maxStreamOverhead then some ([], map)
  else writeStreamFrames (map.sendableLen + outLen + 1) map outLen

def writeResetStream (map : StreamMap) (streamId : Nat) : Option ((Nat × Nat) × StreamMap) :=
  (map.reset.get? streamId).map fun reset => (reset, map.markReset streamId false 0 0)

def writeStopSending (map : StreamMap) (streamId : Nat) : Option (Nat × StreamMap) :=
  (map.stopped.get? streamId).map fun errorCode => (errorCode, map.markStopped streamId false 0)

def writeStreamDataBlocked (map : StreamMap) (streamId : Nat) : Option (Nat × StreamMap) :=
  (map.dataBlocked.get? streamId).map fun limit => (limit, map.markBlocked streamId false 0)

def writeDataBlocked (map : StreamMap) : Option (Nat × StreamMap) :=
  map.sendCapacity.blockedAt.map fun blockedAt => (blockedAt, map.updateDataBlockedAt none)

def writeStreamsBlocked (map : StreamMap) (bidi : Bool) : Option (Nat × StreamMap) :=
  (map.concurrencyControl.streamsBlockedAt bidi).map fun blockedAt =>
    (blockedAt, { map with
      concurrencyControl := map.concurrencyControl.updateStreamsBlockedAt bidi none })

def writeMaxStreams (map : StreamMap) (bidi : Bool) : Option (Nat × StreamMap) :=
  if map.concurrencyControl.shouldUpdateLocalMaxStreams bidi then
    some (map.concurrencyControl.localMaxStreamsNext bidi,
      { map with concurrencyControl := map.concurrencyControl.updateLocalMaxStreams bidi })
  else none

/-- A MAX_STREAM_DATA frame is due but finds no room: its stream is tuned all the same. -/
def tuneMaxStreamData (map : StreamMap) (streamId : Nat) (now : Instant) (srtt : Duration) :
    Option StreamMap :=
  if streamId ∈ map.almostFull then
    (map.get streamId).map fun stream =>
      map.setStream streamId { stream with recv := stream.recv.autotuneWindow now srtt }
  else none

/-- Write a MAX_STREAM_DATA frame that is due and for which there is room. The connection window is
kept at one and a half times the window of the stream. -/
def writeMaxStreamData (map : StreamMap) (streamId : Nat) (now : Instant) (srtt : Duration) :
    Option (Option Nat × StreamMap) :=
  if streamId ∈ map.almostFull then
    match map.get streamId with
    | none => some (none, map.markAlmostFull streamId false)
    | some stream =>
      let recv := stream.recv.autotuneWindow now srtt
      let recvWin := recv.flowControl.window
      let map := map.setStream streamId { stream with recv := recv.updateMaxData now }
      let map := map.markAlmostFull streamId false
      some (some recv.flowControl.maxDataNext,
        { map with
          flowControl := map.flowControl.ensureWindowLowerBound (connectionWindowFor recvWin)
          rxAlmostFull := true })
  else none

def needSendMaxData (map : StreamMap) : Bool :=
  map.rxAlmostFull && map.flowControl.maxData < map.flowControl.maxDataNext

/-- A MAX_DATA frame is due but finds no room: the window is tuned all the same. -/
def tuneMaxData (map : StreamMap) (now : Instant) (srtt : Duration) : Option StreamMap :=
  if map.needSendMaxData then
    some { map with flowControl := map.flowControl.autotuneWindow now srtt }
  else none

/-- Write a MAX_DATA frame that is due and for which there is room. -/
def writeMaxData (map : StreamMap) (now : Instant) (srtt : Duration) : Option (Nat × StreamMap) :=
  if map.needSendMaxData then
    let flowControl := map.flowControl.autotuneWindow now srtt
    some (flowControl.maxDataNext,
      { map with flowControl := flowControl.updateMaxData now, rxAlmostFull := false })
  else none

def processEvent (map : StreamMap) : Option StreamMap :=
  match map.events with
  | some (event :: rest) =>
    let map := { map with events := some rest }
    match event with
    | .streamCreated _ => some map
    | .streamClosed streamId => some (map.streamDestroy streamId)
  | _ => none

end StreamMap

end Tquic.Connection
