import Tquic.H3.Connection

/-! What HTTP/3 sends: requests, headers, bodies and the frames of the control stream, after
`h3/connection.rs`. -/

set_option autoImplicit false

namespace Tquic.H3

open Lib Connection

/-! ## Priorities -/

def priorityUrgencyLowerBound : Nat := 0
def priorityUrgencyUpperBound : Nat := 7
def priorityUrgencyDefault : Nat := 3
def priorityIncrementalDefault : Bool := false
def priorityUrgencyOffset : Nat := 124

structure Http3Priority where
  urgency : Nat := priorityUrgencyDefault
  incremental : Bool := priorityIncrementalDefault
  deriving DecidableEq

namespace Http3Priority

def subjectToBound (priority : Http3Priority) : Nat :=
  max priorityUrgencyLowerBound (min priority.urgency priorityUrgencyUpperBound)

def mapToQuic (priority : Http3Priority) : Nat := priority.subjectToBound + priorityUrgencyOffset

/-- The value of the field `priority`. -/
def fieldValue (priority : Http3Priority) : Bytes :=
  let value := "u=" ++ toString priority.subjectToBound ++ if priority.incremental then ",i" else ""
  value.toUTF8.data.toList

end Http3Priority

namespace Http3Connection

/-! ## Streams -/

def updateNextRequestStreamId : ConnM Unit := do
  let (http3, _) ← get
  if 2 ^ 62 ≤ http3.nextRequestStreamId then throw .idError
  else update ({ · with nextRequestStreamId := http3.nextRequestStreamId + 4 })

def updateNextUniStreamId : ConnM Unit := do
  let (http3, _) ← get
  if 2 ^ 62 ≤ http3.nextUniStreamId then throw .idError
  else update ({ · with nextUniStreamId := http3.nextUniStreamId + 4 })

def streamNewWithPriority (priority : Http3Priority) : ConnM Nat := do
  let (http3, _) ← get
  if http3.peerGoawayId.isSome then throw .idError
  else
    let streamId := http3.nextRequestStreamId
    call (QuicConn.streamNew streamId priority.mapToQuic priority.incremental)
    update (·.setStream streamId { Http3Stream.new streamId true with priorityInitialized := true })
    updateNextRequestStreamId
    return streamId

/-- Only request streams can be closed. A failure of the transport is ignored. -/
def streamClose (streamId : Nat) : ConnM Unit := do
  if streamId % 4 ≠ 0 then throw .internalError
  else
    let (http3, conn) ← get
    match http3.streams.get? streamId with
    | none => pure ()
    | some stream => do
        let _ ← Stateful.attempt
          (if conn.streamFinished streamId then pure ()
          else call (QuicConn.streamShutdown streamId .read 0) : ConnM Unit)
        let _ ← Stateful.attempt
          (if stream.writeFinished then pure ()
          else call (QuicConn.streamShutdown streamId .write 0) : ConnM Unit)
        update (·.streamDestroy streamId)

def streamSetPriority (streamId : Nat) (priority : Http3Priority) : ConnM Unit := do
  let (http3, _) ← get
  if (http3.streams.get? streamId).isNone then pure ()
  else call (QuicConn.streamSetPriority streamId priority.mapToQuic priority.incremental)

/-- A stream that the transport has closed is forgotten. -/
def destroyFinished (streamId : Nat) : ConnM Unit := do
  let (_, conn) ← get
  update fun http3 => if conn.streamFinished streamId then http3.streamDestroy streamId else http3

/-! ## Headers -/

def encodeHeaderFields (headers : List Qpack.Header) : ConnM Bytes := do
  let (http3, _) ← get
  let maxFieldSectionSize := http3.peerSettings.maxFieldSectionSize.getD (2 ^ 64 - 1)
  let headersSize := (headers.map Qpack.headerSize).sum
  if maxFieldSectionSize < headersSize then throw .excessiveLoad
  else
    match Qpack.encode headers headersSize with
    | .ok (headerBlock, _) => return headerBlock
    | .error .panic => throw .panic
    | .error _ => throw .internalError

def frameHeader (frameType payloadLen : Nat) : Except Http3Error Bytes :=
  let header : Http3Encoder Unit := do
    Http3Encoder.writeVarint frameType
    Http3Encoder.writeVarint payloadLen
  match header.run { written := [], room := 10 } with
  | .error error => .error error
  | .ok (_, sink) => .ok sink.written

def noteHeadersSent (http3 : Http3Connection) (streamId : Nat) (fin : Bool) : Http3Connection :=
  match http3.streams.get? streamId with
  | none => http3
  | some stream =>
      http3.setStream streamId
        { stream with
          headerBlock := none
          localInitialized := true
          writeFinished := fin || stream.writeFinished }

def sendHeaderBlock (streamId : Nat) (headerBlock : Bytes) (fin : Bool) : ConnM Unit := do
  let header ← Stateful.ofExcept (frameHeader headersFrameType headerBlock.length)
  match ← Stateful.attempt
    (call (QuicConn.streamWritable streamId (header.length + headerBlock.length))) with
  | .error error => do
      destroyFinished streamId
      throw error
  | .ok false => do
      let _ ← Stateful.attempt (call (QuicConn.streamWantWrite streamId true) : ConnM Unit)
      onStream streamId (Http3Stream.own
        (modify ({ · with headerBlock := some (headerBlock, fin) })))
      throw .streamBlocked
  | .ok true => do
      let _ ← call (QuicConn.streamWrite streamId header false)
      let _ ← call (QuicConn.streamWrite streamId headerBlock fin)
      update (·.noteHeadersSent streamId fin)
      if fin then destroyFinished streamId else pure ()

/-- The transport learns the default priority of HTTP/3, once. -/
def initPriority (streamId : Nat) (stream : Http3Stream) : ConnM Unit := do
  if stream.priorityInitialized then pure ()
  else
    let priority : Http3Priority := {}
    call (QuicConn.streamSetPriority streamId priority.mapToQuic priority.incremental)
    update (·.setStream streamId { stream with priorityInitialized := true })

def sendHeaders (streamId : Nat) (headers : List Qpack.Header) (fin : Bool) : ConnM Unit := do
  let (http3, _) ← get
  if streamId % 4 ≠ 0 then throw .frameUnexpected
  else
    match http3.streams.get? streamId with
    | none => throw .frameUnexpected
    | some stream => do
        initPriority streamId stream
        let headerBlock ← encodeHeaderFields headers
        sendHeaderBlock streamId headerBlock fin

/-! ## Bodies -/

/-- Ask to be told when the stream takes `len` bytes. -/
def awaitWritable (streamId len : Nat) : ConnM Unit := do
  let _ ← Stateful.attempt (call (QuicConn.streamWritable streamId len) : ConnM Bool)
  let _ ← Stateful.attempt (call (QuicConn.streamWantWrite streamId true) : ConnM Unit)
  return ()

def noteBodySent (streamId : Nat) : ConnM Unit := do
  let (_, conn) ← get
  update fun http3 =>
    if conn.streamFinished streamId then http3.streamDestroy streamId
    else
      match http3.streams.get? streamId with
      | none => http3
      | some stream => http3.setStream streamId { stream with writeFinished := true }

/-- The end of `send_body`: one DATA frame, with as much of the body as there is room for. FIN goes
with the end of the body only. -/
def sendDataFrame (streamId sendCapacity : Nat) (body : Bytes) (fin : Bool) : ConnM Nat := do
  -- the type of the frame takes one byte
  let overhead := 1 + encodeVarintLen body.length
  if sendCapacity < overhead then
    awaitWritable streamId (overhead + 1)
    throw .done
  else
    let frameLen := min body.length (sendCapacity - overhead)
    let fin := fin && frameLen == body.length
    let payload := body.take frameLen
    if payload.isEmpty && !fin then throw .done
    else
      let header ← Stateful.ofExcept (frameHeader dataFrameType frameLen)
      let _ ← call (QuicConn.streamWrite streamId header false)
      let written ← call (QuicConn.streamWrite streamId payload fin)
      if written < body.length then
        -- the type and at least one byte of payload
        awaitWritable streamId (2 + encodeVarintLen (body.length - written))
        return written
      else if fin then
        noteBodySent streamId
        return written
      else return written

/-- The number of bytes of the body that were written. A header block that waits is sent first, and
then instead of the body; it takes over the FIN of an empty body. -/
def sendBody (streamId : Nat) (body : Bytes) (fin : Bool) : ConnM Nat := do
  let (http3, conn) ← get
  if streamId % 4 ≠ 0 then throw .frameUnexpected
  else
    match http3.streams.get? streamId with
    | none => throw .frameUnexpected
    | some stream =>
        match stream.headerBlock with
        | some (headerBlock, writeFin) => do
            update (·.setStream streamId { stream with headerBlock := none })
            sendHeaderBlock streamId headerBlock (writeFin || (fin && body.isEmpty))
            throw .noError
        | none =>
            if !stream.localInitialized then throw .frameUnexpected
            else if body.isEmpty && !fin then throw .done
            else
              match conn.streamCapacity streamId with
              | .error error => do
                  destroyFinished streamId
                  throw (Http3Error.ofError error)
              | .ok sendCapacity => sendDataFrame streamId sendCapacity body fin

/-! ## The control stream -/

/-- A frame in a buffer of `room` bytes, written to the control stream. -/
def writeFrame (streamId : Nat) (frame : Http3Frame) (room : Nat) : ConnM Unit := do
  let (bytes, _) ← Stateful.ofExcept (frame.encode room)
  let _ ← call (QuicConn.streamWrite streamId bytes false)
  return ()

def sendPriorityUpdateForRequest (streamId : Nat) (priority : Http3Priority) : ConnM Unit := do
  let (http3, conn) ← get
  match if http3.isServer then none else http3.localControlStreamId with
  | none => throw .frameUnexpected
  | some localControlStreamId =>
      if conn.streams.isClosed streamId then throw .frameUnexpected
      else if streamId % 4 ≠ 0 ||
          conn.streams.concurrencyControl.peerMaxStreams true < streamId then throw .idError
      else
        let priorityFieldValue := priority.fieldValue
        let framePayloadLen := encodeVarintLen streamId + priorityFieldValue.length
        let overhead := 4 + encodeVarintLen streamId + encodeVarintLen framePayloadLen
        match ← Stateful.attempt (call (QuicConn.streamWritable localControlStreamId
          (overhead + priorityFieldValue.length))) with
        | .error error => throw error
        | .ok false => do
            let _ ← Stateful.attempt
              (call (QuicConn.streamWantWrite localControlStreamId true) : ConnM Unit)
            throw .streamBlocked
        | .ok true =>
            writeFrame localControlStreamId (.priorityUpdateRequest streamId priorityFieldValue)
              (overhead + priorityFieldValue.length)

def takePriorityUpdate (prioritizedElementId : Nat) : ConnM Bytes := do
  let (http3, _) ← get
  match http3.streams.get? prioritizedElementId with
  | none => throw .done
  | some stream => do
      update (·.setStream prioritizedElementId { stream with priorityUpdate := none })
      match stream.priorityUpdate with
      | none => throw .done
      | some priorityFieldValue => return priorityFieldValue

/-- A client always sends zero, for it never accepts a push. -/
def sendGoaway (id : Nat) : ConnM Unit := do
  let (http3, conn) ← get
  let id := if http3.isServer then id else 0
  if http3.isServer && id % 4 ≠ 0 then throw .idError
  else if http3.localGoawayId.any (· < id) then throw .idError
  else
    match http3.localControlStreamId with
    | none => throw .internalError
    | some streamId => do
        let (bytes, frameLen) ← Stateful.ofExcept ((Http3Frame.goAway id).encode 10)
        let streamCap ← Stateful.ofExcept
          ((conn.streamCapacity streamId).mapError Http3Error.ofError)
        if streamCap < frameLen then
          let _ ← Stateful.attempt (call (QuicConn.streamWantWrite streamId true) : ConnM Unit)
          throw .streamBlocked
        else
          let _ ← call (QuicConn.streamWrite streamId bytes false)
          update ({ · with localGoawayId := some id })

/-! ## Opening the critical streams -/

def uniStreamDefaultPriority (streamType : Nat) : Nat × Bool :=
  if streamType = http3ControlStreamType || streamType = qpackEncoderStreamType ||
      streamType = qpackDecoderStreamType then (0, false)
  else if streamType = http3PushStreamType then (127, true)
  else (255, false)

def openUniStream (streamType : Nat) : ConnM Nat := do
  let (http3, _) ← get
  let streamId := http3.nextUniStreamId
  let (urgency, incremental) := uniStreamDefaultPriority streamType
  call (QuicConn.streamNew streamId urgency incremental)
  let (_, sink) ← Stateful.ofExcept
    ((Http3Encoder.writeVarint streamType).run { written := [], room := 8 })
  let _ ← call (QuicConn.streamWrite streamId sink.written false)
  updateNextUniStreamId
  return streamId

def openQpackEncoderStream : ConnM Unit := do
  let streamId ← openUniStream qpackEncoderStreamType
  update fun http3 =>
    { http3 with
      localQpackStreams := { http3.localQpackStreams with encoderStreamId := some streamId } }

def openQpackDecoderStream : ConnM Unit := do
  let streamId ← openUniStream qpackDecoderStreamType
  update fun http3 =>
    { http3 with
      localQpackStreams := { http3.localQpackStreams with decoderStreamId := some streamId } }

def sendSettingsFrame (streamId : Nat) : ConnM Unit := do
  let (http3, _) ← get
  let settings := http3.localSettings
  writeFrame streamId
    (.settings settings.maxFieldSectionSize settings.qpackMaxTableCapacity
      settings.qpackBlockedStreams settings.connectProtocolEnabled none) 128

def openControlStream : ConnM Unit := do
  match ← Stateful.attempt (openUniStream http3ControlStreamType) with
  | .error .done => throw .internalError
  | .error error => throw error
  | .ok streamId => do
      update ({ · with localControlStreamId := some streamId })
      sendSettingsFrame streamId

def openCriticalStreams : ConnM Unit := do
  match ← Stateful.attempt openControlStream with
  | .error error => closeWith error "open control stream failed"
  | .ok _ => do
      let _ ← Stateful.attempt openQpackEncoderStream
      let _ ← Stateful.attempt openQpackDecoderStream
      return ()

/-- A connection on an established transport, or on one in early data. -/
def newWithQuicConn (conn : QuicConn) (usable : Bool)
    (maxFieldSectionSize qpackMaxTableCapacity qpackBlockedStreams : Option Nat) :
    Except Http3Error Unit × Http3Connection × QuicConn :=
  let http3 := Http3Connection.new conn.streams.isServer maxFieldSectionSize qpackMaxTableCapacity
    qpackBlockedStreams
  if !conn.streams.isServer && !usable then (.error .internalError, http3, conn)
  else openCriticalStreams.run (http3, conn)

end Http3Connection

end Tquic.H3
