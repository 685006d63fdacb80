import Mathlib.Data.Finset.Defs
import Tquic.H3.Qpack.Qpack
import Tquic.H3.Stream

/-! A connection of HTTP/3 and how it processes what the peer sends, after `h3/connection.rs`. -/

set_option autoImplicit false

namespace Tquic.H3

open Lib Connection

inductive Http3Event where
  | headers (headers : List Qpack.Header) (fin : Bool)
  | data
  | finished
  | reset (errorCode : Nat)
  | goAway
  | priorityUpdate
  deriving DecidableEq

structure Http3Settings where
  maxFieldSectionSize : Option Nat := none
  qpackMaxTableCapacity : Option Nat := none
  qpackBlockedStreams : Option Nat := none
  connectProtocolEnabled : Option Nat := none
  raw : Option (List (Nat × Nat)) := none
  deriving DecidableEq

structure QpackStreams where
  encoderStreamId : Option Nat := none
  decoderStreamId : Option Nat := none
  deriving DecidableEq

structure Http3Connection where
  isServer : Bool
  streams : OrdMap Nat Http3Stream
  -- Streams whose end is to be reported, the oldest first.
  finishedStreams : List Nat
  localSettings : Http3Settings
  peerSettings : Http3Settings
  localQpackStreams : QpackStreams
  peerQpackStreams : QpackStreams
  nextRequestStreamId : Nat
  nextUniStreamId : Nat
  localControlStreamId : Option Nat
  peerControlStreamId : Option Nat
  localGoawayId : Option Nat
  peerGoawayId : Option Nat
  maxPushId : Option Nat
  -- History: the frames that were processed, each with its stream. No function reads it.
  processed : List (Nat × Http3Frame)

abbrev ConnM (α : Type) : Type := Http3M Http3Connection α

/-- Visits the members of a hash set in some order. -/
structure SetOrder where
  iter : Finset Nat → List Nat
  complete : ∀ set streamId, streamId ∈ iter set ↔ streamId ∈ set

namespace Http3Connection

def initialUniStreamId (isServer : Bool) : Nat := if isServer then 3 else 2

def new (isServer : Bool) (maxFieldSectionSize qpackMaxTableCapacity qpackBlockedStreams : Option Nat) :
    Http3Connection :=
  { isServer
    streams := ∅
    finishedStreams := []
    localSettings := { maxFieldSectionSize, qpackMaxTableCapacity, qpackBlockedStreams }
    peerSettings := {}
    localQpackStreams := {}
    peerQpackStreams := {}
    nextRequestStreamId := 0
    nextUniStreamId := initialUniStreamId isServer
    localControlStreamId := none
    peerControlStreamId := none
    localGoawayId := none
    peerGoawayId := none
    maxPushId := none
    processed := [] }

def setStream (http3 : Http3Connection) (streamId : Nat) (stream : Http3Stream) : Http3Connection :=
  { http3 with streams := http3.streams.insert streamId stream }

def streamDestroy (http3 : Http3Connection) (streamId : Nat) : Http3Connection :=
  { http3 with streams := http3.streams.erase streamId }

/-- Steps on HTTP/3 alone. -/
def update (change : Http3Connection → Http3Connection) : ConnM Unit :=
  modify fun state => (change state.1, state.2)

def onStream {α : Type} (streamId : Nat) (steps : Http3M Http3Stream α) : ConnM α := fun state =>
  match state.1.streams.get? streamId with
  | none => (.error .panic, state)
  | some stream =>
      let outcome := steps.run (stream, state.2)
      (outcome.1, (state.1.setStream streamId outcome.2.1, outcome.2.2))

def getOrCreate (streamId : Nat) (byLocal : Bool) : ConnM Http3Stream := do
  let (http3, _) ← get
  match http3.streams.get? streamId with
  | some stream => return stream
  | none =>
      if !http3.isServer && isBidi streamId && !byLocal then throw .streamCreationError
      else do
        let stream := Http3Stream.new streamId byLocal
        update (·.setStream streamId stream)
        return stream

/-! ## Critical streams -/

def registerControlStream (streamId : Nat) : ConnM Unit := do
  let (http3, _) ← get
  if http3.peerControlStreamId.isSome then
    closeWith .streamCreationError "multiple control streams received"
  else update ({ · with peerControlStreamId := some streamId })

def registerQpackEncoderStream (streamId : Nat) : ConnM Unit := do
  let (http3, _) ← get
  if http3.peerQpackStreams.encoderStreamId.isSome then
    closeWith .streamCreationError "multiple QPACK encoder streams received"
  else
    update fun http3 =>
      { http3 with
        peerQpackStreams := { http3.peerQpackStreams with encoderStreamId := some streamId } }

def registerQpackDecoderStream (streamId : Nat) : ConnM Unit := do
  let (http3, _) ← get
  if http3.peerQpackStreams.decoderStreamId.isSome then
    closeWith .streamCreationError "multiple QPACK decoder streams received"
  else
    update fun http3 =>
      { http3 with
        peerQpackStreams := { http3.peerQpackStreams with decoderStreamId := some streamId } }

def registerCriticalStream (streamType : Http3StreamType) (streamId : Nat) : ConnM Unit :=
  match streamType with
  | .control => registerControlStream streamId
  | .qpackEncoder => registerQpackEncoderStream streamId
  | .qpackDecoder => registerQpackDecoderStream streamId
  | _ => throw .panic

def processNewUniStream (streamId : Nat) (streamType : Http3StreamType) : ConnM Unit := do
  match streamType with
  | .control | .qpackEncoder | .qpackDecoder => registerCriticalStream streamType streamId
  | .push => do
      let (http3, _) ← get
      if http3.isServer then closeWith .streamCreationError "server received push stream"
      else pure ()
  | .unknown _ => pure ()
  | .request => throw .panic

/-! ## Frames -/

def onHeadersFrameReceived (streamId : Nat) (fieldSection : Bytes) : ConnM (Nat × Http3Event) := do
  let (http3, _) ← get
  let maxFieldSectionSize := UInt64.ofNat
    (http3.localSettings.maxFieldSectionSize.getD (2 ^ 64 - 1))
  match Qpack.decode fieldSection maxFieldSectionSize with
  | .error error => closeWith error "qpack decompression failed"
  | .ok (headers, _) => do
      let (_, conn) ← get
      return (streamId, .headers headers (conn.streamFinished streamId))

/-- A client that gets the identifier of another kind of stream closes with another error than the
one that it returns. -/
def onGoawayFrameReceived (id : Nat) : ConnM (Nat × Http3Event) := do
  let (http3, _) ← get
  if !http3.isServer && id % 4 ≠ 0 then
    call (QuicConn.close true Http3Error.frameUnexpected.toWire
      "client received GOAWAY on non-request stream")
    throw .idError
  else if http3.peerGoawayId.any (· < id) then
    closeWith .idError "GOAWAY carries a larger ID than previously received"
  else
    update ({ · with peerGoawayId := some id })
    return (id, .goAway)

def onMaxPushIdFrameReceived (pushId : Nat) : ConnM (Nat × Http3Event) := do
  let (http3, _) ← get
  if !http3.isServer then closeWith .frameUnexpected "MAX_PUSH_ID received by client"
  else if http3.maxPushId.any (pushId < ·) then
    closeWith .idError "MAX_PUSH_ID reduced the max push ID"
  else
    update ({ · with maxPushId := some pushId })
    throw .done

/-- The field section is ignored. -/
def onPushPromiseFrameReceived (streamId pushId : Nat) : ConnM (Nat × Http3Event) := do
  let (http3, _) ← get
  if http3.isServer then closeWith .frameUnexpected "PUSH_PROMISE received by server"
  else if streamId % 4 ≠ 0 then
    closeWith .frameUnexpected "PUSH_PROMISE received on non-request stream"
  else if http3.maxPushId.all (· < pushId) then
    closeWith .idError "PUSH_PROMISE uses a larger push ID than the client has advertised"
  else throw .done

def onPriorityUpdateRequestFrameReceived (prioritizedElementId : Nat) (priorityFieldValue : Bytes) :
    ConnM (Nat × Http3Event) := do
  let (http3, conn) ← get
  if !http3.isServer then closeWith .frameUnexpected "client received PRIORITY_UPDATE"
  else if prioritizedElementId % 4 ≠ 0 then
    closeWith .idError "PRIORITY_UPDATE for request stream with unexpected ID"
  else if (conn.streams.concurrencyControl.limit false true).maxStreams * 4 < prioritizedElementId then
    closeWith .idError "PRIORITY_UPDATE for request stream beyond the stream limits"
  else if conn.streams.isClosed prioritizedElementId then throw .done
  else
    match ← Stateful.attempt (getOrCreate prioritizedElementId false) with
    | .error error => closeWith error ""
    | .ok stream => do
        update (·.setStream prioritizedElementId
          { stream with priorityUpdate := some priorityFieldValue })
        if stream.priorityUpdate.isSome then throw .done
        else return (prioritizedElementId, .priorityUpdate)

def onPriorityUpdatePushFrameReceived : ConnM (Nat × Http3Event) := do
  let (http3, _) ← get
  if !http3.isServer then closeWith .frameUnexpected "client received PRIORITY_UPDATE"
  else throw .done

/-- What a frame does after it was recorded. -/
def handleFrame (streamId : Nat) : Http3Frame → ConnM (Nat × Http3Event)
  | .settings maxFieldSectionSize qpackMaxTableCapacity qpackBlockedStreams connectProtocolEnabled
      raw => do
      let peerSettings : Http3Settings :=
        { maxFieldSectionSize, qpackMaxTableCapacity, qpackBlockedStreams, connectProtocolEnabled,
          raw }
      update ({ · with peerSettings })
      throw .done
  | .headers fieldSection => onHeadersFrameReceived streamId fieldSection
  -- The payload of DATA frames is not processed here.
  | .data _ => throw .done
  | .goAway id => onGoawayFrameReceived id
  | .maxPushId pushId => onMaxPushIdFrameReceived pushId
  | .pushPromise pushId _ => onPushPromiseFrameReceived streamId pushId
  | .cancelPush _ => throw .done
  | .priorityUpdateRequest prioritizedElementId priorityFieldValue =>
      onPriorityUpdateRequestFrameReceived prioritizedElementId priorityFieldValue
  | .priorityUpdatePush _ _ => onPriorityUpdatePushFrameReceived
  | .unknown _ _ => throw .done

/-- The length of the payload is only logged. -/
def processFrame (streamId : Nat) (frame : Http3Frame) (_payloadLen : Nat) :
    ConnM (Nat × Http3Event) := do
  update fun http3 => { http3 with processed := http3.processed ++ [(streamId, frame)] }
  handleFrame streamId frame

/-! ## Readable streams -/

/-- What one turn of a processing loop ends with. -/
inductive Turn where
  | again
  | leave
  | event (event : Nat × Http3Event)

/-- The loops over a stream while it is in the map. A loop that runs out of turns counts as a
panic. -/
def whileStream (streamId : Nat) (turn : Http3Stream → ConnM Turn) : Nat → ConnM (Nat × Http3Event)
  | 0 => throw .panic
  | turns + 1 => do
      let (http3, _) ← get
      match http3.streams.get? streamId with
      | none => throw .done
      | some stream =>
          match ← turn stream with
          | .again => whileStream streamId turn turns
          | .leave => throw .done
          | .event event => return event

/-- Every turn reads something, or has a frame without payload, which comes after its header. -/
def turnsFor (streamId : Nat) (conn : QuicConn) : Nat := 2 * conn.unread streamId + 3

def processReadableStreamLoop (streamId : Nat) (turn : Http3Stream → ConnM Turn) :
    ConnM (Nat × Http3Event) := do
  let (_, conn) ← get
  whileStream streamId turn (turnsFor streamId conn)

def requestTurn (streamId : Nat) (polling : Bool) (stream : Http3Stream) : ConnM Turn :=
  match stream.state with
  | .frameType => do
      onStream streamId Http3Stream.parseFrameType
      return .again
  | .framePayloadLen => do
      onStream streamId Http3Stream.parseFramePayloadLength
      return .again
  | .framePayload =>
      if !polling then return .leave
      else do
        let parsed ← onStream streamId Http3Stream.parseFramePayload
        match ← Stateful.attempt (processFrame streamId parsed.1 parsed.2) with
        | .ok event => return .event event
        | .error .done => do
            let (_, conn) ← get
            return if conn.streamFinished streamId then .leave else .again
        | .error error => throw error
  | .data =>
      if !polling then return .leave
      else do
        let triggered ← onStream streamId (Http3Stream.own Http3Stream.triggerDataEvent)
        return if triggered then .event (streamId, .data) else .leave
  | .readFinished => return .leave
  | _ => throw .panic

def pushTurn (streamId : Nat) (polling : Bool) (stream : Http3Stream) : ConnM Turn :=
  match stream.state with
  | .pushId => do
      onStream streamId Http3Stream.parsePushId
      return .again
  | _ => requestTurn streamId polling stream

/-- A control stream is processed even while not polling, and never ends. -/
def controlTurn (streamId : Nat) (stream : Http3Stream) : ConnM Turn :=
  match stream.state with
  | .frameType => do
      onStream streamId Http3Stream.parseFrameType
      return .again
  | .framePayloadLen => do
      onStream streamId Http3Stream.parseFramePayloadLength
      return .again
  | .framePayload => do
      let parsed ← onStream streamId Http3Stream.parseFramePayload
      match ← Stateful.attempt (processFrame streamId parsed.1 parsed.2) with
      | .ok event => return .event event
      | .error .done => return .again
      | .error error => throw error
  | _ => throw .panic

def processReadableRequestStream (streamId : Nat) (polling : Bool) : ConnM (Nat × Http3Event) :=
  processReadableStreamLoop streamId (requestTurn streamId polling)

def processReadablePushStream (streamId : Nat) (polling : Bool) : ConnM (Nat × Http3Event) :=
  processReadableStreamLoop streamId (pushTurn streamId polling)

def processReadableControlStream (streamId : Nat) : ConnM (Nat × Http3Event) :=
  processReadableStreamLoop streamId (controlTurn streamId)

/-- The loop of `process_readable_qpack_stream`. Every turn but the last reads something. -/
def discardAll (streamId : Nat) : Nat → ConnM (Nat × Http3Event)
  | 0 => throw .panic
  | turns + 1 => do
      let _ ← call (QuicConn.streamRead streamId 4096)
      discardAll streamId turns

/-- Without the dynamic table the instructions have no effect. -/
def processReadableQpackStream (streamId : Nat) : ConnM (Nat × Http3Event) := do
  let (_, conn) ← get
  discardAll streamId (conn.unread streamId + 1)

def learnUniStreamType (streamId : Nat) (stream : Http3Stream) : ConnM Unit := do
  if stream.state = .streamType then
    let streamType ← onStream streamId Http3Stream.parseUniStreamType
    processNewUniStream streamId streamType
  else pure ()

def processReadableUniStream (streamId : Nat) (polling : Bool) : ConnM (Nat × Http3Event) := do
  let (http3, _) ← get
  match http3.streams.get? streamId with
  | none => throw .done
  | some stream => do
      learnUniStreamType streamId stream
      let (http3, _) ← get
      match (http3.streams.get? streamId).bind Http3Stream.streamType with
      | some .control => processReadableControlStream streamId
      | some .push => processReadablePushStream streamId polling
      | some .qpackEncoder | some .qpackDecoder => processReadableQpackStream streamId
      -- Streams of an unknown type are ignored, and shut down with H3_NO_ERROR.
      | some (.unknown _) => do
          call (QuicConn.streamShutdown streamId .read 0x100)
          throw .done
      -- The type is known here, and it is not that of a bidirectional stream.
      | some .request | none => throw .panic

def processReadableStream (streamId : Nat) (polling : Bool) : ConnM (Nat × Http3Event) := do
  match ← Stateful.attempt (getOrCreate streamId false) with
  | .error error => closeWith error ""
  | .ok _ =>
      if isBidi streamId then processReadableRequestStream streamId polling
      else processReadableUniStream streamId polling

def processFinishedStream (http3 : Http3Connection) (streamId : Nat) : Http3Connection :=
  match http3.streams.get? streamId with
  | none => http3
  | some stream =>
      if stream.state = .readFinished then http3
      else
        match stream.streamType with
        | some .request | some .push =>
            let http3 := http3.setStream streamId stream.markReadFinished
            { http3 with finishedStreams := http3.finishedStreams ++ [streamId] }
        | _ => http3

def checkCriticalStreamState (streamId : Nat) : ConnM Unit := do
  let (_, conn) ← get
  if conn.streamFinished streamId then closeWith .closedCriticalStream "closed critical stream"
  else pure ()

def processCriticalStream (streamId : Nat) : ConnM (Nat × Http3Event) := do
  checkCriticalStreamState streamId
  let (_, conn) ← get
  if !conn.streamReadable streamId then throw .done
  else
    match ← Stateful.attempt (processReadableUniStream streamId true) with
    | .ok event => return event
    | .error .done => do
        checkCriticalStreamState streamId
        throw .done
    | .error error => throw error

def firstEvent (process : Nat → ConnM (Nat × Http3Event)) : List Nat → ConnM (Nat × Http3Event)
  | [] => throw .done
  | streamId :: rest => do
      match ← Stateful.attempt (process streamId) with
      | .ok event => return event
      | .error .done => firstEvent process rest
      | .error error => throw error

def processCriticalStreams : ConnM (Nat × Http3Event) := do
  let (http3, _) ← get
  firstEvent processCriticalStream
    ([http3.peerControlStreamId, http3.peerQpackStreams.encoderStreamId,
      http3.peerQpackStreams.decoderStreamId].filterMap id)

/-- Mark a stream that was read whole, and forget it if it was written whole too. -/
def noteFinished (streamId : Nat) : ConnM Unit := do
  let (_, conn) ← get
  if conn.streamFinished streamId then
    update fun http3 =>
      let http3 := http3.processFinishedStream streamId
      match http3.streams.get? streamId with
      | some stream => if stream.writeFinished then http3.streamDestroy streamId else http3
      | none => http3
  else pure ()

/-- The turn of `process_readable_streams` for one stream. No event is an error `Done`. A stream
that was reset is reported at once, so that it is not reported as finished. -/
def pollReadableStream (streamId : Nat) : ConnM (Nat × Http3Event) := do
  match ← Stateful.attempt (processReadableStream streamId true) with
  | .ok event => do
      noteFinished streamId
      return event
  | .error .done => do
      noteFinished streamId
      throw .done
  | .error (.transportError (.streamReset errorCode)) => return (streamId, .reset errorCode)
  | .error error => throw error

def processReadableStreams (order : SetOrder) : ConnM (Nat × Http3Event) := do
  let (_, conn) ← get
  firstEvent pollReadableStream (order.iter conn.streams.readable)

/-- The oldest stream whose end is to be reported. -/
def popFinished : ConnM (Nat × Http3Event) := do
  let (http3, _) ← get
  match http3.finishedStreams with
  | [] => throw .done
  | streamId :: rest => do
      update ({ · with finishedStreams := rest })
      return (streamId, .finished)

/-- The second steps if the first end with `Done`. -/
def orElse (first second : ConnM (Nat × Http3Event)) : ConnM (Nat × Http3Event) := do
  match ← Stateful.attempt first with
  | .ok event => return event
  | .error .done => second
  | .error error => throw error

def poll (order : SetOrder) : ConnM (Nat × Http3Event) := do
  let (_, conn) ← get
  if conn.localError.isSome then throw .done
  else
    orElse popFinished
      (orElse processCriticalStreams (orElse (processReadableStreams order) popFinished))

/-! ## Receiving a body -/

/-- The loop of `recv_body`. Every turn but the last reads at least one byte, so that as many
turns as the buffer has bytes are enough. -/
def recvBodyLoop (streamId outLen : Nat) : Nat → Bytes → ConnM Bytes
  | 0, total => return total
  | turns + 1, total => do
      if outLen ≤ total.length then return total
      else
        let (http3, _) ← get
        match http3.streams.get? streamId with
        | none => throw .done
        | some stream =>
            if stream.state ≠ .data then return total
            else
              match ← Stateful.attempt
                (onStream streamId (Http3Stream.readDataFromQuic (outLen - total.length))) with
              | .error .done => return total
              | .error error => throw error
              | .ok (bytes, fin) =>
                  let total := total ++ bytes
                  if bytes.isEmpty || fin then return total
                  else
                    match ← Stateful.attempt (processReadableRequestStream streamId false) with
                    -- No event comes while not polling.
                    | .ok _ => throw .panic
                    | .error .done => do
                        let (_, conn) ← get
                        if conn.streamFinished streamId then return total
                        else recvBodyLoop streamId outLen turns total
                    | .error error => throw error

/-- Read the payload of DATA frames into a buffer of `outLen` bytes. -/
def recvBody (streamId outLen : Nat) : ConnM Bytes := do
  let total ← recvBodyLoop streamId outLen outLen []
  let (_, conn) ← get
  update fun http3 =>
    if conn.streamFinished streamId then http3.processFinishedStream streamId else http3
  if total.isEmpty then throw .done else return total

end Http3Connection

end Tquic.H3
