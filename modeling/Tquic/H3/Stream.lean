import Tquic.H3.Frame
import Tquic.H3.QuicConn

/-! The streams of HTTP/3 and their incremental parser, after `h3/stream.rs`. -/

set_option autoImplicit false

namespace Tquic.H3

open Lib Connection

def http3ControlStreamType : Nat := 0x0
def http3PushStreamType : Nat := 0x1
def qpackEncoderStreamType : Nat := 0x2
def qpackDecoderStreamType : Nat := 0x3

def initStateBufSize : Nat := 16
def maxStateBufSize : Nat := 2 ^ 24 - 1

inductive Http3StreamType where
  | control
  | request
  | push
  | qpackEncoder
  | qpackDecoder
  | unknown (typeId : Nat)
  deriving DecidableEq

def Http3StreamType.fromId (typeId : Nat) : Http3StreamType :=
  if typeId = http3ControlStreamType then .control
  else if typeId = http3PushStreamType then .push
  else if typeId = qpackEncoderStreamType then .qpackEncoder
  else if typeId = qpackDecoderStreamType then .qpackDecoder
  else .unknown typeId

inductive Http3StreamState where
  | streamType
  | frameType
  | framePayloadLen
  | framePayload
  | data
  | pushId
  | qpackEncoderInstruction
  | qpackDecoderInstruction
  | skip
  | readFinished
  deriving DecidableEq

/-! ## The state machine -/

structure Http3StateMachine where
  state : Http3StreamState
  -- Holds what was read of the current state.
  buf : Bytes
  -- The state is ready when that many bytes were read.
  expectedLen : Nat
  writeOff : Nat
  deriving DecidableEq

namespace Http3StateMachine

/-- The first byte tells the length of a variable-length integer. -/
def new (state : Http3StreamState) : Http3StateMachine :=
  { state, buf := List.replicate initStateBufSize 0, expectedLen := 1, writeOff := 0 }

def ready (machine : Http3StateMachine) : Bool := machine.writeOff == machine.expectedLen

/-- `Vec::resize`. -/
def resize (buf : Bytes) (newLen : Nat) (value : UInt8) : Bytes :=
  buf.take newLen ++ List.replicate (newLen - buf.length) value

def remainingLen (machine : Http3StateMachine) : Except Http3Error Nat :=
  if machine.expectedLen < machine.writeOff then .error .panic
  else .ok (machine.expectedLen - machine.writeOff)

def increaseOff (machine : Http3StateMachine) (len : Nat) : Http3StateMachine :=
  { machine with writeOff := machine.writeOff + len }

/-- Copy what was read behind the bytes that are there. -/
def fill (machine : Http3StateMachine) (bytes : Bytes) : Http3StateMachine :=
  { machine with
    buf := machine.buf.take machine.writeOff ++ bytes ++
      machine.buf.drop (machine.writeOff + bytes.length) }

def transition (newState : Http3StreamState) (newLen : Nat) (resized : Bool) :
    Stateful Http3StateMachine Http3Error Unit := do
  if resized && maxStateBufSize < newLen then throw .excessiveLoad
  else
    modify fun machine =>
      { state := newState
        buf := if resized then resize machine.buf newLen 0 else machine.buf
        expectedLen := newLen
        writeOff := 0 }

/-- The first byte tells how many bytes the integer has. -/
def measureVarint (machine : Http3StateMachine) : Except Http3Error Http3StateMachine :=
  if machine.writeOff = 1 then
    match machine.buf with
    | [] => .error .panic
    | first :: _ =>
        .ok { machine with
          expectedLen := decodeVarintLen first
          buf := resize machine.buf (decodeVarintLen first) 0 }
  else .ok machine

def parseVarint : Stateful Http3StateMachine Http3Error Nat := do
  let machine ← Stateful.ofExcept (measureVarint (← get))
  set machine
  if !machine.ready then throw .done
  else
    let (varint, _) ← Stateful.ofExcept (Http3Decoder.readVarint.run machine.buf)
    return varint

end Http3StateMachine

/-! ## Streams -/

structure Http3Stream where
  byLocal : Bool
  streamId : Nat
  -- `none` while it is not known.
  streamType : Option Http3StreamType
  frameType : Option Nat
  machine : Http3StateMachine
  peerInitialized : Bool
  localInitialized : Bool
  writeFinished : Bool
  dataEventTriggered : Bool
  priorityInitialized : Bool
  priorityUpdate : Option Bytes
  -- A header block that waits for flow control, and whether FIN goes with it.
  headerBlock : Option (Bytes × Bool)
  deriving DecidableEq

namespace Http3Stream

/-- The type of a unidirectional stream is unknown until it is read. -/
def new (streamId : Nat) (byLocal : Bool) : Http3Stream :=
  { byLocal
    streamId
    streamType := if isBidi streamId then some .request else none
    frameType := none
    machine := .new (if isBidi streamId then .frameType else .streamType)
    peerInitialized := false
    localInitialized := false
    writeFinished := false
    dataEventTriggered := false
    priorityInitialized := false
    priorityUpdate := none
    headerBlock := none }

def state (stream : Http3Stream) : Http3StreamState := stream.machine.state

/-! ## Which frames a stream may carry -/

/-- SETTINGS comes first, and once. -/
def checkFrameOnControlStream (frameType : Nat) : Stateful Http3Stream Http3Error Unit := do
  let stream ← get
  if !stream.peerInitialized then
    if frameType = settingsFrameType then
      modify fun stream => { stream with peerInitialized := true }
    else throw .missingSettings
  else if frameType ∈ [settingsFrameType, dataFrameType, headersFrameType, pushPromiseFrameType] then
    throw .frameUnexpected
  else pure ()

def controlFrameTypes : List Nat :=
  [cancelPushFrameType, settingsFrameType, goawayFrameType, maxPushIdFrameType,
    priorityUpdateFrameRequestType, priorityUpdateFramePushType]

def checkFrameOnRequestStream (frameType : Nat) : Stateful Http3Stream Http3Error Unit := do
  let stream ← get
  if frameType = headersFrameType && !stream.peerInitialized then
    modify fun stream => { stream with peerInitialized := true }
  else if frameType = dataFrameType && !stream.peerInitialized then throw .frameUnexpected
  else if frameType ∈ controlFrameTypes then throw .frameUnexpected
  else pure ()

def checkFrameOnPushStream (frameType : Nat) : Stateful Http3Stream Http3Error Unit := do
  if frameType ∈ pushPromiseFrameType :: controlFrameTypes then throw .frameUnexpected
  else pure ()

/-! ## What follows a value that was read -/

def transitionState (newState : Http3StreamState) (newLen : Nat) (resized : Bool) :
    Stateful Http3Stream Http3Error Unit :=
  Stateful.zoom Http3Stream.machine (fun machine stream => { stream with machine })
    (Http3StateMachine.transition newState newLen resized)

def setStreamType (streamType : Http3StreamType) : Stateful Http3Stream Http3Error Unit := do
  modify fun stream => { stream with streamType := some streamType }
  match streamType with
  | .control | .request => transitionState .frameType 1 true
  | .push => transitionState .pushId 1 true
  | .qpackEncoder => do
      modify fun stream => { stream with peerInitialized := true }
      transitionState .qpackEncoderInstruction 1 true
  | .qpackDecoder => do
      modify fun stream => { stream with peerInitialized := true }
      transitionState .qpackDecoderInstruction 1 true
  | .unknown _ => transitionState .skip 1 true

/-- The push identifier is ignored. -/
def setPushId (_pushId : Nat) : Stateful Http3Stream Http3Error Unit :=
  transitionState .frameType 1 true

def checkFrame (frameType : Nat) : Stateful Http3Stream Http3Error Unit := do
  let stream ← get
  match stream.streamType with
  | some .control => checkFrameOnControlStream frameType
  | some .request => checkFrameOnRequestStream frameType
  | some .push => checkFrameOnPushStream frameType
  | _ => throw .frameUnexpected

def setFrameType (frameType : Nat) : Stateful Http3Stream Http3Error Unit := do
  checkFrame frameType
  modify fun stream => { stream with frameType := some frameType }
  transitionState .framePayloadLen 1 true

def fieldFrameTypes : List Nat :=
  [goawayFrameType, pushPromiseFrameType, cancelPushFrameType, maxPushIdFrameType,
    priorityUpdateFrameRequestType, priorityUpdateFramePushType]

def setFramePayloadLen (framePayloadLen : Nat) : Stateful Http3Stream Http3Error Unit := do
  let stream ← get
  if stream.frameType = some dataFrameType then transitionState .data framePayloadLen false
  else if stream.frameType.any (· ∈ fieldFrameTypes) && framePayloadLen = 0 then throw .frameError
  else transitionState .framePayload framePayloadLen true

/-! ## Events -/

def resetDataEventState : Stateful Http3Stream Http3Error Unit :=
  modify fun stream => { stream with dataEventTriggered := false }

/-- Whether the event is new. -/
def triggerDataEvent : Stateful Http3Stream Http3Error Bool := do
  let stream ← get
  modify fun stream => { stream with dataEventTriggered := true }
  return !stream.dataEventTriggered

def markReadFinished (stream : Http3Stream) : Http3Stream :=
  ((transitionState .readFinished 0 false).run stream).2

/-! ## Reading from the transport -/

def own {α : Type} (steps : Stateful Http3Stream Http3Error α) : Http3M Http3Stream α :=
  Stateful.zoom Prod.fst (fun stream state => (stream, state.2)) steps

def ownMachine {α : Type} (steps : Stateful Http3StateMachine Http3Error α) :
    Http3M Http3Stream α :=
  own (Stateful.zoom Http3Stream.machine (fun machine stream => { stream with machine }) steps)

def getStream : Http3M Http3Stream Http3Stream := own get

def failRead {α : Type} (error : Http3Error) : Http3M Http3Stream α := do
  own (if error = .done then resetDataEventState else pure ())
  throw error

def readAndFillBuffer : Http3M Http3Stream Unit := do
  let stream ← getStream
  let machine := stream.machine
  if machine.ready then pure ()
  else if machine.expectedLen < machine.writeOff ∨ machine.buf.length < machine.expectedLen then
    throw .panic
  else
    match ← Stateful.attempt
      (call (QuicConn.streamRead stream.streamId (machine.expectedLen - machine.writeOff))) with
    | .error error => failRead error
    | .ok (bytes, _) => do
        ownMachine (modify fun machine => (machine.fill bytes).increaseOff bytes.length)
        if (← getStream).machine.ready then pure () else failRead .done

/-- The length of an integer is only known after its first byte, so that it may take two reads. -/
def readAndParseVarint : Http3M Http3Stream Nat := do
  readAndFillBuffer
  match ← Stateful.attempt (ownMachine Http3StateMachine.parseVarint) with
  | .ok varint => return varint
  | .error .done => do
      readAndFillBuffer
      ownMachine Http3StateMachine.parseVarint
  | .error error => throw error

def orClose {α : Type} (reason : Http3Error → String) (steps : Http3M Http3Stream α) :
    Http3M Http3Stream α := do
  match ← Stateful.attempt steps with
  | .ok value => return value
  | .error error => closeWith error (reason error)

def parseUniStreamType : Http3M Http3Stream Http3StreamType := do
  let typeId ← readAndParseVarint
  let streamType := Http3StreamType.fromId typeId
  orClose (fun _ => "") (own (setStreamType streamType))
  return streamType

def parsePushId : Http3M Http3Stream Unit := do
  let pushId ← readAndParseVarint
  orClose (fun _ => "") (own (setPushId pushId))

def parseFrameType : Http3M Http3Stream Unit := do
  let frameType ← readAndParseVarint
  orClose (fun error =>
      if error = .frameUnexpected then s!"unexpected frame type {frameType}"
      else s!"handle frame {frameType} error")
    (own (setFrameType frameType))

def parseFramePayloadLength : Http3M Http3Stream Unit := do
  let payloadLen ← readAndParseVarint
  orClose (fun _ => "") (own (setFramePayloadLen payloadLen))

def parseFramePayloadInner : Http3M Http3Stream (Http3Frame × Nat) := do
  readAndFillBuffer
  own resetDataEventState
  let stream ← getStream
  match stream.frameType with
  | none => throw .panic
  | some frameType => do
      let payloadLen := stream.machine.expectedLen
      let frame ← Stateful.ofExcept
        (Http3Frame.decodePayload frameType payloadLen stream.machine.buf)
      own (transitionState .frameType 1 true)
      return (frame, payloadLen)

def parseFramePayload : Http3M Http3Stream (Http3Frame × Nat) := do
  match ← Stateful.attempt parseFramePayloadInner with
  | .ok frame => return frame
  | .error .done => throw .done
  | .error error => closeWith error "parse frame error"

/-- Read the payload of a DATA frame into a buffer of `outLen` bytes. -/
def readDataFromQuic (outLen : Nat) : Http3M Http3Stream (Bytes × Bool) := do
  let stream ← getStream
  let remaining ← Stateful.ofExcept stream.machine.remainingLen
  match ← Stateful.attempt (call (QuicConn.streamRead stream.streamId (min outLen remaining))) with
  | .error error => failRead error
  | .ok (bytes, fin) => do
      ownMachine (modify (·.increaseOff bytes.length))
      let (_, conn) ← get
      own (if !conn.streamReadable stream.streamId then resetDataEventState else pure ())
      own (if (← getStream).machine.ready then transitionState .frameType 1 true else pure ())
      return (bytes, fin)

end Http3Stream

end Tquic.H3
