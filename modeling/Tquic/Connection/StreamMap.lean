import Tquic.Connection.Concurrency
import Tquic.Connection.Stream
import Mathlib.Data.Finset.Basic
import Mathlib.Data.List.Sort

/-! The streams of a connection, after `StreamMap` of `connection/stream.rs`. A function
that fails may have changed the map before, so every function returns the map beside
its result. -/

set_option autoImplicit false

namespace Tquic.Connection

open Lib

structure StreamTransportParams where
  initialMaxData : Nat := 0
  initialMaxStreamDataBidiLocal : Nat := 0
  initialMaxStreamDataBidiRemote : Nat := 0
  initialMaxStreamDataUni : Nat := 0
  initialMaxStreamsBidi : Nat := 0
  initialMaxStreamsUni : Nat := 0
  deriving DecidableEq, Repr

/-- Streams of one urgency level that wait for sending. -/
structure StreamPriorityQueue where
  -- Scheduled in the order of stream identifiers.
  nonIncremental : List Nat
  -- Scheduled round-robin.
  incremental : List Nat
  deriving DecidableEq, Repr

/-- The events for the endpoint that the stream map raises. -/
inductive Event where
  | streamCreated (streamId : Nat)
  | streamClosed (streamId : Nat)
  deriving DecidableEq, Repr

structure StreamMap where
  isServer : Bool
  streams : OrdMap Nat Stream
  sendable : OrdMap Nat StreamPriorityQueue
  readable : Finset Nat
  writable : Finset Nat
  -- Streams that need a RESET_STREAM frame, with error code and final size.
  reset : OrdMap Nat (Nat × Nat)
  stopped : OrdMap Nat Nat
  -- Streams that need a MAX_STREAM_DATA frame.
  almostFull : Finset Nat
  -- Streams that need a STREAM_DATA_BLOCKED frame, with offset.
  dataBlocked : OrdMap Nat Nat
  concurrencyControl : ConcurrencyControl
  flowControl : FlowControl
  sendCapacity : SendCapacity
  maxStreamWindow : Nat
  rxAlmostFull : Bool
  nextStreamIdBidi : Nat
  nextStreamIdUni : Nat
  peerTransportParams : StreamTransportParams
  localTransportParams : StreamTransportParams
  -- `none` while the event queue is not enabled.
  events : Option (List Event)
  -- History: the streams that were taken out of `streams`, as they were then. No
  -- function reads it; it is there to speak about all streams ever opened.
  destroyed : List (Nat × Stream)

namespace StreamMap

def new (isServer : Bool) (maxConnectionWindow maxStreamWindow : Nat)
    (localParams : StreamTransportParams) (events : Option (List Event)) : StreamMap :=
  { isServer
    streams := ∅
    sendable := ∅
    readable := ∅
    writable := ∅
    reset := ∅
    stopped := ∅
    almostFull := ∅
    dataBlocked := ∅
    concurrencyControl := .new localParams.initialMaxStreamsBidi localParams.initialMaxStreamsUni
    flowControl := .new localParams.initialMaxData maxConnectionWindow
    sendCapacity := .default
    maxStreamWindow
    rxAlmostFull := false
    nextStreamIdBidi := if isServer then 1 else 0
    nextStreamIdUni := if isServer then 3 else 2
    peerTransportParams := {}
    localTransportParams := localParams
    events
    destroyed := [] }

def get (map : StreamMap) (id : Nat) : Option Stream := map.streams.get? id

def setStream (map : StreamMap) (id : Nat) (stream : Stream) : StreamMap :=
  { map with streams := map.streams.insert id stream }

/-! ## Marks -/

def markReadable (map : StreamMap) (streamId : Nat) (readable : Bool) : StreamMap :=
  { map with
    readable := if readable then insert streamId map.readable else map.readable.erase streamId }

def markWritable (map : StreamMap) (streamId : Nat) (writable : Bool) : StreamMap :=
  { map with
    writable := if writable then insert streamId map.writable else map.writable.erase streamId }

def markAlmostFull (map : StreamMap) (streamId : Nat) (almostFull : Bool) : StreamMap :=
  { map with
    almostFull := if almostFull then insert streamId map.almostFull else map.almostFull.erase streamId }

def markBlocked (map : StreamMap) (streamId : Nat) (blocked : Bool) (off : Nat) : StreamMap :=
  { map with
    dataBlocked :=
      if blocked then map.dataBlocked.insert streamId off else map.dataBlocked.erase streamId }

def markReset (map : StreamMap) (streamId : Nat) (reset : Bool) (errorCode finalSize : Nat) :
    StreamMap :=
  { map with
    reset :=
      if reset then map.reset.insert streamId (errorCode, finalSize)
      else map.reset.erase streamId }

def markStopped (map : StreamMap) (streamId : Nat) (stopped : Bool) (errorCode : Nat) : StreamMap :=
  { map with
    stopped :=
      if stopped then map.stopped.insert streamId errorCode else map.stopped.erase streamId }

def updateDataBlockedAt (map : StreamMap) (blockedAt : Option Nat) : StreamMap :=
  { map with sendCapacity := map.sendCapacity.updateBlockedAt blockedAt }

/-- The common body of `want_write` and `want_read`. -/
def want (map : StreamMap) (streamId : Nat) (mark : Stream → Except Error Stream) :
    Except Error Unit × StreamMap :=
  match map.get streamId with
  | none => (.error .done, map)
  | some stream =>
    match mark stream with
    | .error error => (.error error, map)
    | .ok stream => (.ok (), map.setStream streamId stream)

def wantWrite (map : StreamMap) (streamId : Nat) (flag : Bool) : Except Error Unit × StreamMap :=
  map.want streamId (·.markWantwrite flag)

def wantRead (map : StreamMap) (streamId : Nat) (flag : Bool) : Except Error Unit × StreamMap :=
  map.want streamId (·.markWantread flag)

/-- Account for bytes consumed on the connection; a MAX_DATA frame may become due. -/
def consume (map : StreamMap) (delta : Nat) : StreamMap :=
  let flowControl := map.flowControl.increaseReadOff delta
  { map with
    flowControl
    rxAlmostFull := flowControl.shouldSendMaxData || map.rxAlmostFull }

def maxRxDataLeft (map : StreamMap) : Nat := map.flowControl.maxData - map.flowControl.recvOff

def maxTxDataLeft (map : StreamMap) : Nat := map.sendCapacity.maxData - map.sendCapacity.txData

/-! ## The queue of sendable streams -/

def pushSendable (map : StreamMap) (streamId urgency : Nat) (incremental : Bool) : StreamMap :=
  let queue := (map.sendable.get? urgency).getD ⟨[], []⟩
  let pushed : StreamPriorityQueue :=
    if incremental then { queue with incremental := queue.incremental ++ [streamId] }
    else { queue with nonIncremental := queue.nonIncremental.orderedInsert (· ≤ ·) streamId }
  { map with sendable := map.sendable.insert urgency pushed }

def peekSendable (map : StreamMap) : Option Nat × StreamMap :=
  match map.sendable.first? with
  | none => (none, map)
  | some (urgency, queue) =>
    match queue.nonIncremental, queue.incremental with
    | streamId :: _, _ => (some streamId, map)
    | [], streamId :: rest =>
      let rotated := { queue with incremental := rest ++ [streamId] }
      (some streamId, { map with sendable := map.sendable.insert urgency rotated })
    | [], [] => (none, map)

def removeSendable (map : StreamMap) : StreamMap :=
  match map.sendable.first? with
  | none => map
  | some (urgency, queue) =>
    let popped : StreamPriorityQueue :=
      match queue.nonIncremental with
      | _ :: rest => { queue with nonIncremental := rest }
      | [] => { queue with incremental := queue.incremental.dropLast }
    if popped.nonIncremental.isEmpty && popped.incremental.isEmpty then
      { map with sendable := map.sendable.erase urgency }
    else { map with sendable := map.sendable.insert urgency popped }

/-! ## Creating and closing streams -/

def isClosed (map : StreamMap) (streamId : Nat) : Bool :=
  match map.get streamId with
  | some stream => stream.isClosed
  | none =>
    !(map.concurrencyControl.isAvailable streamId map.isServer ||
      map.concurrencyControl.isLimited streamId map.isServer)

def addEvent (map : StreamMap) (event : Event) : StreamMap :=
  { map with events := map.events.map (· ++ [event]) }

def maxStreamDataLimit (byLocal bidi : Bool) (localParams peerParams : StreamTransportParams) :
    Nat × Nat :=
  match byLocal, bidi with
  | true, true =>
    (localParams.initialMaxStreamDataBidiLocal, peerParams.initialMaxStreamDataBidiRemote)
  | true, false => (0, peerParams.initialMaxStreamDataUni)
  | false, true =>
    (localParams.initialMaxStreamDataBidiRemote, peerParams.initialMaxStreamDataBidiLocal)
  | false, false => (localParams.initialMaxStreamDataUni, 0)

def create (map : StreamMap) (id : Nat) (byLocal : Bool) : Stream × StreamMap :=
  let bidi := isBidi id
  let limits := maxStreamDataLimit byLocal bidi map.localTransportParams map.peerTransportParams
  let stream := Stream.new bidi byLocal limits.2 limits.1 map.maxStreamWindow
  let map := if stream.isWritable then map.markWritable id true else map
  let map :=
    if bidi then { map with nextStreamIdBidi := max map.nextStreamIdBidi id + 4 }
    else { map with nextStreamIdUni := max map.nextStreamIdUni id + 4 }
  let map :=
    { map with concurrencyControl := map.concurrencyControl.removeAvailId id map.isServer }
  (stream, (map.addEvent (.streamCreated id)).setStream id stream)

def getOrCreate (map : StreamMap) (id : Nat) (byLocal : Bool) : Except Error Stream × StreamMap :=
  if id > vintMax then (.error .protocolViolation, map)
  else
    match map.get id with
    | some stream => (.ok stream, map)
    | none =>
      if map.isClosed id then (.error .done, map)
      -- The identifier is not valid with the current role.
      else if byLocal ≠ isLocal id map.isServer then (.error .streamStateError, map)
      else
        let checked := map.concurrencyControl.checkConcurrencyLimits id map.isServer
        let map := { map with concurrencyControl := checked.2 }
        match checked.1 with
        | .error error => (.error error, map)
        | .ok _ =>
          let created := map.create id byLocal
          (.ok created.1, created.2)

def streamDestroy (map : StreamMap) (streamId : Nat) : StreamMap :=
  match map.get streamId with
  | none => map
  | some stream =>
    { map with
      streams := map.streams.erase streamId
      destroyed := (streamId, stream) :: map.destroyed }

def giveBackCredit (map : StreamMap) (streamId : Nat) (byLocal : Bool) : StreamMap :=
  if byLocal then map
  else
    { map with
      concurrencyControl :=
        map.concurrencyControl.increaseMaxStreamsCredits (isBidi streamId) 1 }

def markClosed (map : StreamMap) (streamId : Nat) (byLocal : Bool) : StreamMap :=
  if map.isClosed streamId then map
  else
    let map := map.giveBackCredit streamId byLocal
    let map := (map.markReadable streamId false).markWritable streamId false
    let map :=
      match map.get streamId with
      | some stream => map.setStream streamId stream.markClosed
      | none => map
    -- The endpoint destroys the stream when it processes the event.
    if map.events.isSome then map.addEvent (.streamClosed streamId)
    else map.streamDestroy streamId

end StreamMap

end Tquic.Connection
