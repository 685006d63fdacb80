import Tquic.Connection.StreamMapProperties
import Tquic.Lib.Transition

/-! Runs of a connection's streams. An operation is a call of the application, a frame
from the peer, the fate of a frame that was sent, or the writing of a packet. The frames
that were sent are remembered, because only they can be acknowledged or lost. -/

set_option autoImplicit false

namespace Tquic.Connection

open Lib

/-- What can happen to the streams of a connection. -/
inductive Op where
  | setPriority (id urgency : Nat) (incremental : Bool)
  | bidiNew (urgency : Nat) (incremental : Bool)
  | uniNew (urgency : Nat) (incremental : Bool)
  | read (id outLen : Nat)
  | write (id : Nat) (buf : Bytes) (fin : Bool)
  | shutdownRead (id errorCode : Nat)
  | shutdownWrite (id errorCode : Nat)
  | writable (id len : Nat)
  | wantRead (id : Nat) (want : Bool)
  | wantWrite (id : Nat) (want : Bool)
  | setContext (id : Nat)
  -- Frames and transport parameters from the peer.
  | peerParams (params : StreamTransportParams)
  | maxData (maxData : Nat)
  | maxStreamData (id maxData : Nat)
  | maxStreams (maxStreams : Nat) (bidi : Bool)
  | streamDataBlocked (id : Nat)
  | streamsBlocked (maxStreams : Nat)
  | resetStream (id errorCode finalSize : Nat)
  | stopSending (id errorCode : Nat)
  | stream (id offset : Nat) (data : Bytes) (fin : Bool)
  -- Fates of frames that were sent.
  | streamAcked (frame : StreamFrame)
  | streamLost (frame : StreamFrame)
  | resetAcked (id errorCode finalSize : Nat)
  | resetLost (id errorCode finalSize : Nat)
  | stopSendingLost (id errorCode : Nat)
  | maxStreamDataLost (id : Nat)
  | maxDataLost
  | streamDataBlockedLost (id blockedAt : Nat)
  | dataBlockedLost (maxData : Nat)
  | streamsBlockedLost (bidi : Bool) (maxStreams : Nat)
  -- Frames written into a packet.
  | sendStreams (outLen : Nat)
  | sendReset (id : Nat)
  | sendStopSending (id : Nat)
  | sendStreamDataBlocked (id : Nat)
  | sendDataBlocked
  | sendStreamsBlocked (bidi : Bool)
  | sendMaxStreams (bidi : Bool)
  | sendMaxStreamData (id : Nat) (now : Instant) (srtt : Duration)
  | sendMaxData (now : Instant) (srtt : Duration)
  -- Frames that find no room in a packet.
  | tuneMaxStreamData (id : Nat) (now : Instant) (srtt : Duration)
  | tuneMaxData (now : Instant) (srtt : Duration)
  -- The endpoint processes an event.
  | event

/-- The streams with what is known about the past. -/
structure World where
  map : StreamMap
  sent : List StreamFrame
  acked : List StreamFrame
  -- RESET_STREAM frames that were sent: stream, error code and final size.
  resetSent : List (Nat × Nat × Nat)
  -- Streams whose send side was shut down or stopped.
  silenced : List Nat
  -- Streams that were reset before all their data was acknowledged, and whose
  -- RESET_STREAM frame is not acknowledged.
  owed : List Nat
  -- Limits on connection data that the peer announced.
  granted : List Nat

namespace World

def new (isServer : Bool) (maxConnectionWindow maxStreamWindow : Nat)
    (localParams : StreamTransportParams) (eventsEnabled : Bool) : World :=
  { map := .new isServer maxConnectionWindow maxStreamWindow localParams
      (if eventsEnabled then some [] else none)
    sent := [], acked := [], resetSent := [], silenced := [], owed := [], granted := [] }

def unacked (map : StreamMap) (id : Nat) : Bool :=
  match map.get id with
  | some stream => !(stream.send.writeOff = 0 || stream.send.acked.eqRange ⟨0, stream.send.writeOff⟩)
  | none => false

def silence (world : World) (id : Nat) (map : StreamMap) : World :=
  { world with
    map
    silenced := id :: world.silenced
    owed := if unacked world.map id then id :: world.owed else world.owed }

/-- An error while a frame is processed closes the connection. -/
def received (world : World) (outcome : Except Error Unit × StreamMap) : Option World :=
  match outcome with
  | (.ok _, map) => some { world with map }
  | (.error _, _) => none

/-- An error of a call of the application is only returned to it. -/
def step (world : World) : Op → Option World
  | .setPriority id urgency incremental =>
    some { world with map := (world.map.streamSetPriority id urgency incremental).2 }
  | .bidiNew urgency incremental =>
    some { world with map := (world.map.streamBidiNew urgency incremental).2 }
  | .uniNew urgency incremental =>
    some { world with map := (world.map.streamUniNew urgency incremental).2 }
  | .read id outLen => some { world with map := (world.map.streamRead id outLen).2 }
  | .write id buf fin => some { world with map := (world.map.streamWrite id buf fin).2 }
  | .shutdownRead id errorCode =>
    some { world with map := (world.map.streamShutdown id .read errorCode).2 }
  | .shutdownWrite id errorCode =>
    match world.map.streamShutdown id .write errorCode with
    | (.ok _, map) => some (world.silence id map)
    | (.error _, map) => some { world with map }
  | .writable id len => some { world with map := (world.map.streamWritable id len).2 }
  | .wantRead id want => some { world with map := (world.map.wantRead id want).2 }
  | .wantWrite id want => some { world with map := (world.map.wantWrite id want).2 }
  | .setContext id => some { world with map := (world.map.streamSetContext id).2 }
  | .peerParams params =>
    some { world with
      map := world.map.updatePeerStreamTransportParams params
      granted := params.initialMaxData :: world.granted }
  | .maxData maxData =>
    some { world with
      map := world.map.onMaxDataFrameReceived maxData
      granted := maxData :: world.granted }
  | .maxStreamData id maxData =>
    world.received (world.map.onMaxStreamDataFrameReceived id maxData)
  | .maxStreams maxStreams bidi =>
    world.received (world.map.onMaxStreamsFrameReceived maxStreams bidi)
  | .streamDataBlocked id => world.received (world.map.onStreamDataBlockedFrameReceived id)
  | .streamsBlocked maxStreams =>
    world.received (world.map.onStreamsBlockedFrameReceived maxStreams)
  | .resetStream id errorCode finalSize =>
    world.received (world.map.onResetStreamFrameReceived id errorCode finalSize)
  | .stopSending id errorCode =>
    match world.map.onStopSendingFrameReceived id errorCode with
    | (.ok _, map) => some (world.silence id map)
    | (.error _, _) => none
  | .stream id offset data fin =>
    world.received (world.map.onStreamFrameReceived id offset data.length fin data)
  | .streamAcked frame =>
    if frame ∈ world.sent then
      some { world with
        map := world.map.onStreamFrameAcked frame.streamId frame.offset frame.length
        acked := frame :: world.acked }
    else none
  | .streamLost frame =>
    if frame ∈ world.sent then
      some { world with
        map := world.map.onStreamFrameLost frame.streamId frame.offset frame.length frame.fin }
    else none
  | .resetAcked id errorCode finalSize =>
    if (id, errorCode, finalSize) ∈ world.resetSent then
      some { world with
        map := world.map.onResetStreamFrameAcked id
        owed := world.owed.filter (· ≠ id) }
    else none
  | .resetLost id errorCode finalSize =>
    if (id, errorCode, finalSize) ∈ world.resetSent then
      some { world with map := world.map.onResetStreamFrameLost id errorCode finalSize }
    else none
  | .stopSendingLost id errorCode =>
    some { world with map := world.map.onStopSendingFrameLost id errorCode }
  | .maxStreamDataLost id => some { world with map := world.map.onMaxStreamDataFrameLost id }
  | .maxDataLost => some { world with map := world.map.onMaxDataFrameLost }
  | .streamDataBlockedLost id blockedAt =>
    some { world with map := world.map.onStreamDataBlockedFrameLost id blockedAt }
  | .dataBlockedLost maxData =>
    some { world with map := world.map.onDataBlockedFrameLost maxData }
  | .streamsBlockedLost bidi maxStreams =>
    some { world with map := world.map.onStreamsBlockedFrameLost bidi maxStreams }
  | .sendStreams outLen =>
    (world.map.tryWriteStreamFrames outLen).map fun written =>
      { world with map := written.2, sent := world.sent ++ written.1 }
  | .sendReset id =>
    (world.map.writeResetStream id).map fun written =>
      { world with map := written.2, resetSent := (id, written.1) :: world.resetSent }
  | .sendStopSending id =>
    (world.map.writeStopSending id).map fun written => { world with map := written.2 }
  | .sendStreamDataBlocked id =>
    (world.map.writeStreamDataBlocked id).map fun written => { world with map := written.2 }
  | .sendDataBlocked =>
    world.map.writeDataBlocked.map fun written => { world with map := written.2 }
  | .sendStreamsBlocked bidi =>
    (world.map.writeStreamsBlocked bidi).map fun written => { world with map := written.2 }
  | .sendMaxStreams bidi =>
    (world.map.writeMaxStreams bidi).map fun written => { world with map := written.2 }
  | .sendMaxStreamData id now srtt =>
    (world.map.writeMaxStreamData id now srtt).map fun written =>
      { world with map := written.2 }
  | .sendMaxData now srtt =>
    (world.map.writeMaxData now srtt).map fun written => { world with map := written.2 }
  | .tuneMaxStreamData id now srtt =>
    (world.map.tuneMaxStreamData id now srtt).map fun map => { world with map }
  | .tuneMaxData now srtt => (world.map.tuneMaxData now srtt).map fun map => { world with map }
  | .event => world.map.processEvent.map fun map => { world with map }

/-- What an operation makes of the streams, apart from what is remembered of the past. -/
inductive Moved (map : StreamMap) : Op → StreamMap → Prop where
  | setPriority {id urgency incremental} :
      Moved map (.setPriority id urgency incremental)
        (map.streamSetPriority id urgency incremental).2
  | bidiNew {urgency incremental} :
      Moved map (.bidiNew urgency incremental) (map.streamBidiNew urgency incremental).2
  | uniNew {urgency incremental} :
      Moved map (.uniNew urgency incremental) (map.streamUniNew urgency incremental).2
  | read {id outLen} : Moved map (.read id outLen) (map.streamRead id outLen).2
  | write {id buf fin} : Moved map (.write id buf fin) (map.streamWrite id buf fin).2
  | shutdownRead {id errorCode} :
      Moved map (.shutdownRead id errorCode) (map.streamShutdown id .read errorCode).2
  | shutdownWrite {id errorCode} :
      Moved map (.shutdownWrite id errorCode) (map.streamShutdown id .write errorCode).2
  | writable {id len} : Moved map (.writable id len) (map.streamWritable id len).2
  | wantRead {id want} : Moved map (.wantRead id want) (map.wantRead id want).2
  | wantWrite {id want} : Moved map (.wantWrite id want) (map.wantWrite id want).2
  | setContext {id} : Moved map (.setContext id) (map.streamSetContext id).2
  | peerParams {params} : Moved map (.peerParams params) (map.updatePeerStreamTransportParams params)
  | maxData {maxData} : Moved map (.maxData maxData) (map.onMaxDataFrameReceived maxData)
  | maxStreamData {id maxData} :
      Moved map (.maxStreamData id maxData) (map.onMaxStreamDataFrameReceived id maxData).2
  | maxStreams {maxStreams bidi} :
      Moved map (.maxStreams maxStreams bidi) (map.onMaxStreamsFrameReceived maxStreams bidi).2
  | streamDataBlocked {id} :
      Moved map (.streamDataBlocked id) (map.onStreamDataBlockedFrameReceived id).2
  | streamsBlocked {maxStreams} :
      Moved map (.streamsBlocked maxStreams) (map.onStreamsBlockedFrameReceived maxStreams).2
  | resetStream {id errorCode finalSize} :
      Moved map (.resetStream id errorCode finalSize)
        (map.onResetStreamFrameReceived id errorCode finalSize).2
  | stopSending {id errorCode} :
      Moved map (.stopSending id errorCode) (map.onStopSendingFrameReceived id errorCode).2
  | stream {id offset data fin} :
      Moved map (.stream id offset data fin)
        (map.onStreamFrameReceived id offset data.length fin data).2
  | streamAcked {frame} :
      Moved map (.streamAcked frame)
        (map.onStreamFrameAcked frame.streamId frame.offset frame.length)
  | streamLost {frame} :
      Moved map (.streamLost frame)
        (map.onStreamFrameLost frame.streamId frame.offset frame.length frame.fin)
  | resetAcked {id errorCode finalSize} :
      Moved map (.resetAcked id errorCode finalSize) (map.onResetStreamFrameAcked id)
  | resetLost {id errorCode finalSize} :
      Moved map (.resetLost id errorCode finalSize)
        (map.onResetStreamFrameLost id errorCode finalSize)
  | stopSendingLost {id errorCode} :
      Moved map (.stopSendingLost id errorCode) (map.onStopSendingFrameLost id errorCode)
  | maxStreamDataLost {id} : Moved map (.maxStreamDataLost id) (map.onMaxStreamDataFrameLost id)
  | maxDataLost : Moved map .maxDataLost map.onMaxDataFrameLost
  | streamDataBlockedLost {id blockedAt} :
      Moved map (.streamDataBlockedLost id blockedAt)
        (map.onStreamDataBlockedFrameLost id blockedAt)
  | dataBlockedLost {maxData} :
      Moved map (.dataBlockedLost maxData) (map.onDataBlockedFrameLost maxData)
  | streamsBlockedLost {bidi maxStreams} :
      Moved map (.streamsBlockedLost bidi maxStreams)
        (map.onStreamsBlockedFrameLost bidi maxStreams)
  | sendStreams {outLen frames after}
      (written : map.tryWriteStreamFrames outLen = some (frames, after)) :
      Moved map (.sendStreams outLen) after
  | sendReset {id} : Moved map (.sendReset id) (map.markReset id false 0 0)
  | sendStopSending {id} : Moved map (.sendStopSending id) (map.markStopped id false 0)
  | sendStreamDataBlocked {id} : Moved map (.sendStreamDataBlocked id) (map.markBlocked id false 0)
  | sendDataBlocked : Moved map .sendDataBlocked (map.updateDataBlockedAt none)
  | sendStreamsBlocked {bidi} :
      Moved map (.sendStreamsBlocked bidi)
        { map with
          concurrencyControl := map.concurrencyControl.updateStreamsBlockedAt bidi none }
  | sendMaxStreams {bidi limit after} (written : map.writeMaxStreams bidi = some (limit, after)) :
      Moved map (.sendMaxStreams bidi) after
  | sendMaxStreamData {id now srtt limit after}
      (written : map.writeMaxStreamData id now srtt = some (limit, after)) :
      Moved map (.sendMaxStreamData id now srtt) after
  | sendMaxData {now srtt limit after} (written : map.writeMaxData now srtt = some (limit, after)) :
      Moved map (.sendMaxData now srtt) after
  | tuneMaxStreamData {id now srtt after} (tuned : map.tuneMaxStreamData id now srtt = some after) :
      Moved map (.tuneMaxStreamData id now srtt) after
  | tuneMaxData {now srtt after} (tuned : map.tuneMaxData now srtt = some after) :
      Moved map (.tuneMaxData now srtt) after
  | event {after} (processed : map.processEvent = some after) : Moved map .event after

private theorem received_eq {world next : World} {outcome : Except Error Unit × StreamMap}
    (received : world.received outcome = some next) : next.map = outcome.2 := by
  unfold World.received at received
  split at received
  · cases received
    rfl
  · cases received

theorem queued_eq {α β : Type} {world next : World} {entry : Option α} {write : α → β × StreamMap}
    {after : StreamMap}
    (stepped : ((entry.map write).map fun written => { world with map := written.2 }) = some next)
    (same : ∀ found, (write found).2 = after) : next.map = after := by
  obtain ⟨written, wrote, moved⟩ := Option.map_eq_some_iff.mp stepped
  obtain ⟨found, _, wrote⟩ := Option.map_eq_some_iff.mp wrote
  cases moved
  cases wrote
  exact same found

theorem step_moved {world next : World} {op : Op} (stepped : world.step op = some next) :
    Moved world.map op next.map := by
  cases op with
  | maxStreamData | maxStreams | streamDataBlocked | streamsBlocked | resetStream | stream =>
    rw [received_eq stepped]
    constructor
  | shutdownWrite id errorCode =>
    have shut : next.map = (world.map.streamShutdown id .write errorCode).2 := by
      dsimp only [step] at stepped
      split at stepped
      case h_1 outcome => cases stepped; rw [outcome]; rfl
      case h_2 outcome => cases stepped; rw [outcome]
    rw [shut]
    exact .shutdownWrite
  | stopSending id errorCode =>
    have stopped : next.map = (world.map.onStopSendingFrameReceived id errorCode).2 := by
      dsimp only [step] at stepped
      split at stepped
      case h_1 outcome => cases stepped; rw [outcome]; rfl
      case h_2 => cases stepped
    rw [stopped]
    exact .stopSending
  | streamAcked | streamLost | resetAcked | resetLost =>
    dsimp only [step] at stepped
    split_ifs at stepped
    cases stepped
    constructor
  | sendStreams outLen =>
    obtain ⟨written, wrote, same⟩ := Option.map_eq_some_iff.mp stepped
    cases same
    exact .sendStreams wrote
  | sendReset id =>
    obtain ⟨written, wrote, same⟩ := Option.map_eq_some_iff.mp stepped
    obtain ⟨found, _, wrote⟩ := Option.map_eq_some_iff.mp wrote
    cases same
    cases wrote
    exact .sendReset
  | sendStopSending | sendStreamDataBlocked | sendDataBlocked | sendStreamsBlocked =>
    rw [queued_eq stepped fun _ => rfl]
    constructor
  | sendMaxStreams bidi =>
    obtain ⟨written, wrote, same⟩ := Option.map_eq_some_iff.mp stepped
    cases same
    exact .sendMaxStreams wrote
  | sendMaxStreamData id now srtt =>
    obtain ⟨written, wrote, same⟩ := Option.map_eq_some_iff.mp stepped
    cases same
    exact .sendMaxStreamData wrote
  | sendMaxData now srtt =>
    obtain ⟨written, wrote, same⟩ := Option.map_eq_some_iff.mp stepped
    cases same
    exact .sendMaxData wrote
  | tuneMaxStreamData | tuneMaxData =>
    obtain ⟨after, tuned, same⟩ := Option.map_eq_some_iff.mp stepped
    cases same
    constructor
    exact tuned
  | event =>
    obtain ⟨after, processed, same⟩ := Option.map_eq_some_iff.mp stepped
    cases same
    exact .event processed
  | _ =>
    cases stepped
    constructor

def Reachable (guard : World → Op → Prop) (world : World) : Prop :=
  ∃ isServer maxConnectionWindow maxStreamWindow localParams eventsEnabled,
    Run step guard
      (.new isServer maxConnectionWindow maxStreamWindow localParams eventsEnabled) world

end World

end Tquic.Connection
