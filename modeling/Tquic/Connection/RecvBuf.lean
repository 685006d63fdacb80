import Tquic.Lib.OrdMap
import Tquic.Connection.FlowControl
import Tquic.Connection.RangeBuf

/-! The receive buffer of a stream, after `RecvBuf` of `connection/stream.rs`. -/

set_option autoImplicit false

namespace Tquic.Connection

open Lib

structure RecvBuf where
  -- Received but unread chunks. The key is the maximum offset of the chunk,
  -- because reading a chunk partially moves its lower offset.
  data : OrdMap Nat RangeBuf
  readOff : Nat
  recvOff : Nat
  finOff : Option Nat
  -- Error code received in a RESET_STREAM frame.
  error : Option Nat
  shutdownFlag : Bool
  flowControl : FlowControl

namespace RecvBuf

def new (maxData maxWindow : Nat) : RecvBuf :=
  { data := ∅, readOff := 0, recvOff := 0, finOff := none, error := none,
    shutdownFlag := false, flowControl := .new maxData maxWindow }

def maxData (recv : RecvBuf) : Nat := recv.flowControl.maxData

/-- The final size is known and everything up to it was read. -/
def isFin (recv : RecvBuf) : Bool := recv.finOff = some recv.readOff

/-- Same as `isFin`, as in the source. -/
def isComplete (recv : RecvBuf) : Bool := recv.finOff = some recv.readOff

def isShutdown (recv : RecvBuf) : Bool := recv.shutdownFlag

def ready (recv : RecvBuf) : Bool :=
  match recv.data.first? with
  | some (_, buf) => buf.off = recv.readOff
  | none => false

def shouldSendMaxData (recv : RecvBuf) : Bool :=
  recv.finOff.isNone && recv.flowControl.shouldSendMaxData

/-- Compare an incoming buffer with the stored chunks at or above its offset.
The result is what is left to be stored (`none` if every byte is already there)
and the pieces split off behind a stored chunk, which are processed later. -/
def scanOverlap : List RangeBuf → RangeBuf → Option RangeBuf × List RangeBuf
  | [], buf => (some buf, [])
  | chunk :: rest, buf =>
    -- The new buffer cannot overlap with any of the following ones.
    if chunk.off > buf.maxOff then (some buf, [])
    -- The stored chunk contains the new buffer.
    else if buf.off ≥ chunk.off && buf.maxOff ≤ chunk.maxOff then (none, [])
    -- The first half of the new buffer is already stored.
    else if buf.off ≥ chunk.off && buf.off < chunk.maxOff then
      scanOverlap rest (buf.advance (chunk.maxOff - buf.off))
    -- The second half of the new buffer overlaps: keep it for further processing.
    else if buf.off < chunk.off && buf.maxOff > chunk.off then
      let parts := buf.splitOff (chunk.off - buf.off)
      let scanned := scanOverlap rest parts.1
      (scanned.1, parts.2 :: scanned.2)
    else scanOverlap rest buf

def dropRead (recv : RecvBuf) (buf : RangeBuf) : RangeBuf :=
  if recv.readOff > buf.off then buf.advance (recv.readOff - buf.off) else buf

def scan (recv : RecvBuf) (buf : RangeBuf) : Option RangeBuf × List RangeBuf :=
  if buf.off < recv.recvOff || buf.isEmpty then
    scanOverlap ((recv.data.rangeFrom buf.off).map (·.2)) buf
  else (some buf, [])

/-- One round of the storing loop of `write`. Returns the pieces to queue. -/
def store (recv : RecvBuf) (buf : RangeBuf) : RecvBuf × List RangeBuf :=
  match recv.scan (recv.dropRead buf) with
  | (none, pieces) => (recv, pieces)
  | (some kept, pieces) =>
    ({ recv with
        recvOff := max recv.recvOff kept.maxOff
        data := if recv.shutdownFlag then recv.data else recv.data.insert kept.maxOff kept },
      pieces)

/-- The storing loop of `write` over the queue of pending pieces. -/
def storeLoop : Nat → RecvBuf → List RangeBuf → RecvBuf
  | 0, recv, _ => recv
  | _ + 1, recv, [] => recv
  | fuel + 1, recv, buf :: queue =>
    let stored := recv.store buf
    storeLoop fuel stored.1 (queue ++ stored.2)

def recordFin (recv : RecvBuf) (buf : RangeBuf) : RecvBuf :=
  if buf.fin then { recv with finOff := some buf.maxOff } else recv

/-- Insert a chunk of data. All checks come before the first assignment, so an
error leaves the buffer as it was. Every round of the loop stores or drops at
least one byte, so the length bounds the number of rounds. -/
def write (recv : RecvBuf) (offset : Nat) (data : Bytes) (fin : Bool) : Except Error RecvBuf :=
  let buf : RangeBuf := ⟨data, offset, fin⟩
  if buf.maxOff > recv.maxData then .error .flowControlError
  else if recv.finOff.any (fun finOff => buf.maxOff > finOff) then .error .finalSizeError
  else if recv.finOff.any (fun finOff => buf.fin && finOff ≠ buf.maxOff) then
    .error .finalSizeError
  else if buf.fin && buf.maxOff < recv.recvOff then .error .finalSizeError
  else if recv.isFin then .ok recv
  else
    let recv := recv.recordFin buf
    if !buf.fin && buf.isEmpty then .ok recv
    else if recv.readOff ≥ buf.maxOff && !buf.isEmpty then .ok recv
    else .ok (recv.storeLoop (buf.len + 1) [buf])

/-- The copying loop of `read`. Every round but the last removes a chunk. -/
def readLoop : Nat → RecvBuf → Nat → Bytes → RecvBuf × Bytes
  | 0, recv, _, out => (recv, out)
  | fuel + 1, recv, cap, out =>
    if cap = 0 || !recv.ready then (recv, out)
    else
      match recv.data.first? with
      | none => (recv, out)
      | some (key, buf) =>
        let bufLen := min buf.len cap
        let copied := out ++ buf.data.take bufLen
        let advanced := { recv with readOff := recv.readOff + bufLen }
        if bufLen < buf.len then
          ({ advanced with data := recv.data.insert key (buf.advance bufLen) }, copied)
        else
          readLoop fuel { advanced with data := recv.data.erase key } (cap - bufLen) copied

/-- Read contiguous data into a buffer of `outLen` bytes. On success the bytes and
the flag that the stream is finished are returned. -/
def read (recv : RecvBuf) (outLen : Nat) : Except Error (Bytes × Bool) × RecvBuf :=
  if !recv.ready then (.error .done, recv)
  else
    match recv.error with
    | some errorCode => (.error (.streamReset errorCode), { recv with data := ∅ })
    | none =>
      let copied := readLoop recv.data.size recv outLen []
      let after :=
        { copied.1 with flowControl := copied.1.flowControl.increaseReadOff copied.2.length }
      (.ok (copied.2, after.isFin), after)

/-- Receive a RESET_STREAM frame. Returns the bytes to add to the connection's
received total. -/
def reset (recv : RecvBuf) (errorCode finalSize : Nat) : Except Error Nat × RecvBuf :=
  if recv.finOff.any (fun finOff => finOff ≠ finalSize) then (.error .finalSizeError, recv)
  else if finalSize < recv.recvOff then (.error .finalSizeError, recv)
  else
    let maxRxOffDelta := finalSize - recv.recvOff
    -- Duplicate RESET_STREAM frame.
    if recv.error.isSome then (.ok maxRxOffDelta, recv)
    else
      let cleared := { recv with error := some errorCode, data := ∅ }
      match cleared.write finalSize [] true with
      | .error error => (.error error, cleared)
      | .ok notified => (.ok maxRxOffDelta, { notified with readOff := finalSize })

def shutdown (recv : RecvBuf) : Except Error Nat × RecvBuf :=
  if recv.shutdownFlag then (.error .done, recv)
  else
    (.ok (recv.recvOff - recv.readOff),
      { recv with shutdownFlag := true, data := ∅, readOff := recv.recvOff })

def updateMaxData (recv : RecvBuf) (now : Instant) : RecvBuf :=
  { recv with flowControl := recv.flowControl.updateMaxData now }

def autotuneWindow (recv : RecvBuf) (now : Instant) (srtt : Duration) : RecvBuf :=
  { recv with flowControl := recv.flowControl.autotuneWindow now srtt }

end RecvBuf

end Tquic.Connection
