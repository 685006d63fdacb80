import Tquic.RangesProperties
import Tquic.Connection.RangeBuf

/-! The send buffer of a stream, after `SendBuf` of `connection/stream.rs`. -/

set_option autoImplicit false

namespace Tquic.Connection

open Lib

def sendBufferSize : Nat := 4096

structure SendBuf where
  -- Data written by the application but not yet acknowledged, ordered by offset.
  data : List RangeBuf
  -- The index of the data block that will be sent next.
  pos : Nat
  writeOff : Nat
  unsentOff : Nat
  unackedLen : Nat
  maxData : Nat
  blockedAt : Option Nat
  finOff : Option Nat
  shutdownFlag : Bool
  acked : RangeSet
  retransmits : RangeSet
  -- Error code received in a STOP_SENDING frame.
  error : Option Nat

namespace SendBuf

def new (maxData : Nat) : SendBuf :=
  { data := [], pos := 0, writeOff := 0, unsentOff := 0, unackedLen := 0, maxData,
    blockedAt := none, finOff := none, shutdownFlag := false, acked := .default,
    retransmits := .default, error := none }

/-- The lowest offset of data to be sent. -/
def sendOff (send : SendBuf) : Nat := send.retransmits.min.getD send.unsentOff

def ready (send : SendBuf) : Bool := !send.data.isEmpty && send.sendOff < send.writeOff

/-- The highest offset that has been acknowledged without a hole below it. -/
def ackOff (send : SendBuf) : Nat :=
  match send.acked.iter.head? with
  | some ⟨0, stop⟩ => stop
  | _ => 0

def isShutdown (send : SendBuf) : Bool := send.shutdownFlag

def isFin (send : SendBuf) : Bool := send.finOff = some send.writeOff

/-- The final size is known and all stream data has been acknowledged. -/
def isComplete (send : SendBuf) : Bool :=
  match send.finOff with
  | some finOff => finOff = 0 || send.acked.eqRange ⟨0, finOff⟩
  | none => false

def isStopped (send : SendBuf) : Bool := send.error.isSome

def capacity (send : SendBuf) : Except Error Nat :=
  match send.error with
  | some errorCode => .error (.streamStopped errorCode)
  | none => .ok (send.maxData - send.writeOff)

def updateMaxData (send : SendBuf) (maxData : Nat) : SendBuf :=
  { send with maxData := max send.maxData maxData }

def updateBlockedAt (send : SendBuf) (blockedAt : Option Nat) : SendBuf :=
  { send with blockedAt }

def push (send : SendBuf) (data : Bytes) (fin : Bool) : SendBuf :=
  { send with
    writeOff := send.writeOff + data.length
    data := send.data ++ [⟨data, send.writeOff, fin⟩] }

/-- Split the data into consistently sized blocks; what is left fits into one. Every
round takes a full block, so the length of the data bounds the number of rounds. -/
def pushBlocks : Nat → SendBuf → Bytes → Nat → Nat → Bool → SendBuf × Bytes
  | 0, send, data, _, _, _ => (send, data)
  | fuel + 1, send, data, len, dataLen, fin =>
    if data.length > sendBufferSize then
      let chunk := data.take sendBufferSize
      pushBlocks fuel (send.push chunk (len + chunk.length = dataLen && fin))
        (data.drop sendBufferSize) (len + chunk.length) dataLen fin
    else (send, data)

/-- Store the data that `write` has accepted; without data there is nothing to do. -/
def append (send : SendBuf) (data : Bytes) (fin : Bool) : SendBuf :=
  if data.isEmpty then send
  else
    let pushed := pushBlocks data.length send data 0 data.length fin
    let send := if pushed.2.isEmpty then pushed.1 else pushed.1.push pushed.2 fin
    { send with unackedLen := send.unackedLen + data.length }

def write (send : SendBuf) (data : Bytes) (fin : Bool) : Except Error (Nat × SendBuf) :=
  let maxOff := send.writeOff + data.length
  match send.capacity with
  | .error error => .error error
  | .ok capacity =>
    let truncated := data.length > capacity
    -- FIN is dropped with the bytes that do not fit.
    let kept := if truncated then data.take capacity else data
    let fin := if truncated then false else fin
    if send.finOff.any (fun finOff => maxOff > finOff) then .error .finalSizeError
    else if send.finOff.any (fun finOff => maxOff = finOff && !fin) then
      .error .finalSizeError
    else
      let send := if fin then { send with finOff := some maxOff } else send
      .ok (kept.length, send.append kept fin)

/-- The next range to transmit: lost data first, then new data. -/
def pollTransmit (send : SendBuf) (maxLen : Nat) : Range × SendBuf :=
  match send.retransmits.popMin with
  | (some range, rest) =>
    let stop := min range.stop (range.start + maxLen)
    let retransmits := if stop ≠ range.stop then rest.insert ⟨stop, range.stop⟩ else rest
    (⟨range.start, stop⟩, { send with retransmits })
  | (none, _) =>
    let stop := min send.writeOff (send.unsentOff + maxLen)
    (⟨send.unsentOff, stop⟩, { send with unsentOff := stop })

/-- Walk the blocks from index `pos` to the one that holds the start of a range. -/
def seek : List RangeBuf → Range → Nat → Bytes × Nat
  | [], _, pos => ([], pos)
  | segment :: rest, range, pos =>
    if range.start ≥ segment.off && range.start < segment.maxOff then
      let start := range.start - segment.off
      let stop := min (range.stop - segment.off) segment.len
      ((segment.data.take stop).drop start, if stop = segment.len then pos + 1 else pos)
    else seek rest range (pos + 1)

def readRange (send : SendBuf) (range : Range) : Bytes × SendBuf :=
  let found := seek (send.data.drop send.pos) range send.pos
  (found.1, { send with pos := found.2 })

/-- Copy a range block by block; `none` if that takes more than `fuel` rounds. -/
def copyRange : Nat → SendBuf → Range → Bytes → Option (SendBuf × Bytes)
  | 0, send, range, out => if range.start ≠ range.stop then none else some (send, out)
  | fuel + 1, send, range, out =>
    if range.start ≠ range.stop then
      let found := send.readRange range
      copyRange fuel found.2 ⟨range.start + found.1.length, range.stop⟩ (out ++ found.1)
    else some (send, out)

/-- The outer loop of `read`. Returns the output, the next offset and the capacity left. -/
def readLoop : Nat → SendBuf → Nat → Nat → Bytes → Option (SendBuf × Bytes × Nat × Nat)
  | fuel, send, cap, nextOff, out =>
    if cap > 0 && send.ready && send.sendOff = nextOff && send.sendOff < send.maxData then
      match fuel with
      | 0 => none
      | fuel + 1 =>
        let polled := send.pollTransmit cap
        let rangeLen := polled.1.stop - polled.1.start
        match copyRange rangeLen polled.2 polled.1 out with
        | none => none
        | some (send, out) => readLoop fuel send (cap - rangeLen) (nextOff + rangeLen) out
    else some (send, out, nextOff, cap)

/-- Read data into a buffer of `outLen` bytes. Returns the bytes written to it and
the fin flag; `none` if the copying does not end. -/
def read (send : SendBuf) (outLen : Nat) : Option ((Bytes × Bool) × SendBuf) :=
  match readLoop outLen send outLen send.sendOff [] with
  | none => none
  | some (after, out, nextOff, _) => some ((out, after.finOff = some nextOff), after)

def ack (send : SendBuf) (off len : Nat) : SendBuf :=
  { send with acked := send.acked.insert ⟨off, off + len⟩ }

/-- Remove `toAdvance` bytes from the front. Returns the number of dropped blocks. -/
def dropFront : List RangeBuf → Nat → List RangeBuf × Nat
  | [], _ => ([], 0)
  | front :: rest, toAdvance =>
    if toAdvance = 0 then (front :: rest, 0)
    else if front.len ≤ toAdvance then
      let dropped := dropFront rest (toAdvance - front.len)
      (dropped.1, dropped.2 + 1)
    else (front.advance toAdvance :: rest, 0)

def recordAck (send : SendBuf) (off len : Nat) : SendBuf :=
  let acked := send.ack off len
  { acked with retransmits := acked.retransmits.remove ⟨off, off + len⟩ }

/-- Drop the data that has been acknowledged without a hole. -/
def dropAcked (send : SendBuf) : SendBuf :=
  let baseOff := send.writeOff - send.unackedLen
  let toAdvance := send.ackOff - baseOff
  let dropped := dropFront send.data toAdvance
  { send with
    unackedLen := send.unackedLen - toAdvance
    data := dropped.1
    pos := send.pos - dropped.2 }

def ackAndDrop (send : SendBuf) (off len : Nat) : SendBuf :=
  -- A duplicate ACK, or the stream was reset and its data is gone.
  if send.data.isEmpty then { send with retransmits := send.retransmits.clear }
  -- There is a gap below the range.
  else if off > (send.recordAck off len).ackOff then send.recordAck off len
  else (send.recordAck off len).dropAcked

/-- Subtract the acknowledged ranges from a lost one. The part that is left for
the final insertion is returned with the parts inserted before. -/
def lostLoop : List Range → RangeSet → Nat → Nat → RangeSet × Range
  | [], retransmits, start, stop => (retransmits, ⟨start, stop⟩)
  | range :: rest, retransmits, start, stop =>
    if stop ≤ range.start then (retransmits, ⟨start, stop⟩)
    else if start ≥ range.stop then lostLoop rest retransmits start stop
    else if start < range.start then
      if stop ≤ range.stop then (retransmits, ⟨start, range.start⟩)
      else lostLoop rest (retransmits.insert ⟨start, range.start⟩) range.stop stop
    else if stop ≤ range.stop then (retransmits, ⟨start, start⟩)
    else lostLoop rest retransmits range.stop stop

def retransmit (send : SendBuf) (off len : Nat) : SendBuf :=
  if send.data.isEmpty then send
  else if off + len ≤ send.ackOff then send
  else
    let lost := lostLoop send.acked.iter send.retransmits off (off + len)
    let queued := { send with retransmits := lost.1.insert lost.2 }
    -- The accurate position is found again while reading.
    if queued.sendOff < send.sendOff then { queued with pos := 0 } else queued

/-- Reset the stream at the first unsent offset. Returns the final size and the
number of bytes that have not been sent. -/
def reset (send : SendBuf) : (Nat × Nat) × SendBuf :=
  let unsentLen := send.writeOff - send.unsentOff
  let acked := ({ send with finOff := some send.unsentOff, data := [] } : SendBuf).ack 0 send.unsentOff
  ((send.unsentOff, unsentLen), { acked with pos := 0, writeOff := send.unsentOff })

def stop (send : SendBuf) (errorCode : Nat) : Except Error ((Nat × Nat) × SendBuf) :=
  if send.error.isSome then .error .done
  else
    let result := send.reset
    .ok (result.1, { result.2 with error := some errorCode })

def shutdown (send : SendBuf) : Except Error ((Nat × Nat) × SendBuf) :=
  if send.shutdownFlag then .error .done
  else .ok ({ send with shutdownFlag := true } : SendBuf).reset

end SendBuf

end Tquic.Connection
