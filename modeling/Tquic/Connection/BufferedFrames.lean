import Tquic.Connection.PacketWriter
import Tquic.FrameRoundTrip
import Tquic.RangeLimits

/-! STREAM frames that are sent again on another path, after `connection.rs` and
`scheduler_redundant.rs`: what is written of them, what goes back to the queue, and what is
lost. -/

set_option autoImplicit false

namespace Tquic.Connection

open Lib StreamMap

/-- The first part of the range that was not acknowledged. -/
def SendBuf.filterAcked (send : SendBuf) (range : Range) : Option Range := send.acked.filter range

/-- A slice beyond the end is a panic. -/
def slice (data : Bytes) (start stop : Nat) : Except Error Bytes :=
  if start ≤ stop ∧ stop ≤ data.length then .ok ((data.take stop).drop start) else .error .panic

def writeBufferedStreamFrameToPacket (streamId offset : Nat) (fin : Bool) (data : Bytes)
    (outLen : Nat) (bufferType : BufferType) (st : FrameWriteStatus) :
    Except Error (Nat × FrameWriteStatus) :=
  let room := outLen - st.written
  if room ≤ maxStreamOverhead then .ok (0, st)
  else
    let hdrLen := streamHeaderWireLen streamId offset
    let dataLen := min data.length (room - hdrLen)
    let fin := if dataLen < data.length then false else fin
    let data := data.take dataLen
    match (Frame.encodeStreamHeader streamId offset dataLen fin).run { written := [], room } with
    | .error error => .error error
    | .ok (_, header) =>
      .ok (dataLen, { st with
        payload := st.payload ++ (header.written ++ data)
        ackEliciting := true
        inFlight := true
        hasData := true
        bufferFlags := st.bufferFlags.mark bufferType
        frames := st.frames ++ [.stream streamId offset data.length fin data] })

structure Packing where
  buffered : BufferQueue
  st : FrameWriteStatus

/-- A turn of the loop of `try_write_buffered_frames`: what it took out of the queue, and what
it put back. -/
structure Turn where
  before : Packing
  popped : Frame
  back : Option Frame
  after : Packing
  last : Bool

def Turn.wrote (turn : Turn) : Option Frame := turn.after.st.frames[turn.before.st.frames.length]?

/-- What a turn put into the buffer. -/
def Turn.bytes (turn : Turn) : Bytes := turn.after.st.payload.drop turn.before.st.written

def writePart (streamId offset length : Nat) (fin : Bool) (data : Bytes) (part : Range)
    (outLen : Nat) (bufferType : BufferType) (turn : Turn) : Except Error Turn := do
  let unacked ← slice data (part.start - offset) (part.stop - offset)
  let (dataLen, st) ← writeBufferedStreamFrameToPacket streamId part.start
    (fin && part.stop = offset + length) unacked outLen bufferType turn.after.st
  let wrote := { turn with back := none, after := { turn.after with st }, last := dataLen = 0 }
  if part.start + dataLen < offset + length then
    let tailLen := offset + length - part.start - dataLen
    let tailData ← slice data (length - tailLen) data.length
    let tail := Frame.stream streamId (part.start + dataLen) tailLen fin tailData
    return { wrote with
      back := some tail
      after := { wrote.after with buffered := wrote.after.buffered.pushFront tail bufferType } }
  else return wrote

def nextTurn (streams : StreamMap) (outLen : Nat) (packing : Packing) : Option (Except Error Turn) :=
  match packing.buffered.popFront with
  | none => none
  | some (frame, bufferType, rest) =>
    let popped : Turn :=
      { before := packing
        popped := frame
        back := none
        after := { packing with buffered := rest }
        last := false }
    match frame with
    | .stream streamId offset length fin data =>
      match streams.get streamId with
      | none => some (.ok popped)
      | some stream =>
        match stream.send.filterAcked ⟨offset, offset + length⟩ with
        | none => some (.ok popped)
        | some part =>
          some (writePart streamId offset length fin data part outLen bufferType popped)
    -- Other frames are ignored.
    | _ => some (.ok popped)

/-- All turns, with what they leave; `none` if the fuel ends. -/
def writeTurns (streams : StreamMap) (outLen : Nat) :
    Nat → Packing → Option (Except Error (List Turn × Packing))
  | 0, _ => none
  | fuel + 1, packing =>
    match nextTurn streams outLen packing with
    | none => some (.ok ([], packing))
    | some (.error error) => some (.error error)
    | some (.ok turn) =>
      if turn.last then some (.ok ([turn], turn.after))
      else
        (writeTurns streams outLen fuel turn.after).map
          (·.map fun later => (turn :: later.1, later.2))

/-- A turn takes out a frame, or a part of one. -/
def frameWeight : Frame → Nat
  | .stream _ _ length _ _ => length + 1
  | _ => 1

def BufferQueue.weight (queue : BufferQueue) : Nat := (queue.frames.map frameWeight).sum

theorem weight_pushFront (queue : BufferQueue) (frame : Frame) (kind : BufferType) :
    (queue.pushFront frame kind).weight = frameWeight frame + queue.weight := by
  unfold BufferQueue.weight
  cases kind <;>
    simp only [BufferQueue.pushFront, BufferQueue.frames, List.map_append, List.map_cons,
      List.sum_append, List.sum_cons] <;> omega

theorem weight_popFront {queue rest : BufferQueue} {frame : Frame} {kind : BufferType}
    (front : queue.popFront = some (frame, kind, rest)) :
    queue.weight = frameWeight frame + rest.weight := by
  unfold BufferQueue.weight
  rw [BufferQueue.popFront_frames front, List.map_cons, List.sum_cons]

theorem frameWeight_pos (frame : Frame) : 0 < frameWeight frame := by
  cases frame <;> exact Nat.succ_pos _

def tryWriteBufferedFrames (enableMultipath isClosing active : Bool) (pktType : PacketType)
    (streams : StreamMap) (outLen : Nat) (packing : Packing) :
    Option (Except Error (List Turn × Packing)) :=
  if !enableMultipath then some (.ok ([], packing))
  else if pktType ≠ .oneRtt || isClosing || outLen - packing.st.written ≤ maxStreamOverhead ||
      !active then some (.ok ([], packing))
  else if packing.buffered.isEmpty then some (.ok ([], packing))
  else writeTurns streams outLen (packing.buffered.weight + 1) packing

/-! ## `RedundantScheduler` -/

/-- A path and what is buffered for it, if its packet number space is there. -/
structure PathBuffer where
  pathId : Nat
  active : Bool
  buffered : Option BufferQueue

def injectFrame (queue : BufferQueue) (frame : Frame) : BufferQueue :=
  match frame with
  | .stream _ _ _ _ _ => queue.pushBack frame .high
  | _ => queue

/-- The STREAM frames of a packet are sent again on all other active paths. -/
def injectFrames (frames : List Frame) (pathId : Nat) : List PathBuffer → List PathBuffer
  | [] => []
  | path :: rest =>
    if path.pathId = pathId || !path.active then path :: injectFrames frames pathId rest
    else
      match path.buffered with
      | none => path :: rest
      | some queue =>
        { path with buffered := some (frames.foldl injectFrame queue) } ::
          injectFrames frames pathId rest

def onSent (frames : List Frame) (bufferFlags : BufferFlags) (pathId : Nat)
    (paths : List PathBuffer) : List PathBuffer :=
  if bufferFlags.hasBuffered then paths else injectFrames frames pathId paths

/-! ## What a turn does -/

def headerImage (streamId offset length : Nat) (fin : Bool) : Bytes :=
  varint (if fin then 0x0f else 0x0e) ++ (varint streamId ++ (varint offset ++
    BigEndian.encode 2 (length % 65536 ||| 0x4000)))

theorem length_headerImage (streamId offset length : Nat) (fin : Bool) :
    (headerImage streamId offset length fin).length = streamHeaderWireLen streamId offset := by
  have kind : encodeVarintLen (if fin then 0x0f else 0x0e) = 1 := by cases fin <;> rfl
  simp only [headerImage, List.length_append, length_varint, BigEndian.length_encode, kind,
    streamHeaderWireLen]
  omega

private theorem fills_streamHeader {streamId offset : Nat} (id : streamId ≤ vintMax)
    (off : offset ≤ vintMax) (length : Nat) (fin : Bool) :
    Fills (Frame.encodeStreamHeader streamId offset length fin)
      (headerImage streamId offset length fin) () := by
  have kind : (if fin then 0x0f else 0x0e) ≤ vintMax := by cases fin <;> decide
  exact (fills_varint kind).bind ((fills_varint id).bind ((fills_varint off).bind (fills_uint 2 _)))

def partLen (room streamId : Nat) (part : Range) : Nat :=
  if room ≤ maxStreamOverhead then 0
  else min (part.stop - part.start) (room - streamHeaderWireLen streamId part.start)

theorem partLen_le (room streamId : Nat) (part : Range) :
    partLen room streamId part ≤ part.stop - part.start := by
  unfold partLen
  split_ifs
  · exact Nat.zero_le _
  · exact Nat.min_le_left _ _

/-- FIN stays with the last byte. -/
def partFrame (streamId offset : Nat) (fin : Bool) (data : Bytes) (part : Range) (dataLen : Nat) :
    Frame :=
  .stream streamId part.start dataLen
    (fin && part.stop = offset + data.length && dataLen = part.stop - part.start)
    ((data.drop (part.start - offset)).take dataLen)

/-- What is put back of a frame. -/
def tailFrame (streamId offset : Nat) (fin : Bool) (data : Bytes) (next : Nat) : Option Frame :=
  if next < offset + data.length then
    some (.stream streamId next (offset + data.length - next) fin (data.drop (next - offset)))
  else none

def withStream (st : FrameWriteStatus) (bufferType : BufferType) (frame : Frame) (bytes : Bytes) :
    FrameWriteStatus :=
  { st with
    payload := st.payload ++ bytes
    ackEliciting := true
    inFlight := true
    hasData := true
    bufferFlags := st.bufferFlags.mark bufferType
    frames := st.frames ++ [frame] }

section Part

variable {streamId offset outLen : Nat} {fin : Bool} {data : Bytes} {part : Range}
  {bufferType : BufferType} {st : FrameWriteStatus}

private theorem writeBuffered_full (full : outLen - st.written ≤ maxStreamOverhead) :
    writeBufferedStreamFrameToPacket streamId offset fin data outLen bufferType st = .ok (0, st) :=
  if_pos full

/-- Behind the header, as many bytes are written as there is room for. -/
theorem writeBuffered_sends (id : streamId ≤ vintMax) (off : offset ≤ vintMax)
    (roomy : ¬ outLen - st.written ≤ maxStreamOverhead) {dataLen : Nat}
    (length : min data.length (outLen - st.written - streamHeaderWireLen streamId offset) =
      dataLen) :
    writeBufferedStreamFrameToPacket streamId offset fin data outLen bufferType st =
      .ok (dataLen, withStream st bufferType
        (.stream streamId offset dataLen (fin && dataLen = data.length) (data.take dataLen))
        (headerImage streamId offset dataLen (fin && dataLen = data.length) ++
          data.take dataLen)) := by
  have kept : (if dataLen < data.length then false else fin) =
      (fin && decide (dataLen = data.length)) := by
    split_ifs with cut
    · rw [decide_eq_false (by omega), Bool.and_false]
    · rw [decide_eq_true (by omega), Bool.and_true]
  have taken : (data.take dataLen).length = dataLen := by
    rw [List.length_take]
    omega
  have few := streamHeaderWireLen_le streamId offset
  have fits : (headerImage streamId offset dataLen (fin && decide (dataLen = data.length))).length ≤
      outLen - st.written := by
    rw [length_headerImage]
    omega
  have header := (fills_streamHeader id off dataLen (fin && decide (dataLen = data.length))).writes
    { written := [], room := outLen - st.written } fits
  unfold writeBufferedStreamFrameToPacket
  simp only [if_neg roomy, length, kept, header, List.nil_append, taken, withStream]

def partBytes (streamId offset : Nat) (fin : Bool) (data : Bytes) (part : Range) (dataLen : Nat) :
    Bytes :=
  headerImage streamId part.start dataLen
      (fin && part.stop = offset + data.length && dataLen = part.stop - part.start) ++
    (data.drop (part.start - offset)).take dataLen

def partStatus (streamId offset : Nat) (fin : Bool) (data : Bytes) (part : Range) (outLen : Nat)
    (bufferType : BufferType) (st : FrameWriteStatus) : FrameWriteStatus :=
  let dataLen := partLen (outLen - st.written) streamId part
  if outLen - st.written ≤ maxStreamOverhead then st
  else withStream st bufferType (partFrame streamId offset fin data part dataLen)
    (partBytes streamId offset fin data part dataLen)

/-- The queue with what was put back. -/
def requeue (queue : BufferQueue) (bufferType : BufferType) : Option Frame → BufferQueue
  | some tail => queue.pushFront tail bufferType
  | none => queue

def partTurn (streamId offset : Nat) (fin : Bool) (data : Bytes) (part : Range) (outLen : Nat)
    (bufferType : BufferType) (turn : Turn) : Turn :=
  let dataLen := partLen (outLen - turn.after.st.written) streamId part
  let back := tailFrame streamId offset fin data (part.start + dataLen)
  { turn with
    back
    after :=
      { buffered := requeue turn.after.buffered bufferType back
        st := partStatus streamId offset fin data part outLen bufferType turn.after.st }
    last := dataLen = 0 }

theorem slice_drop {start stop : Nat} (ordered : start ≤ stop) (inside : stop ≤ data.length) :
    slice data start stop = .ok ((data.drop start).take (stop - start)) := by
  unfold slice
  rw [if_pos ⟨ordered, inside⟩, List.drop_take]

/-- The same for a part of a frame, which has FIN only at the end of the frame. -/
theorem writeBuffered_part (id : streamId ≤ vintMax) (place : offset + data.length ≤ vintMax)
    (begins : offset ≤ part.start) (ordered : part.start ≤ part.stop)
    (ends : part.stop ≤ offset + data.length) :
    writeBufferedStreamFrameToPacket streamId part.start
        (fin && part.stop = offset + data.length)
        ((data.drop (part.start - offset)).take (part.stop - part.start)) outLen bufferType st =
      .ok (partLen (outLen - st.written) streamId part,
        partStatus streamId offset fin data part outLen bufferType st) := by
  have width : ((data.drop (part.start - offset)).take (part.stop - part.start)).length =
      part.stop - part.start := by
    rw [List.length_take, List.length_drop]
    omega
  by_cases full : outLen - st.written ≤ maxStreamOverhead
  · rw [writeBuffered_full full, partLen, if_pos full, partStatus, if_pos full]
  · have length : min ((data.drop (part.start - offset)).take (part.stop - part.start)).length
        (outLen - st.written - streamHeaderWireLen streamId part.start) =
          partLen (outLen - st.written) streamId part := by
      rw [width, partLen, if_neg full]
    have inside := partLen_le (outLen - st.written) streamId part
    rw [writeBuffered_sends id (by omega) full length, partStatus, if_neg full]
    simp only [width, partFrame, partBytes, List.take_take, Nat.min_eq_left inside]

theorem writePart_eq (id : streamId ≤ vintMax) (place : offset + data.length ≤ vintMax)
    (begins : offset ≤ part.start) (ordered : part.start ≤ part.stop)
    (ends : part.stop ≤ offset + data.length) (turn : Turn) :
    writePart streamId offset data.length fin data part outLen bufferType turn =
      .ok (partTurn streamId offset fin data part outLen bufferType turn) := by
  have unacked := @slice_drop data _ _ (Nat.sub_le_sub_right ordered offset)
    (show part.stop - offset ≤ data.length by omega)
  have width : part.stop - offset - (part.start - offset) = part.stop - part.start := by omega
  rw [width] at unacked
  have inside := partLen_le (outLen - turn.after.st.written) streamId part
  unfold writePart
  rw [unacked]
  simp only [bind, Except.bind, pure, Except.pure]
  rw [writeBuffered_part id place begins ordered ends]
  dsimp only
  unfold partTurn tailFrame
  dsimp only
  split_ifs with shorter
  · have tail := @slice_drop data (data.length - (offset + data.length - part.start -
      partLen (outLen - turn.after.st.written) streamId part)) data.length (by omega) (le_refl _)
    rw [tail]
    dsimp only
    have start : data.length - (offset + data.length - part.start -
        partLen (outLen - turn.after.st.written) streamId part) =
          part.start + partLen (outLen - turn.after.st.written) streamId part - offset := by omega
    rw [start, List.take_of_length_le (by rw [List.length_drop]), Nat.sub_sub]
    rfl
  · rfl

end Part

end Tquic.Connection
