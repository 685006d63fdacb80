import Tquic.Connection.StreamMapOperations
import Tquic.Frame

/-! The frames of one packet while it is written, after `connection.rs`, and the frames that wait
to be sent again on another path, after `space.rs`. -/

set_option autoImplicit false

namespace Tquic.Connection

open Lib

inductive BufferType where
  | high
  | mid
  | low
  deriving DecidableEq

structure BufferQueue where
  high : List Frame
  mid : List Frame
  low : List Frame
  count : Nat
  counted : count = high.length + mid.length + low.length

namespace BufferQueue

def default : BufferQueue := ⟨[], [], [], 0, rfl⟩

def popFront (queue : BufferQueue) : Option (Frame × BufferType × BufferQueue) :=
  match queue with
  | ⟨frame :: high, mid, low, count, counted⟩ =>
    some (frame, .high, ⟨high, mid, low, count - 1, by simp only [List.length_cons] at counted; omega⟩)
  | ⟨[], frame :: mid, low, count, counted⟩ =>
    some (frame, .mid, ⟨[], mid, low, count - 1, by simp only [List.length_cons] at counted; omega⟩)
  | ⟨[], [], frame :: low, count, counted⟩ =>
    some (frame, .low, ⟨[], [], low, count - 1, by simp only [List.length_cons] at counted; omega⟩)
  | ⟨[], [], [], _, _⟩ => none

def pushFront (queue : BufferQueue) (frame : Frame) : BufferType → BufferQueue
  | .high =>
    { queue with
      high := frame :: queue.high
      count := queue.count + 1
      counted := by rw [queue.counted, List.length_cons]; omega }
  | .mid =>
    { queue with
      mid := frame :: queue.mid
      count := queue.count + 1
      counted := by rw [queue.counted, List.length_cons]; omega }
  | .low =>
    { queue with
      low := frame :: queue.low
      count := queue.count + 1
      counted := by rw [queue.counted, List.length_cons]; omega }

def pushBack (queue : BufferQueue) (frame : Frame) : BufferType → BufferQueue
  | .high =>
    { queue with
      high := queue.high ++ [frame]
      count := queue.count + 1
      counted := by rw [queue.counted, List.length_append, List.length_singleton]; omega }
  | .mid =>
    { queue with
      mid := queue.mid ++ [frame]
      count := queue.count + 1
      counted := by rw [queue.counted, List.length_append, List.length_singleton]; omega }
  | .low =>
    { queue with
      low := queue.low ++ [frame]
      count := queue.count + 1
      counted := by rw [queue.counted, List.length_append, List.length_singleton]; omega }

def isEmpty (queue : BufferQueue) : Bool := queue.count = 0

/-- All frames, in the order in which they are taken out. -/
def frames (queue : BufferQueue) : List Frame := queue.high ++ (queue.mid ++ queue.low)

theorem popFront_frames {queue rest : BufferQueue} {frame : Frame} {kind : BufferType}
    (popped : queue.popFront = some (frame, kind, rest)) : queue.frames = frame :: rest.frames := by
  obtain ⟨high, mid, low, count, counted⟩ := queue
  cases high with
  | cons first high =>
    cases popped
    rfl
  | nil =>
    cases mid with
    | cons first mid =>
      cases popped
      rfl
    | nil =>
      cases low with
      | cons first low =>
        cases popped
        rfl
      | nil => cases popped

variable {queue : BufferQueue}

theorem popFront_none (empty : queue.popFront = none) : queue.frames = [] := by
  obtain ⟨high, mid, low, count, counted⟩ := queue
  cases high with
  | cons first high => cases empty
  | nil =>
    cases mid with
    | cons first mid => cases empty
    | nil =>
      cases low with
      | cons first low => cases empty
      | nil => rfl

theorem frames_of_isEmpty (empty : queue.isEmpty = true) : queue.frames = [] := by
  have none : queue.count = 0 := of_decide_eq_true empty
  have counted := queue.counted
  refine List.eq_nil_of_length_eq_zero ?_
  rw [frames, List.length_append, List.length_append]
  omega

theorem mem_pushFront {frame other : Frame} (kind : BufferType) :
    other ∈ (queue.pushFront frame kind).frames ↔ other = frame ∨ other ∈ queue.frames := by
  cases kind <;> simp only [pushFront, frames, List.mem_append, List.mem_cons] <;> tauto

theorem mem_pushBack {frame other : Frame} (kind : BufferType) :
    other ∈ (queue.pushBack frame kind).frames ↔ other = frame ∨ other ∈ queue.frames := by
  cases kind <;> simp only [pushBack, frames, List.mem_append, List.mem_singleton] <;> tauto

end BufferQueue

/-- The queues that the frames of a packet came from. -/
structure BufferFlags where
  fromHigh : Bool := false
  fromMid : Bool := false
  fromLow : Bool := false
  deriving DecidableEq

def BufferFlags.hasBuffered (flags : BufferFlags) : Bool :=
  flags.fromHigh || flags.fromMid || flags.fromLow

def BufferFlags.mark (flags : BufferFlags) : BufferType → BufferFlags
  | .high => { flags with fromHigh := true }
  | .mid => { flags with fromMid := true }
  | .low => { flags with fromLow := true }

/-- What is known of a packet while its frames are written. -/
structure FrameWriteStatus where
  /-- What stands in the buffer so far. -/
  payload : Bytes := []
  frames : List Frame := []
  ackEliciting : Bool := false
  inFlight : Bool := false
  hasData : Bool := false
  challenge : Option (Vector UInt8 8) := none
  ackElicitRequired : Bool := false
  isProbe : Bool := false
  isPmtuProbe : Bool := false
  pacing : Bool := false
  overhead : Nat := 0
  bufferFlags : BufferFlags := {}

def FrameWriteStatus.written (st : FrameWriteStatus) : Nat := st.payload.length

/-- Write a frame into a buffer of `outLen` bytes. -/
def writeFrameToPacket (frame : Frame) (outLen : Nat) (st : FrameWriteStatus) :
    Except Error FrameWriteStatus :=
  if st.written + frame.wireLen > outLen then .error .done
  else
    match frame.toBytes (outLen - st.written) with
    | .error error => .error error
    | .ok (bytes, _) => .ok { st with payload := st.payload ++ bytes, frames := st.frames ++ [frame] }

end Tquic.Connection
