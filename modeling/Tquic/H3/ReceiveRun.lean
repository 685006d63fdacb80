import Mathlib.Data.Finset.Lattice.Fold
import Mathlib.Order.Lattice.Nat
import Tquic.H3.PanicFreedom

/-! Runs of an HTTP/3 connection: the calls of the application, in any order, over a transport that
changes in any way between them. -/

set_option autoImplicit false

namespace Tquic.H3

open Lib Connection Stateful

variable {α β : Type}

inductive Http3Op where
  /-- Whatever the peer sends, the network loses or the application does at the transport. -/
  | transport (conn : QuicConn)
  | poll (order : SetOrder)
  | recvBody (streamId outLen : Nat)
  | streamNew (priority : Http3Priority)
  | streamClose (streamId : Nat)
  | streamSetPriority (streamId : Nat) (priority : Http3Priority)
  | sendHeaders (streamId : Nat) (headers : List Qpack.Header) (fin : Bool)
  | sendBody (streamId : Nat) (body : Bytes) (fin : Bool)
  | sendPriorityUpdate (streamId : Nat) (priority : Http3Priority)
  | takePriorityUpdate (streamId : Nat)
  | sendGoaway (id : Nat)

namespace Http3Connection

/-- The state after a call, whatever it returns. -/
def perform (state : Http3Connection × QuicConn) : Http3Op → Http3Connection × QuicConn
  | .transport conn => (state.1, conn)
  | .poll order => ((poll order).run state).2
  | .recvBody streamId outLen => ((recvBody streamId outLen).run state).2
  | .streamNew priority => ((streamNewWithPriority priority).run state).2
  | .streamClose streamId => ((streamClose streamId).run state).2
  | .streamSetPriority streamId priority => ((streamSetPriority streamId priority).run state).2
  | .sendHeaders streamId headers fin => ((sendHeaders streamId headers fin).run state).2
  | .sendBody streamId body fin => ((sendBody streamId body fin).run state).2
  | .sendPriorityUpdate streamId priority =>
      ((sendPriorityUpdateForRequest streamId priority).run state).2
  | .takePriorityUpdate streamId => ((takePriorityUpdate streamId).run state).2
  | .sendGoaway id => ((sendGoaway id).run state).2

def step (state : Http3Connection × QuicConn) (op : Http3Op) : Option (Http3Connection × QuicConn) :=
  some (perform state op)

def Opened (state : Http3Connection × QuicConn) : Prop :=
  ∃ conn usable maxFieldSectionSize qpackMaxTableCapacity qpackBlockedStreams,
    state = (newWithQuicConn conn usable maxFieldSectionSize qpackMaxTableCapacity
      qpackBlockedStreams).2

/-! ## What calls leave alone -/

variable {state : Http3Connection × QuicConn}

/-- Nothing of the receive path differs. -/
structure SameReceive (stream next : Http3Stream) : Prop where
  machine : next.machine = stream.machine
  streamId : next.streamId = stream.streamId
  streamType : next.streamType = stream.streamType
  frameType : next.frameType = stream.frameType

/-- A property that the calls that send keep. -/
structure Unaffected (inv : Http3Connection × QuicConn → Prop) : Prop where
  transport : ∀ state conn, inv state → inv (state.1, conn)
  inserted : ∀ state id stream next, state.1.streams.get? id = some stream →
    SameReceive stream next → inv state → inv (state.1.setStream id next, state.2)
  created : ∀ state id, inv state → inv (state.1.setStream id
    { Http3Stream.new id true with priorityInitialized := true }, state.2)
  destroyed : ∀ state id, inv state → inv (state.1.streamDestroy id, state.2)
  aside : ∀ state http3, http3.streams = state.1.streams → http3.criticalIds = state.1.criticalIds →
    http3.finishedStreams = state.1.finishedStreams → inv state → inv (http3, state.2)

namespace Unaffected

variable {inv : Http3Connection × QuicConn → Prop} (keeps : Unaffected inv)

include keeps

theorem call (steps : Stateful QuicConn Error α) : Preserves inv (call steps : ConnM α) :=
  fun state kept => keeps.transport state _ kept

theorem onStream {id : Nat} {change : Http3Stream → Http3Stream}
    (same : ∀ stream : Http3Stream, SameReceive stream (change stream)) :
    Preserves inv (onStream id (Http3Stream.own (modify change)) : ConnM Unit) := by
  intro state kept
  cases found : state.1.streams.get? id with
  | none =>
      change inv (Http3Connection.onStream id _ state).2
      rw [Http3Connection.onStream, found]
      exact kept
  | some stream =>
      rw [onStream_run found]
      exact keeps.inserted state id stream _ found (same stream) kept

theorem closeWith (error : Http3Error) (reason : String) :
    Preserves inv (closeWith error reason : ConnM α) := by
  unfold H3.closeWith
  split_ifs
  · exact preserves_throw _
  · exact (keeps.call _).bind fun _ => preserves_throw _

theorem updateNextRequestStreamId : Preserves inv updateNextRequestStreamId := by
  refine .of_get fun state kept => ?_
  dsimp only
  split
  · exact kept
  · exact keeps.aside state _ rfl rfl rfl kept

theorem updateNextUniStreamId : Preserves inv updateNextUniStreamId := by
  refine .of_get fun state kept => ?_
  dsimp only
  split
  · exact kept
  · exact keeps.aside state _ rfl rfl rfl kept

theorem destroyFinished (id : Nat) : Preserves inv (destroyFinished id) := by
  refine .of_get fun state kept => ?_
  change inv (if _ then _ else _, state.2)
  split_ifs
  · exact keeps.destroyed state id kept
  · exact kept

omit keeps in
theorem encodeHeaderFields (headers : List Qpack.Header) :
    Preserves inv (encodeHeaderFields headers) := by
  refine .of_get fun state kept => ?_
  dsimp only
  split_ifs
  · exact kept
  · split <;> exact kept

theorem noteHeadersSent (id : Nat) (fin : Bool) :
    Preserves inv (update (·.noteHeadersSent id fin)) := by
  intro state kept
  change inv (state.1.noteHeadersSent id fin, state.2)
  unfold Http3Connection.noteHeadersSent
  split
  case h_1 => exact kept
  case h_2 stream found => exact keeps.inserted state id stream _ found ⟨rfl, rfl, rfl, rfl⟩ kept

theorem sendHeaderBlock (id : Nat) (headerBlock : Bytes) (fin : Bool) :
    Preserves inv (sendHeaderBlock id headerBlock fin) := by
  refine (preserves_ofExcept _).bind fun header => ((keeps.call _).attempt).bind fun writable => ?_
  split
  · exact (keeps.destroyFinished id).bind fun _ => preserves_throw _
  · refine ((keeps.call _).attempt).bind fun _ => (keeps.onStream ?_).bind fun _ =>
      preserves_throw _
    exact fun stream => ⟨rfl, rfl, rfl, rfl⟩
  · refine (keeps.call _).bind fun _ => (keeps.call _).bind fun _ =>
      (keeps.noteHeadersSent id fin).bind fun _ => ?_
    split_ifs
    · exact keeps.destroyFinished id
    · exact preserves_pure _

theorem initPriority (kept : inv state) {id : Nat} {stream : Http3Stream}
    (found : state.1.streams.get? id = some stream) :
    inv ((initPriority id stream).run state).2 := by
  unfold Http3Connection.initPriority
  split_ifs
  · exact kept
  · refine Ends.invariant (ends_bind.mpr (ends_call.mpr (.of_forall (fun _ conn => ?_)
      fun _ conn => keeps.transport state conn kept)))
    exact keeps.inserted (state.1, conn) id stream _ found ⟨rfl, rfl, rfl, rfl⟩
      (keeps.transport state conn kept)

theorem sendHeaders (id : Nat) (headers : List Qpack.Header) (fin : Bool) :
    Preserves inv (sendHeaders id headers fin) := by
  refine .of_get fun state kept => ?_
  dsimp only
  split_ifs
  · exact kept
  · split
    case h_1 => exact kept
    case h_2 stream found =>
      exact invariant_bind (keeps.initPriority kept found) fun _ =>
        (encodeHeaderFields headers).bind fun _ => keeps.sendHeaderBlock _ _ _

theorem awaitWritable (id len : Nat) : Preserves inv (awaitWritable id len) :=
  ((keeps.call _).attempt).bind fun _ => ((keeps.call _).attempt).bind fun _ => preserves_pure _

theorem noteBodySent (id : Nat) : Preserves inv (noteBodySent id) := by
  refine .of_get fun state kept => ?_
  change inv (if _ then _ else _, state.2)
  split_ifs
  · exact keeps.destroyed state id kept
  · split
    case h_1 => exact kept
    case h_2 stream found => exact keeps.inserted state id stream _ found ⟨rfl, rfl, rfl, rfl⟩ kept

theorem sendDataFrame (id sendCapacity : Nat) (body : Bytes) (fin : Bool) :
    Preserves inv (sendDataFrame id sendCapacity body fin) := by
  unfold Http3Connection.sendDataFrame
  dsimp only
  split
  · exact (keeps.awaitWritable _ _).bind fun _ => preserves_throw _
  split
  · exact preserves_throw _
  refine (preserves_ofExcept _).bind fun _ => (keeps.call _).bind fun _ =>
    (keeps.call _).bind fun _ => ?_
  split
  · exact (keeps.awaitWritable _ _).bind fun _ => preserves_pure _
  split
  · exact (keeps.noteBodySent _).bind fun _ => preserves_pure _
  · exact preserves_pure _

theorem sendBody (id : Nat) (body : Bytes) (fin : Bool) : Preserves inv (sendBody id body fin) := by
  refine .of_get fun state kept => ?_
  dsimp only
  split
  · exact kept
  split
  case h_1 => exact kept
  case h_2 stream found =>
    split
    case h_1 =>
      refine invariant_bind ?_ fun _ => (keeps.sendHeaderBlock _ _ _).bind fun _ =>
        preserves_throw _
      exact keeps.inserted state id stream _ found ⟨rfl, rfl, rfl, rfl⟩ kept
    case h_2 =>
      split
      · exact kept
      split
      · exact kept
      split
      · exact ((keeps.destroyFinished id).bind fun _ => preserves_throw _) state kept
      · exact keeps.sendDataFrame _ _ _ _ state kept

theorem streamNewWithPriority (priority : Http3Priority) :
    Preserves inv (streamNewWithPriority priority) := by
  refine .of_get fun state kept => ?_
  dsimp only
  split
  · exact kept
  refine ((keeps.call _).bind fun _ => Preserves.bind ?_ fun _ =>
    keeps.updateNextRequestStreamId.bind fun _ => preserves_pure _) state kept
  exact fun after kept => keeps.created after state.1.nextRequestStreamId kept

theorem streamClose (id : Nat) : Preserves inv (streamClose id) := by
  unfold Http3Connection.streamClose
  split
  · exact preserves_throw _
  refine .of_get fun state kept => ?_
  dsimp only
  split
  case h_1 => exact kept
  case h_2 stream found =>
    have destroys : Preserves inv (update (·.streamDestroy id)) :=
      fun after kept => keeps.destroyed after id kept
    refine ((Preserves.attempt ?_).bind fun _ => (Preserves.attempt ?_).bind fun _ =>
      destroys) state kept
    · split
      · exact preserves_pure _
      · exact keeps.call _
    · split
      · exact preserves_pure _
      · exact keeps.call _

theorem streamSetPriority (id : Nat) (priority : Http3Priority) :
    Preserves inv (streamSetPriority id priority) := by
  refine .of_get fun state kept => ?_
  dsimp only
  split
  · exact kept
  · exact keeps.call _ state kept

theorem writeFrame (id : Nat) (frame : Http3Frame) (room : Nat) :
    Preserves inv (writeFrame id frame room) :=
  (preserves_ofExcept _).bind fun _ => (keeps.call _).bind fun _ => preserves_pure _

theorem sendPriorityUpdate (id : Nat) (priority : Http3Priority) :
    Preserves inv (sendPriorityUpdateForRequest id priority) := by
  refine .of_get fun state kept => ?_
  dsimp only
  split
  · exact kept
  split
  · exact kept
  split
  · exact kept
  refine (Preserves.attempt (keeps.call _)).bind (fun writable => ?_) state kept
  split
  · exact preserves_throw _
  · exact (Preserves.attempt (keeps.call _)).bind fun _ => preserves_throw _
  · exact keeps.writeFrame _ _ _

theorem takePriorityUpdate (id : Nat) : Preserves inv (takePriorityUpdate id) := by
  refine .of_get fun state kept => ?_
  dsimp only
  split
  case h_1 => exact kept
  case h_2 stream found =>
    refine invariant_bind ?_ fun _ => ?_
    · exact keeps.inserted state id stream _ found ⟨rfl, rfl, rfl, rfl⟩ kept
    · split
      · exact preserves_throw _
      · exact preserves_pure _

theorem sendGoaway (id : Nat) : Preserves inv (sendGoaway id) := by
  refine .of_get fun state kept => ?_
  dsimp only
  generalize (if state.1.isServer = true then id else 0) = goawayId
  split
  · exact kept
  split
  · exact kept
  split
  · exact kept
  refine ((preserves_ofExcept _).bind fun _ => (preserves_ofExcept _).bind fun _ => ?_) state kept
  split
  · exact (Preserves.attempt (keeps.call _)).bind fun _ => preserves_throw _
  · exact (keeps.call _).bind fun _ => fun state kept => keeps.aside state _ rfl rfl rfl kept

/-! ## New connections -/

theorem openUniStream (streamType : Nat) : Preserves inv (openUniStream streamType) := by
  refine .of_get fun state kept => ?_
  exact ((keeps.call _).bind fun _ => (preserves_ofExcept _).bind fun _ =>
    (keeps.call _).bind fun _ => keeps.updateNextUniStreamId.bind fun _ =>
      preserves_pure _) state kept

theorem openControlStream : Preserves inv openControlStream := by
  refine (keeps.openUniStream _).attempt.bind fun opened => ?_
  split
  · exact preserves_throw _
  · exact preserves_throw _
  · refine .bind (fun state kept => keeps.aside state _ rfl rfl rfl kept) fun _ => ?_
    exact .of_get fun state kept => keeps.writeFrame _ _ _ state kept

theorem openCriticalStreams : Preserves inv openCriticalStreams := by
  refine keeps.openControlStream.attempt.bind fun opened => ?_
  split
  · exact keeps.closeWith _ _
  · refine (Preserves.attempt ?_).bind fun _ => (Preserves.attempt ?_).bind fun _ =>
      preserves_pure _
    · exact (keeps.openUniStream _).bind fun _ =>
        fun state kept => keeps.aside state _ rfl rfl rfl kept
    · exact (keeps.openUniStream _).bind fun _ =>
        fun state kept => keeps.aside state _ rfl rfl rfl kept

theorem newWithQuicConn {conn : QuicConn} {usable : Bool} {fieldSection table blocked : Option Nat}
    (fresh : inv (Http3Connection.new conn.streams.isServer fieldSection table blocked, conn)) :
    inv (newWithQuicConn conn usable fieldSection table blocked).2 := by
  unfold Http3Connection.newWithQuicConn
  dsimp only
  split
  · exact fresh
  · exact keeps.openCriticalStreams _ fresh

end Unaffected

/-! ## Calls keep the streams well formed -/

def Whole (state : Http3Connection × QuicConn) : Prop := state.1.Sound

theorem SameReceive.continues {stream next : Http3Stream} (same : SameReceive stream next)
    (sound : stream.Sound) : stream.Continues next := by
  have state : next.state = stream.state := congrArg Http3StateMachine.state same.machine
  refine ⟨⟨same.machine ▸ sound.machine, ?_, ?_, ?_, ?_, ?_⟩, same.streamId,
    fun _ => same.streamType, fun _ begun => state ▸ begun⟩
  · exact state ▸ same.streamType ▸ sound.place
  · exact same.streamType ▸ same.streamId ▸ sound.bidi
  · exact state ▸ same.frameType ▸ sound.framed
  · exact same.streamType ▸ same.frameType ▸ sound.control
  · exact state ▸ same.frameType ▸ same.machine ▸ sound.fields

theorem whole_unaffected : Unaffected Whole where
  transport _ _ sound := sound
  inserted state id stream next found same sound := by
    obtain ⟨fits, named⟩ := sound.streams id stream found
    exact Sound.setStream sound (same.continues fits).sound (same.streamId.trans named)
  created state id sound := by
    have fresh := newStream_sound id true
    have same : SameReceive (Http3Stream.new id true)
        { Http3Stream.new id true with priorityInitialized := true } := ⟨rfl, rfl, rfl, rfl⟩
    exact Sound.setStream sound (same.continues fresh).sound rfl
  destroyed _ id sound := Sound.streamDestroy sound id
  aside _ _ same critical _ sound := Sound.of_streams sound same critical

theorem Opened.sound (opened : Opened state) : state.1.Sound := by
  obtain ⟨conn, usable, fieldSection, table, blocked, rfl⟩ := opened
  have fresh : (Http3Connection.new conn.streams.isServer fieldSection table blocked).Sound := by
    refine ⟨fun id stream found => ?_, fun id member => ?_⟩
    · exact absurd found (by simp [Http3Connection.new])
    · exact absurd member (List.not_mem_nil)
  exact whole_unaffected.newWithQuicConn fresh

/-! ## Runs -/

theorem perform_sound (sound : state.1.Sound) (op : Http3Op) : (perform state op).1.Sound := by
  cases op with
  | transport conn => exact sound
  | poll order => exact (poll_calm sound order).sound
  | recvBody streamId outLen => exact (recvBody_calm sound streamId outLen).sound
  | streamNew priority => exact whole_unaffected.streamNewWithPriority priority state sound
  | streamClose streamId => exact whole_unaffected.streamClose streamId state sound
  | streamSetPriority streamId priority =>
      exact whole_unaffected.streamSetPriority streamId priority state sound
  | sendHeaders streamId headers fin =>
      exact whole_unaffected.sendHeaders streamId headers fin state sound
  | sendBody streamId body fin => exact whole_unaffected.sendBody streamId body fin state sound
  | sendPriorityUpdate streamId priority =>
      exact whole_unaffected.sendPriorityUpdate streamId priority state sound
  | takePriorityUpdate streamId => exact whole_unaffected.takePriorityUpdate streamId state sound
  | sendGoaway id => exact whole_unaffected.sendGoaway id state sound

private theorem run_whole {start : Http3Connection × QuicConn} (opened : Opened start)
    (run : Run step anyStep start state) : state.1.Sound := by
  refine @Run.invariant _ _ _ _ (fun state => state.1.Sound) ?_ _ _ run opened.sound
  rintro before op after sound _ stepped
  cases stepped
  exact perform_sound sound op

/-- What the receive path relies on in a stream: no read goes past the buffer, and a payload that is
decoded is all there and is that of a known frame, which is not empty if the frame has fields. -/
structure WellFormed (stream : Http3Stream) : Prop where
  offset : stream.machine.writeOff ≤ stream.machine.expectedLen
  room : stream.state ≠ .data → stream.state ≠ .readFinished →
    stream.machine.expectedLen ≤ stream.machine.buf.length
  frameType : stream.state = .framePayload → stream.frameType.isSome = true
  payload : stream.state = .framePayload → stream.machine.buf.length = stream.machine.expectedLen
  fields : stream.state = .framePayload →
    stream.frameType.any (· ∈ Http3Stream.fieldFrameTypes) = true → 0 < stream.machine.expectedLen

/-- A panic stands for an arm that counts as unreachable, a slice or a subtraction out of range, a
missing type of a frame, and a loop without end. -/
theorem receive_path_never_panics {start state : Http3Connection × QuicConn} (opened : Opened start)
    (run : Run step anyStep start state) :
    (∀ id stream, state.1.streams.get? id = some stream → WellFormed stream) ∧
      (∀ order, ((poll order).run state).1 ≠ .error .panic) ∧
        ∀ id outLen, ((recvBody id outLen).run state).1 ≠ .error .panic := by
  have sound := run_whole opened run
  refine ⟨fun id stream found => ?_, fun order => (poll_calm sound order).ne_panic,
    fun id outLen => (recvBody_calm sound id outLen).ne_panic⟩
  obtain ⟨fits, _⟩ := sound.streams id stream found
  exact
    { offset := fits.machine.offset
      room := fits.machine.room
      frameType := fun place => fits.framed (.inr place)
      payload := fits.machine.payload
      fields := fits.fields }

/-- A server with a request that has a body and a request whose headers are not complete. -/
def sampleConn : QuicConn :=
  let limits : StreamTransportParams :=
    { initialMaxData := 1000, initialMaxStreamDataBidiLocal := 1000,
      initialMaxStreamDataBidiRemote := 1000, initialMaxStreamDataUni := 1000,
      initialMaxStreamsBidi := 9, initialMaxStreamsUni := 9 }
  let streams := (StreamMap.new true 1000 1000 limits none).updatePeerStreamTransportParams limits
  let received := (streams.onStreamFrameReceived 0 0 8 false [1, 2, 0, 0, 0, 3, 7, 7]).2
  { streams := (received.onStreamFrameReceived 4 0 3 false [1, 4, 9]).2
    localError := none
    isClosed := false
    isDraining := false
    accepted := [] }

def ascending : SetOrder where
  iter set := (List.range (set.sup id + 1)).filter (· ∈ set)
  complete set streamId := by
    rw [List.mem_filter, List.mem_range, decide_eq_true_eq]
    exact and_iff_right_of_imp fun member => Nat.lt_succ_of_le (Finset.le_sup (f := id) member)

theorem receive_path_never_panics_sample :
    ∃ start state, Opened start ∧ Run step anyStep start state ∧
      ((state.1.streams.get? 0).any fun stream => stream.state = .data) = true ∧
      ((state.1.streams.get? 4).any fun stream => stream.state = .framePayload) = true ∧
      ((poll ascending).run state).1 ≠ .error .panic := by
  let opened := (newWithQuicConn sampleConn true none none none).2
  have executed : (exec step opened
      [.poll ascending, .poll ascending, .poll ascending, .recvBody 0 1]).any (fun state =>
        (state.1.streams.get? 0).any (fun stream => stream.state = .data) &&
          (state.1.streams.get? 4).any fun stream => stream.state = .framePayload) = true := by
    decide +kernel
  obtain ⟨state, run, found⟩ := (Option.any_eq_true _ _).mp executed
  obtain ⟨first, second⟩ := Bool.and_eq_true_iff.mp found
  have fresh : Opened opened := ⟨sampleConn, true, none, none, none, rfl⟩
  have reached := Run.of_exec run
  exact ⟨opened, state, fresh, reached, first, second,
    (receive_path_never_panics fresh reached).2.1 ascending⟩

end Http3Connection

end Tquic.H3
