import Tquic.Connection.StreamInvariants

/-! The RESET_STREAM frame of a stream whose send side was reset. The code judges the stream
by its byte ranges, all of which the reset has declared acknowledged, so another event may
complete the stream before the frame is delivered. -/

set_option autoImplicit false

namespace Tquic.Connection

open Lib

namespace StreamMap

theorem Emits.live {before after : StreamMap} {frames : List StreamFrame} {id : Nat}
    {stream : Stream} (emits : Emits before frames after) (found : before.get id = some stream) :
    ∃ later, after.get id = some later ∧ later.closed = stream.closed := by
  induction emits generalizing stream with
  | done => exact ⟨stream, found, rfl⟩
  | requeue requeue _ ih => exact ih ((requeue.quiet.get id).trans found)
  | @frame before after frames other touched outLen bytes fin send _ present _ _ _ ih =>
    by_cases same : id = other
    · subst same
      have equal : touched = stream := Option.some.inj (present.symm.trans found)
      obtain ⟨later, inside, closed⟩ := ih (get_setStream before id { touched with send })
      exact ⟨later, inside, closed.trans (by rw [equal])⟩
    · refine ih ?_
      rw [StreamMap.get, setStream, OrdMap.get?_insert, if_neg same]
      exact found

theorem Emits.isServer {before after : StreamMap} {frames : List StreamFrame}
    (emits : Emits before frames after) : after.isServer = before.isServer := by
  induction emits with
  | done => rfl
  | requeue requeue _ ih => exact ih.trans requeue.quiet.isServer
  | frame _ _ _ _ _ ih => exact ih

end StreamMap

namespace World

open StreamMap

/-- A stream that owes a RESET_STREAM frame is still open. -/
def Owing (world : World) : Prop :=
  ∀ id ∈ world.owed, (isBidi id = true ∨ isLocal id world.map.isServer = true) ∧
    ∃ stream, world.map.get id = some stream ∧ stream.closed = false

/-- A read takes everything up to the final size. -/
def ReadsToEnd (recv : RecvBuf) (outLen : Nat) : Prop :=
  ∃ finOff, recv.finOff = some finOff ∧ finOff - recv.readOff ≤ outLen ∧
    ∀ value, recv.readOff ≤ value → value < finOff → recv.Holds value

/-- While a stream owes a RESET_STREAM frame, nothing ends its receive side or, after that,
acknowledges its earlier data. -/
def KeepsReset (world : World) : Op → Prop
  | .streamAcked frame => frame.streamId ∈ world.owed →
      ∀ stream, world.map.get frame.streamId = some stream →
        stream.bidi = true ∧ (stream.recv.isComplete = true → stream.recv.ready = true)
  | .read id outLen => id ∈ world.owed → ∀ stream, world.map.get id = some stream →
      stream.recv.ready = true → stream.recv.error = none ∧ ¬ ReadsToEnd stream.recv outLen
  | .resetStream id _ _ => id ∈ world.owed → ∀ stream, world.map.get id = some stream →
      if stream.recv.error.isSome then stream.recv.ready = true
      else stream.recv.isFin = false ∧ stream.recv.shutdownFlag = false
  | _ => True

private theorem read_not_complete {recv : RecvBuf} (valid : recv.Valid) {outLen : Nat}
    (ready : recv.ready = true) (running : recv.error = none)
    (short : ¬ ReadsToEnd recv outLen) : (recv.read outLen).2.isComplete = false := by
  rcases RecvBuf.read_cases valid.ordered outLen with
    ⟨idle, _⟩ | ⟨_, _, failed, _⟩ | ⟨_, _, bytes, after, drained, same⟩
  · rw [ready] at idle
    cases idle
  · rw [running] at failed
    cases failed
  · rw [same]
    by_contra complete
    have finished : after.finOff = some after.readOff := by
      simpa [RecvBuf.isComplete] using complete
    have copied := drained.copied
    have readOff := copied.readOff
    have bounded := drained.bounded
    refine short ⟨after.readOff, copied.finOff ▸ finished, by omega, ?_⟩
    exact copied.held

section Owing

variable {world next : World} {id : Nat} {old new : Stream}

theorem Owing.quiet (owing : world.Owing) (quiet : Quiet world.map next.map)
    (fewer : ∀ other ∈ next.owed, other ∈ world.owed) : next.Owing := by
  intro other member
  rw [quiet.isServer, quiet.get]
  exact owing other (fewer other member)

theorem Owing.held (owing : world.Owing) (held : Held world.map next.map id old new)
    (fewer : ∀ other ∈ next.owed, other ∈ world.owed ∨ other = id ∧
      (isBidi id = true ∨ isLocal id world.map.isServer = true) ∧ old.closed = false) :
    next.Owing := by
  intro other member
  rw [held.isServer, StreamMap.get, held.streams, OrdMap.get?_insert]
  rcases fewer other member with before | ⟨rfl, sends, running⟩
  · obtain ⟨sends, stream, found, running⟩ := owing other before
    refine ⟨sends, ?_⟩
    split
    case isTrue same =>
      subst same
      refine ⟨new, rfl, ?_⟩
      rw [held.closed]
      rcases held.opened with present | ⟨missing, _⟩
      · rw [found, Option.some.injEq] at present
        rw [← present]
        exact running
      · rw [found] at missing
        cases missing
    case isFalse => exact ⟨stream, found, running⟩
  · exact ⟨sends, new, if_pos rfl, held.closed.trans running⟩

/-- Only the touched stream may have settled what it owed. -/
theorem Owing.touched (owing : world.Owing) (touched : Touched world.map next.map id old new)
    (fewer : ∀ other ∈ next.owed, other ∈ world.owed)
    (stays : id ∈ next.owed → world.map.get id = some old → old.closed = false →
      new.closed = true → new.isComplete = true → False) : next.Owing := by
  cases touched with
  | held held => exact owing.held held fun other member => .inl (fewer other member)
  | shut shut complete =>
    intro other member
    obtain ⟨sends, stream, found, running⟩ := owing other (fewer other member)
    by_cases same : other = id
    · subst same
      rcases shut.opened with present | ⟨missing, _⟩
      · rw [found, Option.some.injEq] at present
        subst present
        exact (stays member found running shut.closed complete).elim
      · rw [found] at missing
        cases missing
    · rw [shut.isServer, StreamMap.get]
      refine ⟨sends, stream, ?_, running⟩
      rcases shut.streams with ⟨streams, _⟩ | ⟨streams, _⟩
      · rw [streams, OrdMap.get?_insert, if_neg same]
        exact found
      · rw [streams, OrdMap.get?_erase, if_neg same]
        exact found

end Owing

theorem recv_isComplete {stream : Stream} (complete : stream.isComplete = true)
    (bidi : stream.bidi = true) : stream.recv.isComplete = true := by
  rw [Stream.isComplete, bidi] at complete
  exact (Bool.and_eq_true_iff.mp complete).2

theorem Owing.bidi {world : World} {id : Nat} (owing : world.Owing) (member : id ∈ world.owed)
    (receives : isBidi id = true ∨ isLocal id world.map.isServer = false) : isBidi id = true := by
  rcases receives with bidi | remote
  · exact bidi
  · rcases (owing id member).1 with bidi | own
    · exact bidi
    · rw [remote] at own
      cases own

theorem unacked_cases {world : World} {id : Nat} (valid : world.Valid)
    (waiting : unacked world.map id = true) :
    ∃ stream, world.map.get id = some stream ∧ ¬ stream.send.Finished := by
  rw [unacked] at waiting
  split at waiting
  case h_2 => cases waiting
  case h_1 stream found =>
    refine ⟨stream, found, fun finished => ?_⟩
    rcases finished.covered (valid.streams.live id stream found).send with vacant | covered
    · simp [vacant] at waiting
    · simp [covered] at waiting

theorem mem_silence_owed {world : World} {id other : Nat} {after : StreamMap}
    (member : other ∈ (world.silence id after).owed) :
    other ∈ world.owed ∨ other = id ∧ unacked world.map id = true := by
  simp only [silence] at member
  split at member
  case isTrue waiting => exact (List.mem_cons.mp member).symm.imp_right fun same => ⟨same, waiting⟩
  case isFalse => exact .inl member

theorem owing_step {world next : World} {op : Op} (valid : world.Valid) (owing : world.Owing)
    (allowed : KeepsReset world op) (effect : Effect world op next) : next.Owing := by
  have all : ∀ other ∈ world.owed, other ∈ world.owed := fun _ member => member
  cases effect with
  | still quiet _ => exact owing.quiet quiet all
  | kept held _ _ _ _ _ => exact owing.held held fun _ => .inl
  | @read id outLen after old new found receives ready touched recv _ _ _ _ _ _ =>
    refine owing.touched touched all fun member _ _ _ complete => ?_
    have stream := valid.streams.live id old found
    obtain ⟨running, short⟩ := allowed member old found ready
    have bidi : new.bidi = true :=
      (touched.kind.1.trans stream.bidi).trans (owing.bidi member receives)
    have ended := recv_isComplete complete bidi
    rw [recv, read_not_complete stream.recv ready running short] at ended
    cases ended
  | written _ held _ _ _ _ _ _ _ _ _ _ => exact owing.held held fun _ => .inl
  | readShut _ held _ _ _ _ _ _ _ _ => exact owing.held held fun _ => .inl
  | @cut op id errorCode after old new _ sends held _ _ _ _ _ _ =>
    refine owing.held held fun other member => ?_
    refine (mem_silence_owed member).imp_right fun ⟨same, waiting⟩ => ⟨same, sends, ?_⟩
    obtain ⟨stream, found, unfinished⟩ := unacked_cases valid waiting
    have present := valid.streams.live id stream found
    rcases held.opened with here | ⟨missing, _⟩
    · rw [found, Option.some.injEq] at here
      subst here
      by_contra closed
      refine unfinished (present.settled (by simpa using closed) ?_)
      rw [present.bidi, present.byLocal]
      exact sends
    · rw [found] at missing
      cases missing
  | @stoppedAgain id errorCode after old held stopped _ =>
    refine owing.held held fun other member => .inl ?_
    rcases mem_silence_owed member with before | ⟨_, waiting⟩
    · exact before
    · obtain ⟨stream, found, unfinished⟩ := unacked_cases valid waiting
      rcases held.opened with here | ⟨missing, _⟩
      · rw [found, Option.some.injEq] at here
        subst here
        cases (valid.streams.live id stream found).send with
        | running _ running _ => simp [SendBuf.isStopped, running.2] at stopped
        | truncated _ truncated => exact absurd truncated.finished unfinished
      · rw [found] at missing
        cases missing
  | stopIgnored missing _ quiet _ =>
    refine owing.quiet quiet fun other member => ?_
    rcases mem_silence_owed member with before | ⟨_, waiting⟩
    · exact before
    · rw [unacked, missing] at waiting
      cases waiting
  | granted quiet _ _ _ _ _ => exact owing.quiet quiet all
  | @reset id errorCode finalSize delta after old new receives touched outcome send finished _ _ _
      _ _ _ =>
      refine owing.touched touched all fun member found open_ closed _ => ?_
      have stream := valid.streams.live id old found
      have ready := (stream.recv.reset outcome).ready
      have told := allowed member old found
      have unread : new.recv.ready = false := by
        rcases finished closed with before | ⟨_, unread⟩
        · rw [open_] at before
          cases before
        · exact unread
      rw [unread] at ready
      split at told
      case isTrue failed => simp [failed, told] at ready
      case isFalse running => simp [running, told] at ready
  | received held _ _ _ _ _ _ _ _ => exact owing.held held fun _ => .inl
  | @acked frame after old new sent found touched recv send finished _ =>
    refine owing.touched touched all fun member _ open_ closed complete => ?_
    obtain ⟨bidi, told⟩ := allowed member old found
    rcases finished closed with before | ⟨_, unread⟩
    · rw [open_] at before
      cases before
    · have ended := recv_isComplete complete (touched.kind.1.trans bidi)
      rw [recv] at ended
      rw [Stream.isReadable, recv, told ended] at unread
      cases unread
  | ackIgnored _ _ => exact owing
  | resetAcked found touched recv send _ =>
    refine owing.touched touched (fun _ => List.mem_of_mem_filter) fun member => ?_
    simp at member
  | resetAckIgnored _ =>
    exact fun other member => owing other (List.mem_of_mem_filter member)
  | lost _ _ held _ _ _ _ _ => exact owing.held held fun _ => .inl
  | @sent outLen frames after emits =>
    intro other member
    obtain ⟨sends, stream, found, running⟩ := owing other member
    obtain ⟨later, present, closed⟩ := emits.live found
    exact ⟨emits.isServer ▸ sends, later, present, closed.trans running⟩
  | resetSent quiet _ => exact owing.quiet quiet all
  | advertised quiet _ _ _ _ _ => exact owing.quiet quiet all
  | @destroyed id after stream found closing isServer streams _ _ _ _ =>
    intro other member
    obtain ⟨sends, stream, present, running⟩ := owing other member
    refine ⟨isServer ▸ sends, stream, ?_, running⟩
    have apart : other ≠ id := by
      rintro rfl
      rw [(valid.closing other closing).2 stream present] at running
      cases running
    rw [StreamMap.get, streams, OrdMap.get?_erase, if_neg apart]
    exact present

/-- In every run in which nothing completes a stream that owes its RESET_STREAM frame, such a
stream stays open until the frame is acknowledged, and a loss of the frame queues it
again. -/
theorem reset_outlives_frame (world : World) (reached : Reachable KeepsReset world) (id : Nat)
    (owed : id ∈ world.owed) :
    (∃ stream, world.map.get id = some stream ∧ stream.closed = false) ∧
      ∀ errorCode finalSize, (id, errorCode, finalSize) ∈ world.resetSent →
        ∃ next, world.step (.resetLost id errorCode finalSize) = some next ∧
          next.map.reset.get? id = some (errorCode, finalSize) := by
  obtain ⟨_, owing⟩ := reached.invariant (fun _ _ _ _ _ => by simp [Owing, World.new])
    fun valid owing allowed effect => owing_step valid owing allowed effect
  obtain ⟨_, stream, found, running⟩ := owing id owed
  refine ⟨⟨stream, found, running⟩, fun errorCode finalSize sent => ?_⟩
  have requeued : world.map.onResetStreamFrameLost id errorCode finalSize =
      world.map.markReset id true errorCode finalSize := by
    rw [onResetStreamFrameLost, found]
    rfl
  refine ⟨_, if_pos sent, ?_⟩
  rw [requeued, markReset]
  exact OrdMap.get?_insert_self _ _ _

/-- A client shuts down a stream, and its RESET_STREAM frame is lost. -/
theorem reset_outlives_frame_uni :
    ∃ world next, Reachable KeepsReset world ∧ 2 ∈ world.owed ∧
      world.step (.resetLost 2 7 3) = some next ∧ next.map.reset.get? 2 = some (7, 3) := by
  let check : World → Op → Bool
    | _, .streamAcked _ | _, .read _ _ | _, .resetStream _ _ _ => false
    | _, _ => true
  have executed : (exec (checked check step) (.new false 100 100 {} false)
      [.peerParams { initialMaxData := 30, initialMaxStreamDataUni := 20, initialMaxStreamsUni := 1 },
        .write 2 [1, 2, 3] false, .sendStreams 100, .shutdownWrite 2 7, .sendReset 2]).any
          (fun world => 2 ∈ world.owed ∧ (2, 7, 3) ∈ world.resetSent) = true := by
    decide +kernel
  obtain ⟨world, run, found⟩ := (Option.any_eq_true _ _).mp executed
  obtain ⟨owed, sent⟩ := of_decide_eq_true found
  have sound : ∀ state op, check state op = true → KeepsReset state op := by
    intro state op passed
    cases op with
    | streamAcked _ => cases passed
    | read _ _ => cases passed
    | resetStream _ _ _ => cases passed
    | _ => trivial
  have reached : Reachable KeepsReset world := ⟨_, _, _, _, _, .of_checked sound (.of_exec run)⟩
  obtain ⟨next, stepped, queued⟩ := (reset_outlives_frame world reached 2 owed).2 7 3 sent
  exact ⟨world, next, reached, owed, stepped, queued⟩

/-- The acknowledgement of data that was sent before the reset destroys the stream, and the
loss of the RESET_STREAM frame is then ignored. -/
theorem reset_forgotten :
    ∃ world next, Reachable anyStep world ∧ 2 ∈ world.owed ∧ world.map.get 2 = none ∧
      (2, 7, 3) ∈ world.resetSent ∧ world.step (.resetLost 2 7 3) = some next ∧
      next.map.reset.get? 2 = none := by
  have executed : (exec step (.new false 100 100 {} false)
      [.peerParams { initialMaxData := 30, initialMaxStreamDataUni := 20, initialMaxStreamsUni := 1 },
        .write 2 [1, 2, 3] false, .sendStreams 100, .shutdownWrite 2 7, .sendReset 2,
        .streamAcked ⟨2, 0, 3, false⟩]).any
          (fun world => (2 ∈ world.owed ∧ (2, 7, 3) ∈ world.resetSent) ∧
            (world.map.get 2).isNone = true ∧ world.map.reset.get? 2 = none) = true := by
    decide +kernel
  obtain ⟨world, run, found⟩ := (Option.any_eq_true _ _).mp executed
  obtain ⟨⟨owed, sent⟩, missing, unset⟩ := of_decide_eq_true found
  rw [Option.isNone_iff_eq_none] at missing
  have ignored : world.map.onResetStreamFrameLost 2 7 3 = world.map := by
    rw [onResetStreamFrameLost, missing]
    rfl
  refine ⟨world, _, ⟨_, _, _, _, _, .of_exec run⟩, owed, missing, sent, if_pos sent, ?_⟩
  rw [ignored]
  exact unset

end World

end Tquic.Connection
