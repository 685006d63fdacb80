import Tquic.Connection.StreamInvariants

/-! STREAM frames after a reset. A stream that was stopped by the peer sends nothing, but a
stream that was shut down by the application keeps its place in the queue for sending and
may then send an empty frame with the FIN bit. -/

set_option autoImplicit false

namespace Tquic.Connection

open Lib

namespace StreamMap

/-! ## Writing STREAM frames comes to an end -/

theorem sendableLen_insert {map : StreamMap} {urgency : Nat} {queue : StreamPriorityQueue}
    (found : map.sendable.first? = some (urgency, queue)) (next : StreamPriorityQueue) :
    sendableLen { map with sendable := map.sendable.insert urgency next } +
        (queue.nonIncremental.length + queue.incremental.length) =
      map.sendableLen + (next.nonIncremental.length + next.incremental.length) :=
  OrdMap.total_insert _ next (OrdMap.get?_eq_some_iff.mpr (OrdMap.first?_mem found))

private theorem sendableLen_erase {map : StreamMap} {urgency : Nat} {queue : StreamPriorityQueue}
    (found : map.sendable.first? = some (urgency, queue)) :
    sendableLen { map with sendable := map.sendable.erase urgency } +
        (queue.nonIncremental.length + queue.incremental.length) = map.sendableLen :=
  OrdMap.total_erase _ (OrdMap.get?_eq_some_iff.mpr (OrdMap.first?_mem found))

theorem sendableLen_removeSendable {map : StreamMap} {urgency : Nat} {queue : StreamPriorityQueue}
    (found : map.sendable.first? = some (urgency, queue)) :
    map.removeSendable.sendableLen + min 1 (queue.nonIncremental.length + queue.incremental.length)
      ≤ map.sendableLen := by
  have erased := sendableLen_erase found
  have replaced := sendableLen_insert found
  rw [removeSendable, found]
  cases shape : queue.nonIncremental with
  | cons first rest =>
    have shorter := replaced { queue with nonIncremental := rest }
    simp only [shape, List.length_cons] at shorter erased ⊢
    split <;> omega
  | nil =>
    have shorter := replaced { queue with incremental := queue.incremental.dropLast }
    simp only [shape, List.length_nil, List.length_dropLast] at shorter erased ⊢
    split <;> omega

private theorem sendableLen_removeSendable_le (map : StreamMap) :
    map.removeSendable.sendableLen ≤ map.sendableLen := by
  cases found : map.sendable.first? with
  | none =>
    rw [removeSendable, found]
  | some entry =>
    have fewer := sendableLen_removeSendable found
    omega

/-- Looking up the next stream keeps the number of entries, and the entry that was found can
be removed. -/
theorem sendableLen_peekSendable (map : StreamMap) :
    map.peekSendable.2.sendableLen = map.sendableLen ∧
      ∀ id, map.peekSendable.1 = some id →
        map.peekSendable.2.removeSendable.sendableLen < map.sendableLen := by
  rw [peekSendable]
  cases found : map.sendable.first? with
  | none => exact ⟨rfl, fun id known => by cases known⟩
  | some entry =>
    obtain ⟨urgency, queue⟩ := entry
    cases nonIncremental : queue.nonIncremental with
    | cons id rest =>
      simp only [nonIncremental]
      have fewer := sendableLen_removeSendable found
      rw [nonIncremental, List.length_cons] at fewer
      exact ⟨trivial, fun _ _ => by omega⟩
    | nil =>
      cases incremental : queue.incremental with
      | nil =>
        simp only [nonIncremental, incremental]
        exact ⟨trivial, fun id known => by cases known⟩
      | cons id rest =>
        simp only [nonIncremental, incremental]
        have same := sendableLen_insert found { queue with incremental := rest ++ [id] }
        have first := OrdMap.first?_insert_first { queue with incremental := rest ++ [id] } found
        have fewer := @sendableLen_removeSendable { map with
          sendable := map.sendable.insert urgency { queue with incremental := rest ++ [id] } }
          _ _ first
        simp only [nonIncremental, incremental, List.length_append, List.length_cons,
          List.length_nil] at same fewer
        exact ⟨by omega, fun _ _ => by omega⟩

private theorem writeStreamFrames_total {fuel cap : Nat} {map : StreamMap}
    (sound : ∀ id stream, map.get id = some stream → stream.send.Sound)
    (enough : map.sendableLen + cap < fuel) :
    ∃ written, writeStreamFrames fuel map cap = some written := by
  induction fuel generalizing map cap with
  | zero => omega
  | succ fuel ih =>
    obtain ⟨same, fewer⟩ := sendableLen_peekSendable map
    have quiet := (peekSendable_requeue map).1.quiet
    rw [writeStreamFrames]
    split
    case h_1 => exact ⟨_, rfl⟩
    case h_2 id middle looked =>
      simp only [looked, Option.some.injEq, forall_eq'] at same fewer quiet
      have kept : ∀ other stream, middle.get other = some stream → stream.send.Sound :=
        fun other stream found => sound other stream (quiet.get other ▸ found)
      split
      case h_1 =>
        have removed := (removeSendable_requeue middle).quiet
        refine ih (fun other stream found => kept other stream (removed.get other ▸ found)) ?_
        omega
      case h_2 stream selected =>
        obtain ⟨found, _⟩ := Option.filter_eq_some_iff.mp selected
        obtain ⟨bytes, send, handed, next, _⟩ := (kept id stream found).read
          (cap - streamHeaderWireLen id stream.send.sendOff)
        simp only [handed]
        split
        case isTrue => exact ⟨_, rfl⟩
        case isFalse room =>
          have header : 0 < streamHeaderWireLen id stream.send.sendOff := by
            rw [streamHeaderWireLen]
            omega
          have stored : ∀ other later, (middle.setStream id { stream with send }).get other =
              some later → later.send.Sound := by
            intro other later present
            rw [StreamMap.get, setStream, OrdMap.get?_insert] at present
            split at present
            · cases present
              exact next
            · exact kept other later present
          have written : ∃ written, writeStreamFrames fuel
              (if !Stream.isSendable { stream with send } then
                (middle.setStream id { stream with send }).removeSendable
              else middle.setStream id { stream with send })
              (cap - (streamHeaderWireLen id stream.send.sendOff + bytes.length)) =
                some written := by
            have unchanged : (middle.setStream id { stream with send }).sendableLen =
              middle.sendableLen := rfl
            split
            · have removed := removeSendable_requeue (middle.setStream id { stream with send })
              have less := sendableLen_removeSendable_le (middle.setStream id { stream with send })
              refine ih ?_ (by omega)
              exact fun other later present =>
                stored other later (removed.quiet.get other ▸ present)
            · exact ih stored (by omega)
          obtain ⟨written, result⟩ := written
          rw [result]
          exact ⟨_, rfl⟩

private theorem tryWriteStreamFrames_total {map : StreamMap} {sent : List StreamFrame}
    (valid : map.Valid sent) (outLen : Nat) :
    ∃ frames after, map.tryWriteStreamFrames outLen = some (frames, after) := by
  rw [tryWriteStreamFrames]
  split
  · exact ⟨_, _, rfl⟩
  · obtain ⟨written, result⟩ := @writeStreamFrames_total (map.sendableLen + outLen + 1) outLen map
      (fun id stream found => (valid.streams.live id stream found).send) (by omega)
    exact ⟨_, _, result⟩

/-! ## Streams that send nothing -/

/-- A stream that was reset is gone, was stopped by the peer, or does not wait for sending. -/
def Silent (map : StreamMap) (silenced : List Nat) : Prop :=
  ∀ id ∈ silenced, map.Spent id ∧ ∀ stream, map.get id = some stream →
    stream.send.isStopped = true ∨ stream.send.shutdownFlag = true ∧ ¬ map.Queued id

section Silent

variable {map after : StreamMap} {sent : List StreamFrame} {silenced : List Nat} {id : Nat}
  {old new : Stream}

theorem Silent.quiet (silent : map.Silent silenced) (valid : map.Valid sent)
    (quiet : Quiet map after) (queue : NoneQueued map after) : after.Silent silenced := by
  intro id member
  obtain ⟨spent, mute⟩ := silent id member
  refine ⟨quiet.spent valid.steady spent, fun stream found => ?_⟩
  rw [quiet.get] at found
  exact (mute stream found).imp_right (And.imp_right (mt (queue id)))

theorem Silent.touched (silent : map.Silent silenced) (valid : map.Valid sent)
    (touched : Touched map after id old new)
    (stopped : old.send.isStopped = true → new.send.isStopped = true)
    (shut : old.send.shutdownFlag = true → new.send.shutdownFlag = true)
    (queue : ∀ other, after.Queued other → map.Queued other ∨
      other = id ∧ (map.get id = some old → old.send.shutdownFlag = true →
        new.send.isStopped = true)) : after.Silent silenced := by
  intro other member
  obtain ⟨spent, mute⟩ := silent other member
  refine ⟨touched.spent valid.steady spent, fun stream found => ?_⟩
  rcases touched.live found with ⟨rfl, rfl⟩ | ⟨apart, earlier⟩
  · rcases touched.opened with present | ⟨_, unused, _⟩
    · rcases mute old present with ended | ⟨down, idle⟩
      · exact .inl (stopped ended)
      · by_cases queued : after.Queued other
        · rcases queue other queued with before | ⟨_, ends⟩
          · exact absurd before idle
          · exact .inl (ends present down)
        · exact .inr ⟨shut down, queued⟩
    · exact absurd spent unused
  · refine (mute stream earlier).imp_right (And.imp_right fun idle queued => ?_)
    rcases queue other queued with before | ⟨same, _⟩
    · exact idle before
    · exact apart same

private theorem not_isSendable {stream : Stream} (sound : stream.send.Sound)
    (shut : stream.send.shutdownFlag = true) : stream.isSendable = false := by
  cases sound with
  | running _ running _ =>
    rw [running.1] at shut
    cases shut
  | truncated _ truncated => simp [Stream.isSendable, SendBuf.ready, truncated.data]

theorem Silent.same (silent : map.Silent silenced) (valid : map.Valid sent)
    (touched : Touched map after id old new) (sound : new.send.Sound)
    (error : new.send.error = old.send.error)
    (shutdownFlag : new.send.shutdownFlag = old.send.shutdownFlag)
    (queue : ∀ other, after.Queued other → map.Queued other ∨ other = id ∧
      (new.isSendable = true ∨ (map.get id = some old → old.send.shutdownFlag = true →
        old.send.isStopped = true))) : after.Silent silenced := by
  have stopped : new.send.isStopped = old.send.isStopped := by
    rw [SendBuf.isStopped, error, SendBuf.isStopped]
  refine silent.touched valid touched stopped.trans shutdownFlag.trans fun other queued => ?_
  refine (queue other queued).imp_right (And.imp_right fun reason present shut => ?_)
  rcases reason with sendable | exempt
  · rw [not_isSendable sound (shutdownFlag.trans shut)] at sendable
    cases sendable
  · exact stopped.trans (exempt present shut)

theorem Silent.unsent (silent : map.Silent silenced) (valid : map.Valid sent)
    (touched : Touched map after id old new) (send : new.send = old.send)
    (queue : NoneQueued map after) : after.Silent silenced := by
  refine silent.same valid touched ?_ (by rw [send]) (by rw [send])
    fun other queued => .inl (queue other queued)
  rw [send]
  exact (valid.opened touched.opened).send

theorem Silent.cons (silent : after.Silent silenced) (spent : after.Spent id)
    (mute : ∀ stream, after.get id = some stream →
      stream.send.isStopped = true ∨ stream.send.shutdownFlag = true ∧ ¬ after.Queued id) :
    after.Silent (id :: silenced) := by
  intro other member
  rcases List.mem_cons.mp member with rfl | before
  · exact ⟨spent, mute⟩
  · exact silent other before

/-- No frame is taken from a stream that was silenced. -/
theorem Silent.emits {frames : List StreamFrame} (valid : map.Valid sent)
    (silent : map.Silent silenced) (emits : Emits map frames after) :
    after.Silent silenced ∧ ∀ frame ∈ frames, frame.streamId ∉ silenced := by
  induction emits generalizing sent with
  | done => exact ⟨silent, by simp⟩
  | requeue requeue _ ih =>
    exact ih (valid.quiet requeue.quiet) (silent.quiet valid requeue.quiet requeue.queue)
  | @frame map after frames id stream outLen bytes fin send queued found running handed _ ih =>
    obtain ⟨later, held, ends, _⟩ := valid.frame found handed
    have kept : (map.setStream id { stream with send }).Silent silenced := by
      refine silent.same valid (.held held) ?_ ends.error ends.shutdownFlag fun _ => .inl
      exact (later.streams.live id _ held.get).send
    obtain ⟨final, rest⟩ := ih later kept
    refine ⟨final, fun frame member => ?_⟩
    rcases List.mem_cons.mp member with rfl | earlier
    · intro muted
      rcases (silent id muted).2 stream found with stopped | ⟨_, idle⟩
      · rw [running] at stopped
        cases stopped
      · exact idle queued
    · exact rest frame earlier

end Silent

end StreamMap

namespace World

open StreamMap

/-- A stream is shut down only while it is not queued for sending, unless the peer has stopped
it, and after that no empty FIN is written to it or reported as lost. -/
def KeepsSilence (world : World) : Op → Prop
  | .shutdownWrite id _ => ∀ stream, world.map.get id = some stream →
      stream.send.shutdownFlag = false → stream.send.isStopped = false → ¬ world.map.Queued id
  | .write id buf fin => buf = [] → fin = true → ∀ stream, world.map.get id = some stream →
      stream.send.shutdownFlag = true → stream.send.isStopped = true
  | .streamLost frame => frame.length = 0 → frame.fin = true →
      ∀ stream, world.map.get frame.streamId = some stream →
        stream.send.shutdownFlag = true → stream.send.isStopped = true
  | _ => True

theorem Cut.marks {world : World} {op : Op} {id errorCode : Nat} {old : Stream} {send : SendBuf}
    (cause : Cut world op id errorCode old send) :
    (old.send.isStopped = true → send.isStopped = true) ∧
      (old.send.shutdownFlag = true → send.shutdownFlag = true) := by
  cases cause with
  | shutdown => exact ⟨fun stopped => stopped, fun _ => rfl⟩
  | stop => exact ⟨fun _ => rfl, fun shut => shut⟩

theorem Cut.mute {world : World} {op : Op} {id errorCode : Nat} {old : Stream} {send : SendBuf}
    (cause : Cut world op id errorCode old send) (allowed : KeepsSilence world op) :
    send.isStopped = true ∨ send.shutdownFlag = true ∧ ¬ world.map.Queued id := by
  cases cause with
  | stop => exact .inl rfl
  | shutdown found first =>
    cases stopped : old.send.isStopped with
    | true => exact .inl stopped
    | false => exact .inr ⟨rfl, allowed old found first stopped⟩

private theorem silent_step {world next : World} {op : Op} (valid : world.Valid)
    (silent : world.map.Silent world.silenced) (allowed : KeepsSilence world op)
    (effect : Effect world op next) : next.map.Silent next.silenced := by
  have later := valid.step effect
  cases effect with
  | still quiet calm => exact silent.quiet valid quiet calm.queue
  | @kept op after id old new held _ send _ _ queue =>
    obtain ⟨_, _, _, send⟩ := send
    refine silent.same valid (.held held) (later.streams.live id new held.get).send
      (by rw [send]) (by rw [send]) fun other queued => ?_
    exact (queue other queued).imp_right (And.imp_right .inl)
  | read _ _ _ touched _ send _ _ _ _ queue => exact silent.unsent valid touched send queue
  | @written id buf fin after old new send kept finKept count sends held _ wrote stored _ whole _ _
      _ _ queue =>
      obtain ⟨blockedAt, stored⟩ := stored
      obtain ⟨_, _, _, _, _, _, shutdownFlag, error⟩ := (valid.opened held.opened).send.write wrote
      refine silent.same valid (.held held) (later.streams.live id new held.get).send
        (by rw [stored]; exact error) (by rw [stored]; exact shutdownFlag) fun other queued => ?_
      refine (queue other queued).imp_right (And.imp_right (Or.imp_right ?_))
      exact fun ⟨empty, marked⟩ => allowed empty marked old
  | readShut _ held _ _ send _ _ _ _ queue => exact silent.unsent valid (.held held) send queue
  | @cut op id errorCode after old new cause sends held recv _ _ _ _ queue =>
    have kept : after.Silent world.silenced := by
      exact silent.touched valid (.held held) cause.marks.1 cause.marks.2
        fun other queued => .inl (queue other queued)
    refine kept.cons (later.spent id new held.get) fun stream found => ?_
    obtain rfl : new = stream := Option.some.inj (held.get.symm.trans found)
    exact (cause.mute allowed).imp_right (And.imp_right (mt (queue id)))
  | @stoppedAgain id errorCode after old held stopped calm =>
    refine (silent.unsent valid (.held held) rfl calm.queue).cons
      (later.spent id old held.get) fun stream found => .inl ?_
    obtain rfl : old = stream := Option.some.inj (held.get.symm.trans found)
    exact stopped
  | @stopIgnored id errorCode after missing spent quiet calm =>
    refine (silent.quiet valid quiet calm.queue).cons (quiet.spent valid.steady spent)
      fun stream found => ?_
    rw [quiet.get, missing] at found
    cases found
  | granted quiet _ _ _ _ queue => exact silent.quiet valid quiet queue
  | reset _ touched _ send _ _ _ _ _ _ queue => exact silent.unsent valid touched send queue
  | received held _ send _ _ _ _ _ queue => exact silent.unsent valid (.held held) send queue
  | @acked frame after old new sent found touched _ send _ calm =>
    obtain ⟨sound, ends, _⟩ := (valid.streams.live _ _ found).send.ackAndDrop
      fun running => valid.within _ _ found running _ sent rfl
    rw [← send] at sound ends
    exact silent.same valid touched sound ends.error ends.shutdownFlag
      fun other queued => .inl (calm.queue other queued)
  | ackIgnored _ _ => exact silent
  | resetAcked _ touched _ send calm => exact silent.unsent valid touched send calm.queue
  | resetAckIgnored _ => exact silent
  | @lost frame after old new sent found held _ send _ _ queue =>
    obtain ⟨sound, ends, _⟩ := (valid.streams.live _ _ found).send.retransmit
      fun running => valid.within _ _ found running _ sent rfl
    rw [← send] at sound ends
    refine silent.same valid (.held held) sound ends.error ends.shutdownFlag
      fun other queued => ?_
    refine (queue other queued).imp_right (And.imp_right (Or.imp_right ?_))
    exact fun ⟨empty, marked⟩ => allowed empty marked old
  | sent emits => exact (silent.emits valid emits).1
  | resetSent quiet calm => exact silent.quiet valid quiet calm.queue
  | advertised quiet _ _ _ _ queue => exact silent.quiet valid quiet queue
  | @destroyed id after stream found closing isServer streams _ control _ calm =>
    intro other member
    obtain ⟨spent, mute⟩ := silent other member
    refine ⟨?_, fun later present => ?_⟩
    · rw [Spent, control, isServer]
      exact spent
    · rw [StreamMap.get, streams, OrdMap.get?_erase] at present
      split at present
      · cases present
      · exact (mute later present).imp_right (And.imp_right (mt (calm.queue other)))

/-- No STREAM frame is written for a stream after its send side was shut down or stopped, in
every run in which streams are shut down outside the queue and stay there. -/
theorem no_stream_frame_after_reset (world : World) (reached : Reachable KeepsSilence world)
    (outLen : Nat) :
    ∃ frames after, world.map.tryWriteStreamFrames outLen = some (frames, after) ∧
      ∀ frame ∈ frames, frame.streamId ∉ world.silenced := by
  obtain ⟨valid, silent⟩ := reached.invariant (fun _ _ _ _ _ => by simp [Silent, World.new])
    fun valid silent allowed effect => silent_step valid silent allowed effect
  obtain ⟨frames, after, written⟩ := tryWriteStreamFrames_total valid outLen
  exact ⟨frames, after, written, (silent.emits valid (tryWriteStreamFrames_emits written)).2⟩

/-- A client sends all data of a stream, shuts the stream down and writes to another one. -/
theorem no_stream_frame_after_reset_uni :
    ∃ world frames after, Reachable KeepsSilence world ∧ 2 ∈ world.silenced ∧
      world.map.tryWriteStreamFrames 100 = some (frames, after) ∧
      frames ≠ [] ∧ ∀ frame ∈ frames, frame.streamId ∉ world.silenced := by
  let check : World → Op → Bool
    | world, .shutdownWrite id _ => world.map.sendable.entries.all fun entry =>
      id ∉ entry.2.nonIncremental ∧ id ∉ entry.2.incremental
    | _, .write _ buf _ => !buf.isEmpty
    | _, .streamLost _ => false
    | _, _ => true
  have executed : (exec (checked check step) (.new false 100 100 {} false)
      [.peerParams { initialMaxData := 30, initialMaxStreamDataUni := 20, initialMaxStreamsUni := 2 },
        .write 2 [1, 2, 3] false, .sendStreams 100, .shutdownWrite 2 7, .write 6 [4] false]).any
          (fun world => 2 ∈ world.silenced &&
            (world.map.tryWriteStreamFrames 100).any fun written => written.1 ≠ []) = true := by
    decide +kernel
  obtain ⟨world, run, found⟩ := (Option.any_eq_true _ _).mp executed
  obtain ⟨silenced, found⟩ := Bool.and_eq_true_iff.mp found
  obtain ⟨⟨frames, after⟩, written, filled⟩ := (Option.any_eq_true _ _).mp found
  have sound : ∀ state op, check state op = true → KeepsSilence state op := by
    intro state op passed
    cases op with
    | shutdownWrite id errorCode =>
      intro _ _ _ _
      rintro ⟨entry, member, inside⟩
      have apart := of_decide_eq_true (List.all_eq_true.mp passed entry member)
      exact inside.elim apart.1 apart.2
    | write id buf fin =>
      intro empty
      rw [empty] at passed
      cases passed
    | streamLost frame => cases passed
    | _ => trivial
  have reached : Reachable KeepsSilence world := ⟨_, _, _, _, _, .of_checked sound (.of_exec run)⟩
  obtain ⟨others, final, same, muted⟩ := no_stream_frame_after_reset world reached 100
  rw [written, Option.some.injEq, Prod.mk.injEq] at same
  obtain ⟨rfl, rfl⟩ := same
  exact ⟨world, frames, after, reached, of_decide_eq_true silenced, written,
    of_decide_eq_true filled, muted⟩

/-- A stream that is shut down while its data waits for sending still sends a FIN. -/
theorem stream_frame_after_reset :
    ∃ world after, Reachable anyStep world ∧ 2 ∈ world.silenced ∧
      world.map.tryWriteStreamFrames 100 = some ([⟨2, 0, 0, true⟩], after) := by
  have executed : (exec step (.new false 100 100 {} false)
      [.peerParams { initialMaxData := 30, initialMaxStreamDataUni := 20, initialMaxStreamsUni := 1 },
        .write 2 [1, 2, 3] false, .shutdownWrite 2 7]).any
          (fun world => 2 ∈ world.silenced &&
            (world.map.tryWriteStreamFrames 100).any fun written =>
              written.1 = [⟨2, 0, 0, true⟩]) = true := by
    decide +kernel
  obtain ⟨world, run, found⟩ := (Option.any_eq_true _ _).mp executed
  obtain ⟨silenced, found⟩ := Bool.and_eq_true_iff.mp found
  obtain ⟨⟨frames, after⟩, written, same⟩ := (Option.any_eq_true _ _).mp found
  have sent : frames = [⟨2, 0, 0, true⟩] := of_decide_eq_true same
  rw [sent] at written
  exact ⟨world, after, ⟨_, _, _, _, _, .of_exec run⟩, of_decide_eq_true silenced, written⟩

end World

end Tquic.Connection
