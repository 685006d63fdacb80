import Tquic.Connection.SendWakeups

/-! The entries of the queue of sendable streams. A stream is queued once, and for something to send,
unless an end without data is queued beside other data or an acknowledgement takes away what a stream
was queued for. -/

set_option autoImplicit false

namespace Tquic.Connection

open Lib

namespace SendBuf

section Idle

variable {send after : SendBuf} {stream : Bytes}

theorem Coherent.sendOff_idle (coherent : Coherent send stream) (idle : send.ready = false) :
    send.sendOff = send.writeOff := by
  have none : ∀ value, ¬ send.Pending value := fun value pending => by
    rw [coherent.ready_iff.mpr ⟨value, pending⟩] at idle
    cases idle
  rcases send.sendOff_cases with lost | ⟨same, _⟩
  · exact absurd (.inl lost) (none _)
  · by_contra different
    have := coherent.unsent
    exact none send.unsentOff (.inr ⟨le_refl _, by omega⟩)

/-- A buffer that was shut down keeps nothing to send again. -/
def Swept (send : SendBuf) : Prop :=
  send.error = none → send.shutdownFlag = true → ∀ value, value ∉ send.retransmits

theorem Sound.sendOff_idle (sound : send.Sound) (swept : send.Swept) (noError : send.error = none)
    (idle : send.ready = false) : send.sendOff = send.writeOff := by
  cases sound with
  | running stream _ coherent => exact coherent.sendOff_idle idle
  | truncated reset truncated =>
    have shut : send.shutdownFlag = true := by
      by_contra active
      exact reset ⟨by simpa using active, noError⟩
    rcases send.sendOff_cases with lost | ⟨same, _⟩
    · exact absurd lost (swept noError shut _)
    · exact same.trans truncated.unsentOff

theorem Sound.ready_running (sound : send.Sound) (ready : send.ready = true) :
    send.Running ∧ ∃ stream, Coherent send stream := by
  cases sound with
  | running stream running coherent => exact ⟨running, stream, coherent⟩
  | truncated _ truncated =>
    rw [SendBuf.ready, truncated.data] at ready
    cases ready

/-- A stream that is ready hands out at least one byte. -/
theorem Coherent.read_nonempty (coherent : Coherent send stream) (ready : send.ready = true)
    {outLen : Nat} (room : 0 < outLen) {bytes : Bytes} {fin : Bool}
    (handed : send.read outLen = some ((bytes, fin), after)) : 0 < bytes.length := by
  obtain ⟨fuel, rfl⟩ : ∃ fuel, outLen = fuel + 1 := ⟨outLen - 1, by omega⟩
  have pending : send.sendOff < send.writeOff := by
    rw [SendBuf.ready, Bool.and_eq_true, decide_eq_true_eq] at ready
    exact ready.2
  obtain ⟨polled, first, middle, taken, copied, nonempty, _, handedOut⟩ :=
    coherent.readRound [] room pending
  obtain ⟨rest, final, finished, _⟩ := @Coherent.readLoop fuel _ _ handedOut.coherent
    (fuel + 1 - first.length) (send.sendOff + first.length) ([] ++ first)
    handedOut.transmitted.le_sendOff (by omega)
  have continues : (fuel + 1 > 0 && send.ready && send.sendOff = send.sendOff &&
      send.sendOff < send.maxData) = true := by
    simp [ready, pending.trans_le coherent.credit]
  rw [SendBuf.read, SendBuf.readLoop, if_pos continues] at handed
  simp only [taken, Nat.add_sub_cancel_left, copied, finished] at handed
  cases handed
  rw [List.nil_append, List.length_append]
  omega

theorem Written.finOff_isSome {data : Bytes} {fin : Bool} {written : Nat}
    (spec : Written send after data fin written) (known : send.finOff.isSome = true) :
    after.finOff.isSome = true := by
  rw [spec.shape]
  dsimp only
  split_ifs
  · rfl
  · exact known

private theorem Sound.write_ready {data : Bytes} {fin : Bool} {written : Nat} (sound : send.Sound)
    (wrote : send.write data fin = .ok (written, after)) (ready : send.ready = true) :
    after.ready = true := by
  have spec := write_spec wrote
  obtain ⟨_, _, coherent⟩ := sound.ready_running ready
  obtain ⟨value, pending⟩ := coherent.ready_iff.mp ready
  exact (coherent.write spec).ready_iff.mpr
    ⟨value, (spec.pending coherent.unsent value).mpr (.inl pending)⟩

theorem Sound.data_empty (sound : send.Sound) (shut : send.shutdownFlag = true) : send.data = [] := by
  cases sound with
  | running _ running _ =>
    rw [running.1] at shut
    cases shut
  | truncated _ truncated => exact truncated.data

theorem retransmit_empty (empty : send.data = []) (off len : Nat) :
    send.retransmit off len = send := by
  rw [SendBuf.retransmit, empty]
  rfl

/-- A lost frame does not make a stream ready whose bytes in it are all acknowledged. -/
theorem Sound.retransmit_ready (sound : send.Sound) {off len : Nat}
    (within : send.Running → off + len ≤ send.unsentOff)
    (acked : send.Running → ∀ value, off ≤ value ∧ value < off + len → value ∈ send.acked) :
    (send.retransmit off len).ready = send.ready := by
  cases sound with
  | running stream running coherent =>
    obtain ⟨requeued, later⟩ := coherent.retransmit (within running)
    rw [Bool.eq_iff_iff, later.ready_iff, coherent.ready_iff]
    refine exists_congr fun value => (requeued.pending value).trans (or_iff_left ?_)
    exact fun lost => lost.2 (acked running value lost.1)
  | truncated _ truncated => rw [retransmit_empty truncated.data]

private theorem Sound.retransmit_keeps (sound : send.Sound) {off len : Nat}
    (within : send.Running → off + len ≤ send.unsentOff) (ready : send.ready = true) :
    (send.retransmit off len).ready = true := by
  obtain ⟨running, _, coherent⟩ := sound.ready_running ready
  obtain ⟨requeued, later⟩ := coherent.retransmit (within running)
  obtain ⟨value, pending⟩ := coherent.ready_iff.mp ready
  exact later.ready_iff.mpr ⟨value, (requeued.pending value).mpr (.inl pending)⟩

private theorem Sound.retransmit_swept (sound : send.Sound) (swept : send.Swept) {off len : Nat}
    (within : send.Running → off + len ≤ send.unsentOff) : (send.retransmit off len).Swept := by
  intro noError shut
  have ends := (sound.retransmit within).2.1
  rw [ends.error] at noError
  rw [ends.shutdownFlag] at shut
  rw [retransmit_empty (sound.data_empty shut)]
  exact swept noError shut

/-- What a queued stream hands out is data or the end. -/
theorem Sound.read_some (sound : send.Sound) (swept : send.Swept) (noError : send.error = none)
    (due : send.ready = true ∨ send.finOff.isSome = true) {outLen : Nat} (room : 0 < outLen)
    {bytes : Bytes} {fin : Bool} (handed : send.read outLen = some ((bytes, fin), after)) :
    0 < bytes.length ∨ fin = true := by
  by_cases ready : send.ready = true
  · obtain ⟨_, _, coherent⟩ := sound.ready_running ready
    exact .inl (coherent.read_nonempty ready room handed)
  · refine or_iff_not_imp_left.mpr fun empty => ?_
    obtain ⟨finOff, known⟩ := Option.isSome_iff_exists.mp (due.resolve_left ready)
    have reached := sound.sendOff_idle swept noError (Bool.eq_false_iff.mpr ready)
    obtain ⟨out, next, taken, _⟩ := sound.read outLen
    rw [taken] at handed
    cases handed
    rw [decide_eq_true_eq, known, sound.final known, reached]
    congr 1
    omega

end Idle

end SendBuf

namespace StreamMap

/-- What holds of the send side of a stream with `times` entries in the queue, given the frames that
were sent: an entry stands for data or for the end. -/
structure Neat (sent : List StreamFrame) (id times : Nat) (send : SendBuf) : Prop where
  due : send.error = none → 1 ≤ times → send.ready = true ∨ send.finOff.isSome = true
  swept : send.Swept
  ended : ∀ frame ∈ sent, frame.streamId = id → frame.fin = true → send.finOff.isSome = true

/-- The queue has one entry at most for a stream, and no stale one. -/
structure Orderly (map : StreamMap) (sent : List StreamFrame) : Prop where
  single : ∀ id, map.queuedTimes id ≤ 1
  spent : ∀ id, 1 ≤ map.queuedTimes id → map.Spent id
  streams : ∀ id stream, map.get id = some stream → Neat sent id (map.queuedTimes id) stream.send
  frames : ∀ frame ∈ sent, 0 < frame.length ∨ frame.fin = true

theorem Neat.fewer {sent : List StreamFrame} {id times less : Nat} {send : SendBuf}
    (neat : Neat sent id times send) (fewer : less ≤ times) : Neat sent id less send :=
  { neat with due := fun noError queued => neat.due noError (queued.trans fewer) }

/-- An acknowledgement may leave a stream in the queue that still has something to send. -/
theorem Neat.ack {send : SendBuf} {sent : List StreamFrame} {id times off len : Nat}
    (neat : Neat sent id times send) (sound : send.Sound)
    (within : send.Running → off + len ≤ send.unsentOff)
    (left : send.Running → 1 ≤ times → send.finOff.isSome = true ∨
      ∃ value, send.Pending value ∧ ¬ (off ≤ value ∧ value < off + len)) :
    Neat sent id times (send.ackAndDrop off len) := by
  obtain ⟨_, ends, _⟩ := sound.ackAndDrop within
  refine ⟨fun noError queued => ?_, fun noError shut => ?_, fun frame member own carries => ?_⟩
  · rw [ends.finOff]
    cases sound with
    | running stream running coherent =>
      refine (left running queued).elim .inr ?_
      rintro ⟨value, pending⟩
      obtain ⟨acknowledged, later⟩ := coherent.ackAndDrop (within running)
      exact .inl (later.ready_iff.mpr
        ⟨value, (acknowledged.pending (within running) value).mpr pending⟩)
    | truncated _ truncated =>
      rw [truncated.finOff]
      exact .inr rfl
  · rw [ends.shutdownFlag] at shut
    rw [SendBuf.ackAndDrop, sound.data_empty shut]
    exact fun value => RangeSet.not_mem_clear _ value
  · rw [ends.finOff]
    exact neat.ended frame member own carries

namespace Orderly

variable {map after : StreamMap} {sent frames : List StreamFrame} {id : Nat} {old new : Stream}

theorem opened (orderly : map.Orderly sent) (valid : map.Valid sent) (opened : map.Opened id old) :
    Neat sent id (map.queuedTimes id) old.send := by
  rcases opened with found | ⟨_, unused, fresh⟩
  · exact orderly.streams id old found
  · obtain ⟨_, _, _, rfl⟩ := fresh
    refine ⟨fun _ queued => absurd (orderly.spent id queued) unused, ?_, ?_⟩
    · exact fun _ _ value => RangeSet.not_mem_default value
    · exact fun frame member own _ => absurd (own ▸ valid.sentSpent frame member) unused

theorem quiet (orderly : map.Orderly sent) (valid : map.Valid sent) (quiet : Quiet map after)
    (fewer : ∀ other, after.queuedTimes other ≤ map.queuedTimes other) : after.Orderly sent where
  single other := (fewer other).trans (orderly.single other)
  spent other queued := quiet.spent valid.steady (orderly.spent other (queued.trans (fewer other)))
  streams other stream found := by
    rw [quiet.get] at found
    exact (orderly.streams other stream found).fewer (fewer other)
  frames := orderly.frames

theorem touched (orderly : map.Orderly sent) (valid : map.Valid sent)
    (touched : Touched map after id old new)
    (others : ∀ other, other ≠ id → after.queuedTimes other ≤ map.queuedTimes other)
    (single : after.queuedTimes id ≤ 1)
    (own : ∀ frame ∈ frames, frame.streamId = id ∧ (0 < frame.length ∨ frame.fin = true))
    (neat : Neat sent id (map.queuedTimes id) old.send →
      Neat (sent ++ frames) id (after.queuedTimes id) new.send) :
    after.Orderly (sent ++ frames) where
  single other := by
    by_cases same : other = id
    · rw [same]
      exact single
    · exact (others other same).trans (orderly.single other)
  spent other queued := by
    by_cases same : other = id
    · rw [same]
      exact touched.spent_self valid.steady (valid.spent id)
    · exact touched.spent valid.steady (orderly.spent other (queued.trans (others other same)))
  streams other stream found := by
    rcases touched.live found with ⟨rfl, rfl⟩ | ⟨apart, earlier⟩
    · exact neat (orderly.opened valid touched.opened)
    · have before := (orderly.streams other stream earlier).fewer (others other apart)
      refine { before with ended := fun frame member same => ?_ }
      rcases List.mem_append.mp member with former | fresh
      · exact before.ended frame former same
      · exact absurd (same.symm.trans (own frame fresh).1) apart
  frames frame member := by
    rcases List.mem_append.mp member with former | fresh
    · exact orderly.frames frame former
    · exact (own frame fresh).2

theorem changed (orderly : map.Orderly sent) (valid : map.Valid sent)
    (touched : Touched map after id old new)
    (others : ∀ other, other ≠ id → after.queuedTimes other ≤ map.queuedTimes other)
    (single : after.queuedTimes id ≤ 1) (neat : Neat sent id (map.queuedTimes id) old.send →
      Neat sent id (after.queuedTimes id) new.send) : after.Orderly sent := by
  have result : after.Orderly (sent ++ []) := by
    refine orderly.touched valid touched others single (by simp) ?_
    rwa [List.append_nil]
  rwa [List.append_nil] at result

theorem kept (orderly : map.Orderly sent) (valid : map.Valid sent)
    (touched : Touched map after id old new)
    (times : ∀ other, after.queuedTimes other = map.queuedTimes other)
    (neat : Neat sent id (map.queuedTimes id) old.send → Neat sent id (map.queuedTimes id) new.send) :
    after.Orderly sent := by
  refine orderly.changed valid touched (fun other _ => (times other).le) ?_ ?_
  · rw [times]
    exact orderly.single id
  · rw [times]
    exact neat

theorem frame {stream : Stream} {outLen : Nat} {bytes : Bytes} {fin : Bool} {send : SendBuf}
    (orderly : map.Orderly sent) (valid : map.Valid sent) (found : map.get id = some stream)
    (active : stream.send.error = none) (queued : 1 ≤ map.queuedTimes id) (room : 0 < outLen)
    (handed : stream.send.read outLen = some ((bytes, fin), send))
    (held : Held map after id stream { stream with send })
    (kept : send.ready = true → ∀ other, after.queuedTimes other = map.queuedTimes other)
    (removed : send.ready = false → ∀ other,
      after.queuedTimes other + [id].count other = map.queuedTimes other) :
    after.Orderly (sent ++ [⟨id, stream.send.sendOff, bytes.length, fin⟩]) := by
  have sound := (valid.streams.live id stream found).send
  have neat := orderly.streams id stream found
  have good := sound.read_some neat.swept active (neat.due active queued) room handed
  obtain ⟨_, _, ends, _, flagged, _⟩ := valid.frame found handed
  have fewer : ∀ other, after.queuedTimes other ≤ map.queuedTimes other := by
    intro other
    cases left : send.ready with
    | true => exact (kept left other).le
    | false =>
      have := removed left other
      omega
  refine orderly.touched valid (.held held) (fun other _ => fewer other)
    ((fewer id).trans (orderly.single id)) ?_ fun before => ⟨?_, ?_, ?_⟩
  · intro frame only
    rw [List.mem_singleton.mp only]
    exact ⟨rfl, good⟩
  · intro _ still
    refine .inl ?_
    by_contra idle
    have gone := removed (Bool.eq_false_iff.mpr idle) id
    have once := orderly.single id
    rw [List.count_singleton_self] at gone
    omega
  · intro noError shut
    rw [SendBuf.read_empty (sound.data_empty (ends.shutdownFlag.symm.trans shut))] at handed
    cases handed
    exact before.swept noError shut
  · intro frame member own carries
    rw [ends.finOff]
    rcases List.mem_append.mp member with former | fresh
    · exact before.ended frame former own carries
    · rw [List.mem_singleton.mp fresh] at carries
      dsimp only at carries
      rw [carries, eq_comm, decide_eq_true_eq] at flagged
      rw [flagged]
      rfl

end Orderly

private theorem writeStreamFrames_orderly {fuel cap : Nat} {map after : StreamMap}
    {sent frames : List StreamFrame} (orderly : map.Orderly sent) (valid : map.Valid sent)
    (room : maxStreamOverhead < cap)
    (written : writeStreamFrames fuel map cap = some (frames, after)) :
    after.Orderly (sent ++ frames) := by
  induction fuel generalizing map cap frames sent with
  | zero => simp [writeStreamFrames] at written
  | succ fuel ih =>
    obtain ⟨times, popped⟩ := queuedTimes_peekSendable map
    have peeked := (peekSendable_requeue map).1.quiet
    have looked : map.peekSendable.2.Orderly sent :=
      orderly.quiet valid peeked fun other => (times other).le
    rcases writeStreamFrames_cases written with ⟨found, rfl⟩ | ⟨id, middle, found, round⟩
    · rw [found] at looked
      rw [List.append_nil]
      exact looked
    · simp only [found, Option.some.injEq, forall_eq'] at popped times looked peeked
      have middleValid := valid.quiet peeked
      rcases round with ⟨_, rest⟩ |
        ⟨stream, bytes, fin, send, next, later, present, running, handed, drained, rfl, ends⟩
      · have removed := (removeSendable_requeue middle).quiet
        refine ih (looked.quiet middleValid removed fun other => ?_) (middleValid.quiet removed) room
          rest
        have fewer := popped other
        rw [times other]
        omega
      · have held := (middleValid.frame present handed).2.1
        obtain ⟨quiet, kept, fewer⟩ := drained_spec found drained
        have active : stream.send.error = none := by simpa [SendBuf.isStopped] using running
        have fits := streamHeaderWireLen_le id stream.send.sendOff
        have looked := looked.frame middleValid present active (queuedTimes_peeked found) (by omega)
          handed (held.quiet quiet) kept fewer
        have valid := (middleValid.frame present handed).1.quiet quiet
        rw [List.append_cons]
        rcases ends with ⟨rfl, rfl⟩ | ⟨left, rest⟩
        · rw [List.append_nil]
          exact looked
        · exact ih looked valid left rest

end StreamMap

/-! ## Runs -/

namespace World

open StreamMap

/-- No entry is added beside another, and none becomes stale: an end without data is not written or
lost while the stream is queued for the end alone, nor is data lost then; an acknowledgement leaves a
queued stream something to send; and no data waits to be sent again on a stream that is shut down. -/
def Single (world : World) : Op → Prop
  | .write id buf fin => buf = [] → fin = true → ∀ stream, world.map.get id = some stream →
      stream.send.error = none → 1 ≤ world.map.queuedTimes id → stream.send.ready = true
  | .streamLost frame => ∀ stream, world.map.get frame.streamId = some stream →
      1 ≤ world.map.queuedTimes frame.streamId → stream.send.ready = true ∨
        (frame.length = 0 → frame.fin = false) ∧ (stream.send.Running → ∀ value,
          frame.offset ≤ value ∧ value < frame.offset + frame.length → value ∈ stream.send.acked)
  | .streamAcked frame => ∀ stream, world.map.get frame.streamId = some stream →
      stream.send.Running → 1 ≤ world.map.queuedTimes frame.streamId →
        stream.send.finOff.isSome = true ∨ ∃ value, stream.send.Pending value ∧
          ¬ (frame.offset ≤ value ∧ value < frame.offset + frame.length)
  | .shutdownWrite id _ => ∀ stream, world.map.get id = some stream → stream.send.Running →
      ∀ value, value ∉ stream.send.retransmits
  | _ => True

variable {world next : World}

/-- A write adds no second entry for its stream. -/
theorem orderly_write {id : Nat} {buf : Bytes} {fin : Bool} (orderly : world.map.Orderly world.sent)
    (valid : world.Valid) (allowed : Single world (.write id buf fin))
    (stepped : world.step (.write id buf fin) = some next) : next.map.Orderly next.sent := by
  cases stepped
  have cases := streamWrite_cases world.map id buf fin
  dsimp only
  generalize world.map.streamWrite id buf fin = result at cases
  obtain ⟨outcome, after⟩ := result
  dsimp only at cases ⊢
  cases cases with
  | refused sendable kept =>
    have times := queuedTimes_of_sendable sendable
    rcases kept with quiet | ⟨old, new, held, same⟩
    · exact orderly.quiet valid quiet fun other => (times other).le
    · refine orderly.kept valid (.held held) times fun neat => ?_
      rw [same]
      exact neat
  | @stored old new send kept finKept count _ held wrote same cut whole times =>
    obtain ⟨blockedAt, same⟩ := same
    have sound := (valid.opened held.opened).send
    have spec := SendBuf.write_spec wrote
    have sendable : new.isSendable = send.ready := by
      rw [Stream.isSendable, same]
      rfl
    rw [sendable] at times
    have alone : ((send.ready || (kept.length = 0 && finKept)) && !old.isSendable) = true →
        world.map.queuedTimes id = 0 := by
      intro pushed
      by_contra some'
      have queued : 1 ≤ world.map.queuedTimes id := by omega
      have idle : old.send.ready = false := by
        rw [← Bool.not_eq_true']
        exact (Bool.and_eq_true_iff.mp pushed).2
      have found := held.opened.resolve_right fun fresh => fresh.2.1 (orderly.spent id queued)
      have due := (orderly.streams id old found).due spec.noError queued
      obtain ⟨finOff, known⟩ := Option.isSome_iff_exists.mp (due.resolve_left (by simp [idle]))
      have reached := sound.final known
      obtain ⟨within, flagged⟩ := spec.final finOff known
      have carries := (flagged (by omega)).1
      rcases cut with ⟨rfl, rfl⟩ | ⟨without, _⟩
      · have empty : kept = [] := List.length_eq_zero_iff.mp (by omega)
        rw [allowed empty carries old found spec.noError queued] at idle
        cases idle
      · rw [carries] at without
        cases without
    refine orderly.changed valid (.held held) (fun other apart => ?_) ?_ fun neat => ?_
    · rw [times other, if_neg fun both => apart both.1, Nat.add_zero]
    · have once := orderly.single id
      rw [times id]
      split_ifs with pushed
      · rw [alone pushed.2]
      · exact once
    · rw [same]
      refine ⟨fun noError queued => ?_, fun noError shut => ?_, fun frame member own carries => ?_⟩
      · change send.ready = true ∨ send.finOff.isSome = true
        rw [times id] at queued
        by_cases pushed : ((send.ready || (kept.length = 0 && finKept)) && !old.isSendable) = true
        · refine ((Bool.or_eq_true _ _).mp (Bool.and_eq_true_iff.mp pushed).1).imp_right ?_
          intro ended
          simp only [Bool.and_eq_true, decide_eq_true_eq] at ended
          rw [spec.shape]
          dsimp only
          rw [if_pos ⟨ended.2, by omega⟩]
          rfl
        · rw [if_neg fun both => pushed both.2, Nat.add_zero] at queued
          exact (neat.due spec.noError queued).imp (sound.write_ready wrote) spec.finOff_isSome
      · change ∀ value, value ∉ send.retransmits
        rw [spec.shape] at shut ⊢
        exact neat.swept spec.noError shut
      · exact spec.finOff_isSome (neat.ended frame member own carries)

private theorem orderly_lost {frame : StreamFrame} (orderly : world.map.Orderly world.sent)
    (valid : world.Valid) (allowed : Single world (.streamLost frame))
    (stepped : world.step (.streamLost frame) = some next) : next.map.Orderly next.sent := by
  obtain ⟨sent, moved⟩ := Option.ite_none_right_eq_some.mp stepped
  cases moved
  dsimp only
  cases found : world.map.get frame.streamId with
  | none =>
    have same : world.map.onStreamFrameLost frame.streamId frame.offset frame.length
        frame.fin = world.map := by
      unfold onStreamFrameLost
      rw [found]
    rw [same]
    exact orderly
  | some stream =>
    obtain ⟨held, times⟩ := onStreamFrameLost_held found frame.offset frame.length frame.fin
    have sound := (valid.streams.live _ stream found).send
    have within := fun running => valid.within _ stream found running frame sent rfl
    obtain ⟨_, ends, _⟩ := sound.retransmit within
    have before := orderly.streams _ stream found
    have alone : (((stream.send.retransmit frame.offset frame.length).ready ||
        (frame.length = 0 && frame.fin)) && !stream.send.ready) = true →
        world.map.queuedTimes frame.streamId = 0 := by
      intro pushed
      by_contra some'
      obtain ⟨woken, idle⟩ := Bool.and_eq_true_iff.mp pushed
      rw [Bool.not_eq_true'] at idle
      obtain ⟨noEnd, acked⟩ := (allowed stream found (by omega)).resolve_left (by simp [idle])
      rcases (Bool.or_eq_true _ _).mp woken with ready | ended
      · rw [sound.retransmit_ready within acked, idle] at ready
        cases ready
      · simp only [Bool.and_eq_true, decide_eq_true_eq] at ended
        rw [noEnd ended.1] at ended
        exact nomatch ended.2
    refine orderly.changed valid (.held held) (fun other apart => ?_) ?_ fun neat => ?_
    · rw [times other, if_neg fun both => apart both.1, Nat.add_zero]
    · have once := orderly.single frame.streamId
      rw [times]
      split_ifs with pushed
      · rw [alone pushed.2]
      · exact once
    · refine ⟨fun noError queued => ?_, sound.retransmit_swept neat.swept within,
        fun other member own carries => ?_⟩
      · rw [times] at queued
        dsimp only
        rw [ends.finOff]
        by_cases pushed : (((stream.send.retransmit frame.offset frame.length).ready ||
            (frame.length = 0 && frame.fin)) && !stream.send.ready) = true
        · rcases (Bool.or_eq_true _ _).mp (Bool.and_eq_true_iff.mp pushed).1 with ready | ended
          · exact .inl ready
          · simp only [Bool.and_eq_true, decide_eq_true_eq] at ended
            exact .inr (neat.ended frame sent rfl ended.2)
        · rw [if_neg fun both => pushed both.2, Nat.add_zero] at queued
          exact (neat.due (ends.error.symm.trans noError) queued).imp_left
            (sound.retransmit_keeps within)
      · dsimp only
        rw [ends.finOff]
        exact neat.ended other member own carries

theorem Cut.neat {op : Op} {id errorCode times : Nat} {old : Stream} {send : SendBuf}
    {sent : List StreamFrame} (cause : Cut world op id errorCode old send)
    (allowed : Single world op) : Neat sent id times send := by
  cases cause with
  | shutdown found first =>
    refine ⟨fun _ _ => .inr rfl, fun noError _ => ?_, fun _ _ _ _ => rfl⟩
    exact allowed old found ⟨first, noError⟩
  | stop first =>
    refine ⟨fun _ _ => .inr rfl, fun noError => ?_, fun _ _ _ _ => rfl⟩
    exact nomatch noError

/-- Steps that leave the queue alone. -/
theorem orderly_effect {op : Op} (orderly : world.map.Orderly world.sent) (valid : world.Valid)
    (allowed : Single world op) (idle : ¬ TouchesQueue op) (effect : Effect world op next)
    (times : ∀ other, next.map.queuedTimes other = world.map.queuedTimes other) :
    next.map.Orderly next.sent := by
  have quiet {after : StreamMap} (quiet : Quiet world.map after)
      (same : ∀ other, after.queuedTimes other = world.map.queuedTimes other) :
      after.Orderly world.sent :=
    orderly.quiet valid quiet fun other => (same other).le
  have unsent {after : StreamMap} {id : Nat} {old new : Stream}
      (touched : Touched world.map after id old new) (send : new.send = old.send)
      (same : ∀ other, after.queuedTimes other = world.map.queuedTimes other) :
      after.Orderly world.sent :=
    orderly.kept valid touched same fun neat => send ▸ neat
  cases effect with
  | still still _ => exact quiet still times
  | kept held _ send _ _ _ =>
    obtain ⟨maxData, blockedAt, _, same⟩ := send
    refine orderly.kept valid (.held held) times fun neat => ?_
    rw [same]
    exact ⟨neat.due, neat.swept, neat.ended⟩
  | read _ _ _ touched _ send _ _ _ _ _ => exact unsent touched send times
  | readShut _ held _ _ send _ _ _ _ _ => exact unsent (.held held) send times
  | cut cause _ held _ _ _ _ _ _ =>
    exact orderly.kept valid (.held held) times fun _ => cause.neat allowed
  | stoppedAgain held _ _ => exact unsent (.held held) rfl times
  | stopIgnored _ _ still _ => exact quiet still times
  | granted still _ _ _ _ _ => exact quiet still times
  | reset _ touched _ send _ _ _ _ _ _ _ => exact unsent touched send times
  | received held _ send _ _ _ _ _ _ => exact unsent (.held held) send times
  | @acked frame after old new sent found touched _ send _ _ =>
    refine orderly.kept valid touched times fun neat => ?_
    rw [send]
    exact neat.ack (valid.streams.live _ old found).send
      (fun running => valid.within _ old found running frame sent rfl) (allowed old found)
  | ackIgnored _ _ => exact orderly
  | resetAcked _ touched _ send _ => exact unsent touched send times
  | resetAckIgnored _ => exact orderly
  | resetSent still _ => exact quiet still times
  | advertised still _ _ _ _ _ => exact quiet still times
  | @destroyed id after stream found closing isServer streams _ control _ _ =>
    refine ⟨fun other => ?_, fun other queued => ?_, fun other stream present => ?_, orderly.frames⟩
    · rw [times other]
      exact orderly.single other
    · rw [times other] at queued
      rw [Spent, control, isServer]
      exact orderly.spent other queued
    · rw [times other]
      rw [StreamMap.get, streams, OrdMap.get?_erase] at present
      split at present
      · cases present
      · exact orderly.streams other stream present
  | written | lost | sent => exact absurd trivial idle

theorem orderly_step {op : Op} (orderly : world.map.Orderly world.sent) (valid : world.Valid)
    (allowed : Single world op) (stepped : world.step op = some next) :
    next.map.Orderly next.sent := by
  by_cases touches : TouchesQueue op
  · cases op with
    | write id buf fin => exact orderly_write orderly valid allowed stepped
    | streamLost frame => exact orderly_lost orderly valid allowed stepped
    | sendStreams outLen =>
      obtain ⟨⟨frames, map⟩, wrote, same⟩ := Option.map_eq_some_iff.mp stepped
      cases same
      dsimp only
      unfold tryWriteStreamFrames at wrote
      split at wrote
      · cases wrote
        rw [List.append_nil]
        exact orderly
      · rename_i roomy
        exact writeStreamFrames_orderly orderly valid (Nat.lt_of_not_le roomy) wrote
    | _ => cases touches
  · exact orderly_effect orderly valid allowed touches (step_effect world stepped)
      (queuedTimes_of_sendable ((step_moved stepped).sendable touches))

private theorem orderly_new (isServer : Bool) (maxConnectionWindow maxStreamWindow : Nat)
    (localParams : StreamTransportParams) (eventsEnabled : Bool) :
    (World.new isServer maxConnectionWindow maxStreamWindow localParams
      eventsEnabled).map.Orderly [] where
  single _ := Nat.zero_le _
  spent _ queued := absurd queued (Nat.not_succ_le_zero 0)
  streams _ _ found := by cases found
  frames _ member := nomatch member

/-- While no step adds an entry beside another or makes one stale, a stream stands in the queue once at
most, and every STREAM frame that is sent carries data or the FIN. -/
theorem queue_entries_single {isServer eventsEnabled : Bool} {maxConnectionWindow maxStreamWindow : Nat}
    {localParams : StreamTransportParams} {world : World} (run : Run step Single
      (.new isServer maxConnectionWindow maxStreamWindow localParams eventsEnabled) world) :
    (∀ id, world.map.queuedTimes id ≤ 1) ∧
      ∀ frame ∈ world.sent, 0 < frame.length ∨ frame.fin = true := by
  have holds : world.map.Orderly world.sent ∧ world.Valid := by
    refine @Run.invariant _ _ _ _ (fun world => world.map.Orderly world.sent ∧ world.Valid) ?_ _ _ run
      ⟨orderly_new _ _ _ _ _, StreamMap.Valid.new _ _ _ _ _⟩
    intro before op after holds allowed stepped
    exact ⟨orderly_step holds.1 holds.2 allowed stepped, holds.2.step (step_effect before stepped)⟩
  exact ⟨holds.1.single, holds.1.frames⟩

/-- The end of the stream comes with its last data, and everything is sent again once it is lost. -/
theorem queue_entries_single_uni :
    ∃ world, Run step Single (.new false 100 100 {} false) world ∧
      world.sent = [⟨2, 0, 2, true⟩, ⟨2, 0, 2, true⟩] ∧ world.map.queuedTimes 2 ≤ 1 ∧
        ∀ frame ∈ world.sent, 0 < frame.length ∨ frame.fin = true := by
  let check : World → Op → Bool
    | _, .write _ buf _ => !buf.isEmpty
    | world, .streamLost frame => world.map.queuedTimes frame.streamId = 0
    | _, .streamAcked _ => false
    | _, .shutdownWrite _ _ => false
    | _, _ => true
  have executed : (exec (checked check step) (.new false 100 100 {} false)
      [.peerParams { initialMaxData := 30, initialMaxStreamDataUni := 20, initialMaxStreamsUni := 1 },
        .write 2 [1, 2] true, .sendStreams 100, .streamLost ⟨2, 0, 2, true⟩,
        .sendStreams 100]).any (fun world =>
          world.sent = [⟨2, 0, 2, true⟩, ⟨2, 0, 2, true⟩]) = true := by
    decide +kernel
  obtain ⟨world, steps, same⟩ := (Option.any_eq_true _ _).mp executed
  have sound : ∀ world op, check world op = true → Single world op := by
    intro world op passed
    cases op with
    | write id buf fin =>
      rintro rfl
      cases passed
    | streamLost frame =>
      intro stream _ queued
      have : world.map.queuedTimes frame.streamId = 0 := of_decide_eq_true passed
      omega
    | streamAcked _ => cases passed
    | shutdownWrite _ _ => cases passed
    | _ => trivial
  have run : Run step Single (.new false 100 100 {} false) world :=
    .of_checked sound (.of_exec steps)
  have neat := queue_entries_single run
  exact ⟨world, run, of_decide_eq_true same, neat.1 2, neat.2⟩

/-- An acknowledgement that comes after the loss leaves a stale entry: the next write queues the stream
again, and without that write an empty frame without the FIN is sent. -/
theorem stale_entry :
    ¬ (∀ world, Run step anyStep (.new false 100 100 {} false) world →
      ∀ id, world.map.queuedTimes id ≤ 1) ∧
    ¬ ∀ world, Run step anyStep (.new false 100 100 {} false) world →
      ∀ frame ∈ world.sent, 0 < frame.length ∨ frame.fin = true := by
  have twice : (exec step (.new false 100 100 {} false)
      [.peerParams { initialMaxData := 30, initialMaxStreamDataUni := 20, initialMaxStreamsUni := 1 },
        .write 2 [1, 2] false, .sendStreams 100, .streamLost ⟨2, 0, 2, false⟩,
        .streamAcked ⟨2, 0, 2, false⟩, .write 2 [3] false]).any (fun world =>
          world.map.queuedTimes 2 = 2) = true := by
    decide +kernel
  have hollow : (exec step (.new false 100 100 {} false)
      [.peerParams { initialMaxData := 30, initialMaxStreamDataUni := 20, initialMaxStreamsUni := 1 },
        .write 2 [1, 2] false, .sendStreams 100, .streamLost ⟨2, 0, 2, false⟩,
        .streamAcked ⟨2, 0, 2, false⟩, .sendStreams 100]).any (fun world =>
          world.sent = [⟨2, 0, 2, false⟩, ⟨2, 2, 0, false⟩]) = true := by
    decide +kernel
  constructor
  · intro single
    obtain ⟨world, steps, same⟩ := (Option.any_eq_true _ _).mp twice
    have queued : world.map.queuedTimes 2 = 2 := of_decide_eq_true same
    have := single world (.of_exec steps) 2
    omega
  · intro carry
    obtain ⟨world, steps, same⟩ := (Option.any_eq_true _ _).mp hollow
    have sent : world.sent = [⟨2, 0, 2, false⟩, ⟨2, 2, 0, false⟩] := of_decide_eq_true same
    have carries := carry world (.of_exec steps) ⟨2, 2, 0, false⟩ (by rw [sent]; decide)
    exact absurd carries (by decide)

end World

end Tquic.Connection
