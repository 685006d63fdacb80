import Tquic.Connection.StreamRun

/-! What a step of a run can do, said once: `Effect` lists the kinds of steps with the
stream that is touched, the counters of the connection and the queue of sendable
streams. Results about runs are proved from this list. -/

set_option autoImplicit false

namespace Tquic.Connection

open Lib

namespace StreamMap

structure SameFlow (before after : StreamMap) : Prop where
  readOff : after.flowControl.readOff = before.flowControl.readOff
  recvOff : after.flowControl.recvOff = before.flowControl.recvOff
  maxData : after.flowControl.maxData = before.flowControl.maxData

structure SameCredit (before after : StreamMap) : Prop where
  maxData : after.sendCapacity.maxData = before.sendCapacity.maxData
  txData : after.sendCapacity.txData = before.sendCapacity.txData
  capacity : after.sendCapacity.capacity = before.sendCapacity.capacity

def NoneQueued (before after : StreamMap) : Prop := ∀ id, after.Queued id → before.Queued id

/-- Neither the counters nor the queue have changed. -/
structure Calm (before after : StreamMap) : Prop where
  flow : SameFlow before after
  credit : SameCredit before after
  queue : NoneQueued before after

variable {before after : StreamMap}

theorem SameFlow.of_eq (same : after.flowControl = before.flowControl) : SameFlow before after :=
  ⟨by rw [same], by rw [same], by rw [same]⟩

theorem SameCredit.of_eq
    (same : after.sendCapacity = before.sendCapacity) : SameCredit before after :=
  ⟨by rw [same], by rw [same], by rw [same]⟩

theorem NoneQueued.of_eq (same : after.sendable = before.sendable) : NoneQueued before after := by
  intro id queued
  rw [Queued, same] at queued
  exact queued

theorem SameRest.calm (rest : SameRest before after) : Calm before after :=
  ⟨.of_eq rest.flowControl, .of_eq rest.sendCapacity, .of_eq rest.sendable⟩

theorem Calm.trans {first second third : StreamMap} (former : Calm first second)
    (latter : Calm second third) : Calm first third where
  flow := ⟨latter.flow.1.trans former.flow.1, latter.flow.2.trans former.flow.2,
    latter.flow.3.trans former.flow.3⟩
  credit := ⟨latter.credit.1.trans former.credit.1, latter.credit.2.trans former.credit.2,
    latter.credit.3.trans former.credit.3⟩
  queue id queued := former.queue id (latter.queue id queued)

/-! ## The queue -/

theorem pushSendable_quiet (map : StreamMap) (id urgency : Nat) (incremental : Bool) :
    Quiet map (map.pushSendable id urgency incremental) :=
  ⟨rfl, rfl, rfl, .refl _, fun _ closing => closing⟩

/-- Only the pushed stream is new in the queue. -/
theorem pushSendable_queued {map : StreamMap} {id urgency other : Nat} {incremental : Bool}
    (queued : (map.pushSendable id urgency incremental).Queued other) :
    map.Queued other ∨ other = id := by
  obtain ⟨entry, member, inside⟩ := queued
  simp only [pushSendable, OrdMap.mem_insert] at member
  rcases member with rfl | ⟨member, _⟩
  · -- What the level held before is queued still.
    cases level : map.sendable.get? urgency with
    | none =>
      rw [level] at inside
      cases incremental <;> simp_all
    | some queue =>
      rw [level] at inside
      have present := OrdMap.get?_eq_some_iff.mp level
      cases incremental with
      | false =>
        simp only [Option.getD_some, Bool.false_eq_true, if_false, List.mem_orderedInsert]
          at inside
        rcases inside with (same | before) | before
        · exact .inr same
        · exact .inl ⟨_, present, .inl before⟩
        · exact .inl ⟨_, present, .inr before⟩
      | true =>
        simp only [Option.getD_some, if_true, List.mem_append, List.mem_singleton] at inside
        rcases inside with before | before | same
        · exact .inl ⟨_, present, .inl before⟩
        · exact .inl ⟨_, present, .inr before⟩
        · exact .inr same
  · exact .inl ⟨entry, member, inside⟩

/-- A change of the queue alone that queues nothing new. -/
structure Requeue (before after : StreamMap) : Prop where
  quiet : Quiet before after
  flowControl : after.flowControl = before.flowControl
  sendCapacity : after.sendCapacity = before.sendCapacity
  queue : NoneQueued before after

theorem Requeue.calm (requeue : Requeue before after) : Calm before after :=
  ⟨.of_eq requeue.flowControl, .of_eq requeue.sendCapacity, requeue.queue⟩

theorem Requeue.of_sendable (map : StreamMap) (sendable : OrdMap Nat StreamPriorityQueue)
    (queue : NoneQueued map { map with sendable }) : Requeue map { map with sendable } :=
  ⟨⟨rfl, rfl, rfl, .refl _, fun _ closing => closing⟩, rfl, rfl, queue⟩

theorem Requeue.of_level {map : StreamMap} {urgency : Nat} {queue : StreamPriorityQueue}
    (member : (urgency, queue) ∈ map.sendable) {next : StreamPriorityQueue}
    (fewer : ∀ id, id ∈ next.nonIncremental ∨ id ∈ next.incremental →
      id ∈ queue.nonIncremental ∨ id ∈ queue.incremental) :
    Requeue map { map with sendable := map.sendable.insert urgency next } := by
  apply Requeue.of_sendable
  rintro other ⟨entry, present, inside⟩
  rcases OrdMap.mem_insert.mp present with rfl | ⟨present, _⟩
  · exact ⟨_, member, fewer other inside⟩
  · exact ⟨entry, present, inside⟩

theorem Requeue.of_erase (map : StreamMap) (urgency : Nat) :
    Requeue map { map with sendable := map.sendable.erase urgency } := by
  apply Requeue.of_sendable
  rintro other ⟨entry, present, inside⟩
  exact ⟨entry, (OrdMap.mem_erase.mp present).1, inside⟩

theorem Requeue.refl (map : StreamMap) : Requeue map map :=
  .of_sendable map map.sendable fun _ queued => queued

theorem peekSendable_requeue (map : StreamMap) :
    Requeue map map.peekSendable.2 ∧
      ∀ id, map.peekSendable.1 = some id → map.peekSendable.2.Queued id := by
  rw [peekSendable]
  cases found : map.sendable.first? with
  | none => exact ⟨.refl map, by simp⟩
  | some entry =>
    obtain ⟨urgency, queue⟩ := entry
    have member := OrdMap.first?_mem found
    cases nonIncremental : queue.nonIncremental with
    | cons id rest =>
      simp only [nonIncremental, Option.some.injEq, forall_eq']
      exact ⟨.refl map, _, member, .inl (by simp [nonIncremental])⟩
    | nil =>
      cases incremental : queue.incremental with
      | nil =>
        simp only [nonIncremental, incremental]
        exact ⟨.refl map, by simp⟩
      | cons id rest =>
        simp only [nonIncremental, incremental, Option.some.injEq, forall_eq']
        refine ⟨.of_level member ?_, _, OrdMap.mem_insert.mpr (.inl rfl), .inr (by simp)⟩
        intro other inside
        simp only [nonIncremental, incremental, List.mem_append, List.mem_cons] at inside ⊢
        tauto

theorem removeSendable_requeue (map : StreamMap) : Requeue map map.removeSendable := by
  rw [removeSendable]
  cases found : map.sendable.first? with
  | none => exact .refl map
  | some entry =>
    obtain ⟨urgency, queue⟩ := entry
    have member := OrdMap.first?_mem found
    cases shape : queue.nonIncremental with
    | nil =>
      simp only [shape]
      split
      · exact .of_erase map urgency
      · refine .of_level member ?_
        intro other inside
        exact inside.imp (by simp [shape]) List.mem_of_mem_dropLast
    | cons first rest =>
      simp only [shape]
      split
      · exact .of_erase map urgency
      · refine .of_level member ?_
        intro other inside
        rw [shape]
        exact inside.imp_left (List.mem_cons_of_mem _)

/-! ## Writing STREAM frames -/

/-- The rounds of the loop that writes STREAM frames: a queued stream that may send hands
out a frame, and entries of the queue move or disappear. -/
inductive Emits : StreamMap → List StreamFrame → StreamMap → Prop where
  | done {map} : Emits map [] map
  | requeue {before middle after frames} (requeue : Requeue before middle)
      (rest : Emits middle frames after) : Emits before frames after
  | frame {before after frames id stream outLen bytes fin send} (queued : before.Queued id)
      (found : before.get id = some stream) (running : stream.send.isStopped = false)
      (handed : stream.send.read outLen = some ((bytes, fin), send))
      (rest : Emits (before.setStream id { stream with send }) frames after) :
      Emits before (⟨id, stream.send.sendOff, bytes.length, fin⟩ :: frames) after

variable {frames : List StreamFrame}

theorem Emits.calm (emits : Emits before frames after) : Calm before after := by
  induction emits with
  | done => exact (SameRest.refl _).calm
  | requeue requeue _ ih => exact requeue.calm.trans ih
  | frame _ _ _ _ _ ih => exact (setStream_rest _ _ _).calm.trans ih

private theorem writeStreamFrames_emits {fuel cap : Nat} {map after : StreamMap}
    (written : writeStreamFrames fuel map cap = some (frames, after)) : Emits map frames after := by
  induction fuel generalizing map cap frames with
  | zero => simp [writeStreamFrames] at written
  | succ fuel ih =>
    obtain ⟨peeked, queued⟩ := peekSendable_requeue map
    rcases writeStreamFrames_cases written with ⟨looked, rfl⟩ | ⟨id, middle, looked, round⟩
    · rw [looked] at peeked
      exact .requeue peeked .done
    · rw [looked] at peeked queued
      apply Emits.requeue peeked
      rcases round with ⟨_, rest⟩ |
        ⟨stream, bytes, fin, send, next, later, found, running, handed, drained, rfl, ends⟩
      · exact .requeue (removeSendable_requeue middle) (ih rest)
      · have requeued : Requeue (middle.setStream id { stream with send }) next := by
          rw [← drained]
          split
          · exact removeSendable_requeue _
          · exact .refl _
        refine .frame (queued id rfl) found running handed (.requeue requeued ?_)
        rcases ends with ⟨rfl, rfl⟩ | ⟨_, rest⟩
        · exact .done
        · exact ih rest

theorem tryWriteStreamFrames_emits {map after : StreamMap} {outLen : Nat}
    (written : map.tryWriteStreamFrames outLen = some (frames, after)) :
    Emits map frames after := by
  rw [tryWriteStreamFrames] at written
  split at written
  · cases written
    exact .done
  · exact writeStreamFrames_emits written

end StreamMap

/-! ## Kinds of steps -/

namespace World

open StreamMap

def readLen : Except Error (Bytes × Bool) → Nat
  | .ok (bytes, _) => bytes.length
  | .error _ => 0

/-- The stream is closed only if it is complete and the application has seen everything. -/
def Finished (old new : Stream) : Prop :=
  new.closed = true → old.closed = true ∨ new.isComplete = true ∧ new.isReadable = false

inductive Cut (world : World) : Op → Nat → Nat → Stream → SendBuf → Prop where
  | shutdown {id errorCode old} (found : world.map.get id = some old)
      (first : old.send.shutdownFlag = false) :
      Cut world (.shutdownWrite id errorCode) id errorCode old
        { old.send.reset.2 with shutdownFlag := true }
  | stop {id errorCode old} (first : old.send.error = none) :
      Cut world (.stopSending id errorCode) id errorCode old
        { old.send.reset.2 with error := some errorCode }

/-- The kinds of steps. -/
inductive Effect (world : World) : Op → World → Prop where
  | still {op after} (quiet : Quiet world.map after) (calm : Calm world.map after) :
      Effect world op { world with map := after }
  -- A stream is opened, or its limits and flags change.
  | kept {op after id old new} (held : Held world.map after id old new)
      (recv : ∃ flowControl, new.recv = { old.recv with flowControl })
      (send : ∃ maxData blockedAt, old.send.maxData ≤ maxData ∧
        new.send = { old.send with maxData, blockedAt })
      (flow : SameFlow world.map after) (credit : SameCredit world.map after)
      (queue : ∀ other, after.Queued other →
        world.map.Queued other ∨ other = id ∧ new.isSendable = true) :
      Effect world op { world with map := after }
  | read {id outLen after old new} (found : world.map.get id = some old)
      (receives : isBidi id = true ∨ isLocal id world.map.isServer = false)
      (ready : old.recv.ready = true) (touched : Touched world.map after id old new)
      (recv : new.recv = (old.recv.read outLen).2) (send : new.send = old.send)
      (readOff : after.flowControl.readOff =
        world.map.flowControl.readOff + readLen (old.recv.read outLen).1)
      (recvOff : after.flowControl.recvOff = world.map.flowControl.recvOff)
      (maxData : after.flowControl.maxData = world.map.flowControl.maxData)
      (credit : SameCredit world.map after) (queue : NoneQueued world.map after) :
      Effect world (.read id outLen) { world with map := after }
  | written {id buf fin after old new send kept finKept count}
      (sends : isBidi id = true ∨ isLocal id world.map.isServer = true)
      (held : Held world.map after id old new) (recv : new.recv = old.recv)
      (wrote : old.send.write kept finKept = .ok (count, send))
      (send : ∃ blockedAt, new.send = { send with blockedAt })
      (fits : kept.length ≤ world.map.sendCapacity.capacity)
      (whole : finKept = true → kept = buf ∧ fin = true)
      (flow : SameFlow world.map after)
      (limit : after.sendCapacity.maxData = world.map.sendCapacity.maxData)
      (txData : after.sendCapacity.txData = world.map.sendCapacity.txData + count)
      (capacity : after.sendCapacity.capacity = world.map.sendCapacity.capacity - count)
      (queue : ∀ other, after.Queued other →
        world.map.Queued other ∨ other = id ∧ (new.isSendable = true ∨ buf = [] ∧ fin = true)) :
      Effect world (.write id buf fin) { world with map := after }
  | readShut {id errorCode after old new} (found : world.map.get id = some old)
      (held : Held world.map after id old new) (first : old.recv.shutdownFlag = false)
      (recv : new.recv = old.recv.shutdown.2) (send : new.send = old.send)
      (readOff : after.flowControl.readOff =
        world.map.flowControl.readOff + (old.recv.recvOff - old.recv.readOff))
      (recvOff : after.flowControl.recvOff = world.map.flowControl.recvOff)
      (maxData : after.flowControl.maxData = world.map.flowControl.maxData)
      (credit : SameCredit world.map after) (queue : NoneQueued world.map after) :
      Effect world (.shutdownRead id errorCode) { world with map := after }
  | cut {op id errorCode after old new}
      (cause : Cut world op id errorCode old new.send)
      (sends : isBidi id = true ∨ isLocal id world.map.isServer = true)
      (held : Held world.map after id old new) (recv : new.recv = old.recv)
      (flow : SameFlow world.map after)
      (limit : after.sendCapacity.maxData = world.map.sendCapacity.maxData)
      (txData : after.sendCapacity.txData = world.map.sendCapacity.txData - old.send.reset.1.2)
      (capacity : after.sendCapacity.capacity =
        after.sendCapacity.maxData - after.sendCapacity.txData)
      (queue : NoneQueued world.map after) :
      Effect world op (world.silence id after)
  | stoppedAgain {id errorCode after old} (held : Held world.map after id old old)
      (stopped : old.send.isStopped = true) (calm : Calm world.map after) :
      Effect world (.stopSending id errorCode) (world.silence id after)
  | stopIgnored {id errorCode after} (missing : world.map.get id = none)
      (spent : world.map.Spent id) (quiet : Quiet world.map after) (calm : Calm world.map after) :
      Effect world (.stopSending id errorCode) (world.silence id after)
  | granted {op after limit} (quiet : Quiet world.map after) (flow : SameFlow world.map after)
      (maxData : after.sendCapacity.maxData = max world.map.sendCapacity.maxData limit)
      (txData : after.sendCapacity.txData = world.map.sendCapacity.txData)
      (capacity : after.sendCapacity.capacity =
        after.sendCapacity.maxData - after.sendCapacity.txData)
      (queue : NoneQueued world.map after) :
      Effect world op { world with map := after, granted := limit :: world.granted }
  | reset {id errorCode finalSize delta after old new}
      (receives : isBidi id = true ∨ isLocal id world.map.isServer = false)
      (touched : Touched world.map after id old new)
      (outcome : old.recv.reset errorCode finalSize = (.ok delta, new.recv))
      (send : new.send = old.send) (finished : Finished old new)
      (fits : delta ≤ world.map.maxRxDataLeft)
      (readOff : after.flowControl.readOff =
        world.map.flowControl.readOff + (finalSize - old.recv.readOff))
      (recvOff : after.flowControl.recvOff = world.map.flowControl.recvOff + delta)
      (maxData : after.flowControl.maxData = world.map.flowControl.maxData)
      (credit : SameCredit world.map after) (queue : NoneQueued world.map after) :
      Effect world (.resetStream id errorCode finalSize) { world with map := after }
  | received {id offset data fin after old new}
      (held : Held world.map after id old new)
      (outcome : old.recv.write offset data fin = .ok new.recv) (send : new.send = old.send)
      (fits : offset + data.length - old.recv.recvOff ≤ world.map.maxRxDataLeft)
      (readOff : after.flowControl.readOff = world.map.flowControl.readOff +
        if old.recv.shutdownFlag then offset + data.length - old.recv.recvOff else 0)
      (recvOff : after.flowControl.recvOff =
        world.map.flowControl.recvOff + (offset + data.length - old.recv.recvOff))
      (maxData : after.flowControl.maxData = world.map.flowControl.maxData)
      (credit : SameCredit world.map after) (queue : NoneQueued world.map after) :
      Effect world (.stream id offset data fin) { world with map := after }
  | acked {frame after old new} (sent : frame ∈ world.sent)
      (found : world.map.get frame.streamId = some old)
      (touched : Touched world.map after frame.streamId old new) (recv : new.recv = old.recv)
      (send : new.send = old.send.ackAndDrop frame.offset frame.length)
      (finished : Finished old new) (calm : Calm world.map after) :
      Effect world (.streamAcked frame) { world with map := after, acked := frame :: world.acked }
  | ackIgnored {frame} (sent : frame ∈ world.sent)
      (missing : world.map.get frame.streamId = none) :
      Effect world (.streamAcked frame) { world with acked := frame :: world.acked }
  | resetAcked {id errorCode finalSize after old new} (found : world.map.get id = some old)
      (touched : Touched world.map after id old new) (recv : new.recv = old.recv)
      (send : new.send = old.send) (calm : Calm world.map after) :
      Effect world (.resetAcked id errorCode finalSize)
        { world with map := after, owed := world.owed.filter (· ≠ id) }
  | resetAckIgnored {id errorCode finalSize} (missing : world.map.get id = none) :
      Effect world (.resetAcked id errorCode finalSize)
        { world with owed := world.owed.filter (· ≠ id) }
  | lost {frame after old new} (sent : frame ∈ world.sent)
      (found : world.map.get frame.streamId = some old)
      (held : Held world.map after frame.streamId old new) (recv : new.recv = old.recv)
      (send : new.send = old.send.retransmit frame.offset frame.length)
      (flow : SameFlow world.map after) (credit : SameCredit world.map after)
      (queue : ∀ other, after.Queued other → world.map.Queued other ∨
        other = frame.streamId ∧ (new.isSendable = true ∨ frame.length = 0 ∧ frame.fin = true)) :
      Effect world (.streamLost frame) { world with map := after }
  | sent {outLen frames after} (emits : Emits world.map frames after) :
      Effect world (.sendStreams outLen) { world with map := after, sent := world.sent ++ frames }
  | resetSent {id reset after} (quiet : Quiet world.map after) (calm : Calm world.map after) :
      Effect world (.sendReset id)
        { world with map := after, resetSent := (id, reset) :: world.resetSent }
  | advertised {now srtt after} (quiet : Quiet world.map after)
      (readOff : after.flowControl.readOff = world.map.flowControl.readOff)
      (recvOff : after.flowControl.recvOff = world.map.flowControl.recvOff)
      (maxData :
        world.map.flowControl.window ≤ (world.map.flowControl.autotuneWindow now srtt).window →
        world.map.flowControl.maxData ≤ after.flowControl.maxData)
      (credit : SameCredit world.map after) (queue : NoneQueued world.map after) :
      Effect world (.sendMaxData now srtt) { world with map := after }
  | destroyed {id after stream} (found : world.map.get id = some stream)
      (closing : world.map.Closing id) (isServer : after.isServer = world.map.isServer)
      (streams : after.streams = world.map.streams.erase id)
      (destroyed : after.destroyed = (id, stream) :: world.map.destroyed)
      (control : after.concurrencyControl = world.map.concurrencyControl)
      (events : ∀ other, after.Closing other → world.map.Closing other)
      (calm : Calm world.map after) :
      Effect world .event { world with map := after }

end World

end Tquic.Connection
