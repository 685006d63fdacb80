import Tquic.Connection.StreamSteps

/-! The parts that the operations of a stream map are put together from. -/

set_option autoImplicit false

namespace Tquic.Connection

open Lib

namespace StreamMap

/-- The map without its marks and without what the peer allows. -/
def core (map : StreamMap) : StreamMap :=
  { map with
    readable := ∅
    writable := ∅
    reset := ∅
    stopped := ∅
    almostFull := ∅
    dataBlocked := ∅
    sendCapacity := .default
    peerTransportParams := {} }

/-- One part of an operation. The queue of sendable streams changes only if the operation
`queues`. -/
inductive Part (queues : Prop) : StreamMap → StreamMap → Prop where
  | marked {map after} (same : after.core = map.core) : Part queues map after
  | queued {map} (allowed : queues) (sendable : OrdMap Nat StreamPriorityQueue) :
      Part queues map { map with sendable }
  | set {map id old new} (found : map.get id = some old) (byLocal : new.byLocal = old.byLocal)
      (closed : new.closed = old.closed) : Part queues map (map.setStream id new)
  | opened {map} (id : Nat) (byLocal : Bool) : Part queues map (map.getOrCreate id byLocal).2
  | closed {map id stream} (found : map.get id = some stream) :
      Part queues map (map.markClosed id stream.byLocal)
  | consumed {map} (delta : Nat) : Part queues map (map.consume delta)
  | received {map} (delta : Nat) :
      Part queues map { map with flowControl := map.flowControl.increaseRecvOff delta }
  | widened {map} (bound : Nat) :
      Part queues map { map with
        flowControl := map.flowControl.ensureWindowLowerBound bound
        rxAlmostFull := true }
  | overdue {map} : Part queues map map.onMaxDataFrameLost
  | streamsBlocked {map} (bidi : Bool) (blockedAt : Option Nat) :
      Part queues map { map with
        concurrencyControl := map.concurrencyControl.updateStreamsBlockedAt bidi blockedAt }
  | streamsGranted {map} (bidi : Bool) (maxStreams : Nat) :
      Part queues map { map with
        concurrencyControl := map.concurrencyControl.updatePeerMaxStreams bidi maxStreams }
  | streamsAdvertised {map} (bidi : Bool) :
      Part queues map { map with
        concurrencyControl := map.concurrencyControl.updateLocalMaxStreams bidi }

def Parts (queues : Prop) : StreamMap → StreamMap → Prop := Relation.ReflTransGen (Part queues)

/-- The parts up to here, in an operation on a stream that is in the map. -/
structure On (queues : Prop) (before map : StreamMap) (id : Nat) (stream : Stream) : Prop where
  parts : Parts queues before map
  found : ∃ old, map.get id = some old ∧ stream.byLocal = old.byLocal ∧ stream.closed = old.closed

section Parts

variable {queues : Prop} {before map after : StreamMap} {id : Nat} {stream : Stream}

theorem Parts.refl (map : StreamMap) : Parts queues map map := Relation.ReflTransGen.refl

theorem Parts.trans {middle : StreamMap} (former : Parts queues before middle)
    (latter : Parts queues middle after) : Parts queues before after :=
  Relation.ReflTransGen.trans former latter

theorem Parts.then (parts : Parts queues before map) (part : Part queues map after) :
    Parts queues before after :=
  Relation.ReflTransGen.tail parts part

theorem Part.parts (part : Part queues map after) : Parts queues map after := .single part

/-- What every part keeps, every operation keeps. -/
theorem Parts.keep (parts : Parts queues map after) (relation : StreamMap → StreamMap → Prop)
    (refl : ∀ map, relation map map)
    (trans : ∀ {first second third}, relation first second → relation second third →
      relation first third)
    (part : ∀ {map after}, Part queues map after → relation map after) : relation map after := by
  induction parts with
  | refl => exact refl map
  | tail _ last kept => exact trans kept (part last)

variable {condition : Prop}

theorem Parts.iteThen (parts : Parts queues before map) [Decidable condition]
    (part : Part queues map after) : Parts queues before (if condition then after else map) := by
  split_ifs
  · exact parts.then part
  · exact parts

theorem Parts.iteMarked [Decidable condition] (same : after.core = map.core) :
    Parts queues map (if condition then after else map) :=
  (Parts.refl map).iteThen (.marked same)

theorem On.of_get (found : map.get id = some stream) : On queues map map id stream :=
  ⟨.refl map, stream, found, rfl, rfl⟩

section

variable (on : On queues before map id stream)

include on

theorem On.set {new : Stream} (byLocal : new.byLocal = stream.byLocal)
    (closed : new.closed = stream.closed) : On queues before (map.setStream id new) id stream := by
  obtain ⟨old, found, role, flag⟩ := on.found
  exact ⟨on.parts.then (.set found (byLocal.trans role) (closed.trans flag)), new,
    get_setStream _ _ _, byLocal.symm, closed.symm⟩

theorem On.setRecv (recv : RecvBuf) :
    On queues before (map.setStream id { stream with recv }) id stream :=
  on.set rfl rfl

theorem On.setSend (send : SendBuf) :
    On queues before (map.setStream id { stream with send }) id stream :=
  on.set rfl rfl

/-- A part that leaves the streams alone. -/
theorem On.then (part : Part queues map after)
    (streams : after.streams = map.streams) : On queues before after id stream := by
  refine ⟨on.parts.then part, ?_⟩
  rw [StreamMap.get, streams]
  exact on.found

theorem On.marked (same : after.core = map.core) : On queues before after id stream :=
  on.then (.marked same) (show after.core.streams = map.core.streams from same ▸ rfl)

theorem On.iteMarked [Decidable condition] (same : after.core = map.core) :
    On queues before (if condition then after else map) id stream := by
  split_ifs
  · exact on.marked same
  · exact on

theorem On.closeIf [Decidable condition] :
    Parts queues before (if condition then map.markClosed id stream.byLocal else map) := by
  obtain ⟨old, found, role, _⟩ := on.found
  split_ifs
  · rw [role]
    exact on.parts.then (.closed found)
  · exact on.parts

theorem On.noteSendable (allowed : queues) (new : Stream) (wasSendable emptyFin : Bool) :
    On queues before (map.noteSendable id new wasSendable emptyFin) id stream := by
  unfold StreamMap.noteSendable
  split_ifs
  · exact on.then (.queued allowed _) rfl
  · exact on

theorem On.noteBlocked {new : Stream}
    (bufLen written : Nat) (byLocal : new.byLocal = stream.byLocal)
    (closed : new.closed = stream.closed) :
    On queues before (map.noteBlocked id new bufLen written) id stream := by
  have noted : ∀ send, On queues before (map.setStream id { new with send }) id stream :=
    fun _ => on.set byLocal closed
  unfold StreamMap.noteBlocked
  dsimp only
  split_ifs
  · exact (noted _).marked (by rfl)
  · exact noted new.send
  · exact (noted _).marked (by rfl)

end

/-- A stream is opened first. If that fails, nothing else happens. -/
theorem Parts.opening {byLocal : Bool} {result : Except Error Stream} {next : StreamMap}
    (created : map.getOrCreate id byLocal = (result, next))
    (continued : ∀ stream, result = .ok stream → On queues next next id stream →
      Parts queues next after)
    (failed : ∀ error, result = .error error → after = next) : Parts queues map after := by
  have opened : Parts queues map (map.getOrCreate id byLocal).2 := (Part.opened id byLocal).parts
  have held := getOrCreate_cases map id byLocal
  rw [created] at opened held
  refine opened.trans ?_
  rcases held with ⟨error, _, same, _⟩ | ⟨stream, _, same, held, _⟩
  · cases same
    rw [failed error rfl]
    exact .refl next
  · cases same
    exact continued stream rfl (.of_get held.get)

end Parts

/-! ## Operations -/

section Operations

variable {queues : Prop} (map : StreamMap) (id : Nat)

theorem want_parts {mark : Stream → Except Error Stream}
    (keeps : ∀ old new, mark old = .ok new → new.byLocal = old.byLocal ∧ new.closed = old.closed) :
    Parts queues map (map.want id mark).2 := by
  unfold want
  cases found : map.get id with
  | none => exact .refl map
  | some stream =>
    cases marked : mark stream with
    | error error =>
      simp only [marked]
      exact .refl map
    | ok new =>
      obtain ⟨byLocal, closed⟩ := keeps stream new marked
      simp only [marked]
      exact (Part.set found byLocal closed).parts

theorem wantWrite_parts (flag : Bool) : Parts queues map (map.wantWrite id flag).2 := by
  refine want_parts map id ?_
  intro old new marked
  unfold Stream.markWantwrite at marked
  split_ifs at marked
  cases marked
  exact ⟨rfl, rfl⟩

private theorem wantRead_parts (flag : Bool) : Parts queues map (map.wantRead id flag).2 := by
  refine want_parts map id ?_
  intro old new marked
  unfold Stream.markWantread at marked
  split_ifs at marked
  cases marked
  exact ⟨rfl, rfl⟩

theorem streamSetPriority_parts (urgency : Nat) (incremental : Bool) :
    Parts queues map (map.streamSetPriority id urgency incremental).2 := by
  unfold streamSetPriority
  cases created : map.getOrCreate id true with
  | mk result next =>
    refine .opening created ?_ ?_
    · rintro stream rfl on
      exact (on.set (by rfl) (by rfl)).parts
    · rintro error rfl
      cases error <;> rfl

private theorem streamBidiNew_parts (urgency : Nat) (incremental : Bool) :
    Parts queues map (map.streamBidiNew urgency incremental).2 := by
  have opened : Parts queues map _ :=
    streamSetPriority_parts map map.nextStreamIdBidi urgency incremental
  unfold streamBidiNew
  dsimp only
  split <;> rename_i created <;> rw [created] at opened <;> exact opened

private theorem streamUniNew_parts (urgency : Nat) (incremental : Bool) :
    Parts queues map (map.streamUniNew urgency incremental).2 := by
  have opened : Parts queues map _ :=
    streamSetPriority_parts map map.nextStreamIdUni urgency incremental
  unfold streamUniNew
  dsimp only
  split <;> rename_i created <;> rw [created] at opened <;> exact opened

private theorem streamSetContext_parts : Parts queues map (map.streamSetContext id).2 := by
  unfold streamSetContext
  cases created : map.getOrCreate id true with
  | mk result next =>
    refine .opening created ?_ ?_
    · rintro stream rfl _
      exact .refl next
    · rintro error rfl
      cases error <;> rfl

theorem streamRead_parts (outLen : Nat) : Parts queues map (map.streamRead id outLen).2 := by
  unfold streamRead
  split_ifs
  · exact .refl map
  · cases found : map.get id with
    | none => exact .refl map
    | some stream =>
      have on : On queues map map id stream := .of_get found
      dsimp only
      by_cases unreadable : (!stream.isReadable) = true
      · rw [if_pos unreadable]
        exact .refl map
      · rw [if_neg unreadable]
        cases (stream.recv.read outLen).1 with
        | error error => exact (on.setRecv _).closeIf.then (.marked rfl)
        | ok taken =>
          exact ((((on.setRecv _).iteMarked (by rfl)).then (.consumed _) (by rfl)).iteMarked
            (by rfl)).closeIf

theorem noteWritten_parts {stream : Stream} (on : On queues map map id stream) (allowed : queues)
    (send : SendBuf) (wasWritable wasSendable blockedByCap emptyFin : Bool)
    (expectWritten bufLen written : Nat) :
    Parts queues map (map.noteWritten id { stream with send } wasWritable wasSendable blockedByCap
      emptyFin expectWritten bufLen written).2 := by
  have blocked : On queues map (map.noteBlocked id { stream with send } bufLen written) id stream :=
    on.noteBlocked bufLen written rfl rfl
  have queued := blocked.noteSendable allowed { stream with send } wasSendable emptyFin
  unfold noteWritten
  dsimp only
  generalize (map.noteBlocked id { stream with send } bufLen written).noteSendable id
    { stream with send } wasSendable emptyFin = middle at queued ⊢
  have marked : ∀ sendCapacity, Parts queues map
      { (if (!Stream.isWritable { stream with send }) = true then middle.markWritable id false
          else if (wasWritable && blockedByCap) = true then middle.markWritable id true
          else middle) with sendCapacity } :=
    fun _ => queued.parts.then (.marked (by split_ifs <;> rfl))
  by_cases short : written < expectWritten
  · rw [if_pos short]
    exact (marked _).trans (wantWrite_parts _ id true)
  · rw [if_neg short]
    exact marked _

private theorem streamWrite_parts (allowed : queues) (buf : Bytes) (fin : Bool) :
    Parts queues map (map.streamWrite id buf fin).2 := by
  unfold streamWrite
  by_cases receiving : (!isBidi id && !isLocal id map.isServer) = true
  · rw [if_pos receiving]
    exact .refl map
  · rw [if_neg receiving]
    obtain ⟨blockedAt, started⟩ := World.noteBlocked_eq map buf.length
    simp only [started]
    have blocked : Parts queues map (map.updateDataBlockedAt blockedAt) := Part.parts (.marked rfl)
    refine blocked.trans ?_
    generalize map.updateDataBlockedAt blockedAt = noted
    cases created : noted.getOrCreate id true with
    | mk result next =>
      refine .opening created ?_ ?_
      · rintro stream rfl on
        dsimp only
        generalize decide (noted.sendCapacity.capacity < buf.length) = blockedByCap
        by_cases none : (decide (noted.sendCapacity.capacity = 0) && !buf.isEmpty) = true
        · rw [if_pos none]
          exact .trans (.iteMarked (by rfl)) (wantWrite_parts _ id true)
        · rw [if_neg none]
          split
          · exact Part.parts (.marked rfl)
          · exact noteWritten_parts next id on allowed ..
      · rintro error rfl
        rfl

theorem streamWritable_parts (len : Nat) : Parts queues map (map.streamWritable id len).2 := by
  unfold streamWritable
  cases map.streamCapacity id with
  | error error => exact .refl map
  | ok capacity =>
    dsimp only
    by_cases enough : len ≤ capacity
    · rw [if_pos enough]
      exact .refl map
    · rw [if_neg enough]
      obtain ⟨blockedAt, started⟩ := World.noteBlocked_eq map len
      rw [started]
      have blocked : Parts queues map (map.updateDataBlockedAt blockedAt) := Part.parts (.marked rfl)
      refine blocked.trans ?_
      generalize map.updateDataBlockedAt blockedAt = noted
      cases found : noted.get id with
      | none => exact .refl noted
      | some stream =>
        have on : On queues noted noted id stream := .of_get found
        have set : ∀ send, On queues noted
            (noted.setStream id { stream with send, writeThresh := max 1 len }) id stream :=
          fun _ => on.set rfl rfl
        dsimp only
        split
        · exact (set stream.send).parts
        · unfold noteWritable
          dsimp only
          split_ifs
          · exact ((set _).marked (by rfl)).parts
          · exact (set stream.send).parts
          · exact ((set stream.send).marked (by rfl)).parts
          · exact (set stream.send).parts

theorem streamShutdown_parts (direction : Shutdown) (errorCode : Nat) :
    Parts queues map (map.streamShutdown id direction errorCode).2 := by
  unfold streamShutdown
  cases found : map.get id with
  | none => exact .refl map
  | some stream =>
    have on : On queues map map id stream := .of_get found
    cases direction with
    | read =>
      dsimp only
      unfold shutdownRead
      split_ifs
      · exact .refl map
      · split
        · exact .refl map
        · dsimp only
          split_ifs <;> exact ((on.setRecv _).marked (by rfl)).parts.then (.consumed _)
    | write =>
      dsimp only
      unfold shutdownWrite
      split_ifs
      · exact .refl map
      · split
        · exact .refl map
        · exact ((on.setSend _).marked (by rfl)).parts

private theorem onMaxStreamDataFrameReceived_parts (maxData : Nat) :
    Parts queues map (map.onMaxStreamDataFrameReceived id maxData).2 := by
  unfold onMaxStreamDataFrameReceived
  split_ifs
  · exact .refl map
  · cases created : map.getOrCreate id false with
    | mk result next =>
      refine .opening created ?_ ?_
      · rintro stream rfl on
        -- Whether the stream may be sent was asked of the same data, so it is never queued.
        have idle : ∀ streamed : StreamMap, streamed.noteSendable id
            { stream with send := stream.send.updateMaxData maxData } stream.isSendable false =
            streamed := by
          refine fun _ => if_neg ?_
          rw [Bool.or_false]
          exact Bool.eq_false_iff.mp (Bool.and_not_self stream.isSendable)
        dsimp only
        rw [idle]
        exact ((on.setSend _).iteMarked (by rfl)).parts
      · rintro error rfl
        cases error <;> rfl

private theorem onMaxStreamsFrameReceived_parts (maxStreams : Nat) (bidi : Bool) :
    Parts queues map (map.onMaxStreamsFrameReceived maxStreams bidi).2 := by
  unfold onMaxStreamsFrameReceived
  split_ifs
  · exact .refl map
  · exact (Part.streamsGranted bidi maxStreams).parts

private theorem onResetStreamFrameReceived_parts (errorCode finalSize : Nat) :
    Parts queues map (map.onResetStreamFrameReceived id errorCode finalSize).2 := by
  unfold onResetStreamFrameReceived
  by_cases sending : (!isBidi id && isLocal id map.isServer) = true
  · rw [if_pos sending]
    exact .refl map
  · rw [if_neg sending]
    dsimp only
    cases created : map.getOrCreate id false with
    | mk result next =>
      refine .opening created ?_ ?_
      · rintro stream rfl on
        dsimp only
        split
        · exact (on.setRecv _).parts
        · rename_i delta _
          by_cases large : delta > map.maxRxDataLeft
          · rw [if_pos large]
            exact (on.set (by rfl) (by rfl)).parts
          · rw [if_neg large]
            exact (((on.setRecv _).iteMarked (by rfl)).closeIf.then (.received delta)).then
              (.consumed _)
      · rintro error rfl
        cases error <;> rfl

private theorem onStopSendingFrameReceived_parts (errorCode : Nat) :
    Parts queues map (map.onStopSendingFrameReceived id errorCode).2 := by
  unfold onStopSendingFrameReceived
  split_ifs
  · exact .refl map
  · cases created : map.getOrCreate id false with
    | mk result next =>
      refine .opening created ?_ ?_
      · rintro stream rfl on
        dsimp only
        split
        · exact .refl next
        · exact (((on.setSend _).marked (by rfl)).iteMarked (by rfl)).parts
      · rintro error rfl
        cases error <;> rfl

private theorem onStreamFrameReceived_parts (offset length : Nat) (fin : Bool) (data : Bytes) :
    Parts queues map (map.onStreamFrameReceived id offset length fin data).2 := by
  unfold onStreamFrameReceived
  split_ifs
  · exact .refl map
  · dsimp only
    cases created : map.getOrCreate id false with
    | mk result next =>
      refine .opening created ?_ ?_
      · rintro stream rfl on
        dsimp only
        by_cases large : offset + length - stream.recv.recvOff > map.maxRxDataLeft
        · rw [if_pos large]
          exact .refl next
        · rw [if_neg large]
          split
          · exact .refl next
          · dsimp only
            exact (((on.setRecv _).iteMarked (by rfl)).parts.then (.received _)).iteThen (.consumed _)
      · rintro error rfl
        cases error <;> rfl

private theorem updatePeerStreamTransportParams_parts (params : StreamTransportParams) :
    Parts queues map (map.updatePeerStreamTransportParams params) :=
  (((Parts.refl map).then (.streamsGranted true params.initialMaxStreamsBidi)).then
    (.streamsGranted false params.initialMaxStreamsUni)).then (.marked rfl)

private theorem onStreamFrameAcked_parts (offset length : Nat) :
    Parts queues map (map.onStreamFrameAcked id offset length) := by
  unfold onStreamFrameAcked
  cases found : map.get id with
  | none => exact .refl map
  | some stream => exact ((On.of_get found).setSend _).closeIf

theorem onResetStreamFrameAcked_parts : Parts queues map (map.onResetStreamFrameAcked id) := by
  unfold onResetStreamFrameAcked
  cases found : map.get id with
  | none => exact .refl map
  | some stream => exact (On.of_get found).closeIf

private theorem onStreamFrameLost_parts (allowed : queues) (offset length : Nat) (fin : Bool) :
    Parts queues map (map.onStreamFrameLost id offset length fin) := by
  unfold onStreamFrameLost
  cases found : map.get id with
  | none => exact .refl map
  | some stream => exact (((On.of_get found).setSend _).noteSendable allowed _ _ _).parts

private theorem onStopSendingFrameLost_parts (errorCode : Nat) :
    Parts queues map (map.onStopSendingFrameLost id errorCode) := by
  unfold onStopSendingFrameLost
  cases map.get id with
  | none => exact .refl map
  | some stream => exact .iteMarked (by rfl)

private theorem onStreamDataBlockedFrameLost_parts (blockedAt : Nat) :
    Parts queues map (map.onStreamDataBlockedFrameLost id blockedAt) := by
  unfold onStreamDataBlockedFrameLost
  cases map.get id with
  | none => exact .refl map
  | some stream => exact .iteMarked (by rfl)

private theorem onStreamsBlockedFrameLost_parts (bidi : Bool) (maxStreams : Nat) :
    Parts queues map (map.onStreamsBlockedFrameLost bidi maxStreams) := by
  unfold onStreamsBlockedFrameLost
  split_ifs
  · exact (Part.streamsBlocked bidi (some maxStreams)).parts
  · exact .refl map

private theorem peekSendable_parts (allowed : queues) : Parts queues map map.peekSendable.2 := by
  unfold peekSendable
  split
  · exact .refl map
  · split
    · exact .refl map
    · exact (Part.queued allowed _).parts
    · exact .refl map

theorem removeSendable_part (allowed : queues) : Part queues map map.removeSendable := by
  unfold removeSendable
  split
  · exact .queued allowed _
  · dsimp only
    split_ifs <;> exact .queued allowed _

private theorem writeStreamFrames_parts (allowed : queues) {fuel cap : Nat} {map after : StreamMap}
    {frames : List StreamFrame} (written : writeStreamFrames fuel map cap = some (frames, after)) :
    Parts queues map after := by
  induction fuel generalizing map cap frames with
  | zero => cases written
  | succ fuel ih =>
    have peeked : Parts queues map map.peekSendable.2 := peekSendable_parts map allowed
    rcases writeStreamFrames_cases written with ⟨found, _⟩ | ⟨id, middle, found, round⟩
    · rw [found] at peeked
      exact peeked
    · rw [found] at peeked
      refine peeked.trans ?_
      rcases round with ⟨_, rest⟩ |
        ⟨stream, bytes, fin, send, next, later, present, _, _, drained, _, ends⟩
      · exact (removeSendable_part middle allowed).parts.trans (ih rest)
      · have kept : Parts queues middle next := by
          rw [← drained]
          exact ((On.of_get present).setSend send).parts.iteThen (removeSendable_part _ allowed)
        refine kept.trans ?_
        rcases ends with ⟨_, rfl⟩ | ⟨_, rest⟩
        · exact .refl _
        · exact ih rest

private theorem writeMaxStreamData_parts {now : Instant} {srtt : Duration} {limit : Option Nat}
    {after : StreamMap} (written : map.writeMaxStreamData id now srtt = some (limit, after)) :
    Parts queues map after := by
  unfold writeMaxStreamData at written
  split_ifs at written
  cases found : map.get id with
  | none =>
    rw [found] at written
    cases written
    exact Part.parts (.marked rfl)
  | some stream =>
    rw [found] at written
    cases written
    exact (((On.of_get found).setRecv _).marked (by rfl)).parts.then (.widened _)

end Operations

end StreamMap

namespace World

open StreamMap

/-- The operations that may queue a stream for sending or take it off the queue. -/
def TouchesQueue : Op → Prop
  | .write _ _ _ | .streamLost _ | .sendStreams _ => True
  | _ => False

/-- A MAX_DATA frame is due, and there is room for it or not. -/
inductive Limits (map : StreamMap) : Op → StreamMap → Prop where
  | written {now srtt limit after} (written : map.writeMaxData now srtt = some (limit, after)) :
      Limits map (.sendMaxData now srtt) after
  | tuned {now srtt after} (tuned : map.tuneMaxData now srtt = some after) :
      Limits map (.tuneMaxData now srtt) after

/-- Neither touches more than the limit of the connection. -/
theorem Limits.apart {map after : StreamMap} {op : Op} (due : Limits map op after) :
    ∃ flowControl rxAlmostFull, after = { map with flowControl, rxAlmostFull } := by
  cases due with
  | written written =>
    obtain ⟨_, same⟩ := Option.ite_none_right_eq_some.mp written
    cases same
    exact ⟨_, _, rfl⟩
  | tuned tuned =>
    obtain ⟨_, same⟩ := Option.ite_none_right_eq_some.mp tuned
    cases same
    exact ⟨_, _, rfl⟩

/-- All operations but these: an event may remove a stream, and a MAX_DATA frame moves the limit of
the connection. -/
theorem Moved.parts {map after : StreamMap} {op : Op} (moved : Moved map op after) :
    Parts (TouchesQueue op) map after ∨ map.processEvent = some after ∨ Limits map op after := by
  cases moved with
  | event processed => exact .inr (.inl processed)
  | sendMaxData written => exact .inr (.inr (.written written))
  | tuneMaxData tuned => exact .inr (.inr (.tuned tuned))
  | setPriority => exact .inl (streamSetPriority_parts ..)
  | bidiNew => exact .inl (streamBidiNew_parts ..)
  | uniNew => exact .inl (streamUniNew_parts ..)
  | read => exact .inl (streamRead_parts ..)
  | write => exact .inl (streamWrite_parts _ _ trivial ..)
  | shutdownRead => exact .inl (streamShutdown_parts ..)
  | shutdownWrite => exact .inl (streamShutdown_parts ..)
  | writable => exact .inl (streamWritable_parts ..)
  | wantRead => exact .inl (wantRead_parts ..)
  | wantWrite => exact .inl (wantWrite_parts ..)
  | setContext => exact .inl (streamSetContext_parts ..)
  | peerParams => exact .inl (updatePeerStreamTransportParams_parts ..)
  | maxStreamData => exact .inl (onMaxStreamDataFrameReceived_parts ..)
  | maxStreams => exact .inl (onMaxStreamsFrameReceived_parts ..)
  | streamDataBlocked =>
    unfold onStreamDataBlockedFrameReceived
    split <;> exact .inl (.refl map)
  | streamsBlocked =>
    unfold onStreamsBlockedFrameReceived
    split <;> exact .inl (.refl map)
  | resetStream => exact .inl (onResetStreamFrameReceived_parts ..)
  | stopSending => exact .inl (onStopSendingFrameReceived_parts ..)
  | stream => exact .inl (onStreamFrameReceived_parts ..)
  | streamAcked => exact .inl (onStreamFrameAcked_parts ..)
  | streamLost => exact .inl (onStreamFrameLost_parts _ _ trivial ..)
  | resetAcked => exact .inl (onResetStreamFrameAcked_parts ..)
  | resetLost | maxStreamDataLost | dataBlockedLost => exact .inl (.iteMarked (by rfl))
  | stopSendingLost => exact .inl (onStopSendingFrameLost_parts ..)
  | maxDataLost => exact .inl Part.overdue.parts
  | streamDataBlockedLost => exact .inl (onStreamDataBlockedFrameLost_parts ..)
  | streamsBlockedLost => exact .inl (onStreamsBlockedFrameLost_parts ..)
  | sendStreams written =>
    unfold tryWriteStreamFrames at written
    split_ifs at written
    · cases written
      exact .inl (.refl map)
    · exact .inl (writeStreamFrames_parts trivial written)
  | maxData | sendReset | sendStopSending | sendStreamDataBlocked | sendDataBlocked =>
    exact .inl (Part.parts (.marked rfl))
  | sendStreamsBlocked => exact .inl (Part.streamsBlocked _ none).parts
  | sendMaxStreams written =>
    unfold writeMaxStreams at written
    split_ifs at written
    cases written
    exact .inl (Part.streamsAdvertised _).parts
  | sendMaxStreamData written => exact .inl (writeMaxStreamData_parts _ _ written)
  | tuneMaxStreamData tuned =>
    obtain ⟨_, tuned⟩ := Option.ite_none_right_eq_some.mp tuned
    obtain ⟨stream, found, rfl⟩ := Option.map_eq_some_iff.mp tuned
    exact .inl ((On.of_get found).setRecv _).parts

end World

end Tquic.Connection
