import Tquic.Connection.StreamEffects

/-! Every step of a run is of one of the kinds of `Effect`. There is one lemma for each
operation of the stream map, and `step_effect` puts them together. -/

set_option autoImplicit false

namespace Tquic.Connection

open Lib

namespace StreamMap

/-- The streams differ in their flags for wanted reads and writes at most. -/
structure SameUse (old new : Stream) : Prop where
  bidi : new.bidi = old.bidi
  byLocal : new.byLocal = old.byLocal
  closed : new.closed = old.closed
  recv : new.recv = old.recv
  send : new.send = old.send

theorem markWantwrite_sameUse {stream marked : Stream} {flag : Bool}
    (set : stream.markWantwrite flag = .ok marked) : SameUse stream marked := by
  rw [Stream.markWantwrite] at set
  split at set
  · cases set
  · cases set
    exact ⟨rfl, rfl, rfl, rfl, rfl⟩

private theorem markWantread_sameUse {stream marked : Stream} {flag : Bool}
    (set : stream.markWantread flag = .ok marked) : SameUse stream marked := by
  rw [Stream.markWantread] at set
  split at set
  · cases set
  · cases set
    exact ⟨rfl, rfl, rfl, rfl, rfl⟩

variable {id : Nat} {before map : StreamMap} {old new : Stream}

theorem want_held (held : Held before map id old new) {mark : Stream → Except Error Stream}
    (same : ∀ marked, mark new = .ok marked → SameUse new marked) :
    ∃ final : Stream, Held before (map.want id mark).2 id old final ∧
      SameRest map (map.want id mark).2 ∧ final.recv = new.recv ∧ final.send = new.send := by
  rw [want, held.get]
  cases set : mark new with
  | error error =>
    simp only [set]
    exact ⟨new, held, .refl map, rfl, rfl⟩
  | ok marked =>
    obtain ⟨bidi, byLocal, closed, recv, send⟩ := same marked set
    simp only [set]
    exact ⟨marked, held.set bidi byLocal closed, setStream_rest _ _ _, recv, send⟩

theorem wantWrite_held (held : Held before map id old new) (flag : Bool) :
    ∃ final : Stream, Held before (map.wantWrite id flag).2 id old final ∧
      SameRest map (map.wantWrite id flag).2 ∧ final.recv = new.recv ∧ final.send = new.send :=
  want_held held fun _ => markWantwrite_sameUse

/-- Only the threshold of the stream and what blocks it change. -/
theorem noteWritable_held {old : Stream} (held : Held before map id old old) (capacity len : Nat) :
    ∃ final : Stream,
      Held before (map.noteWritable id { old with writeThresh := max 1 len } capacity len) id old
        final ∧
      SameRest map (map.noteWritable id { old with writeThresh := max 1 len } capacity len) ∧
      final.recv = old.recv ∧ ∃ blockedAt, final.send = { old.send with blockedAt } := by
  have set : Held before (map.setStream id { old with writeThresh := max 1 len }) id old
      { old with writeThresh := max 1 len } := held.set rfl rfl rfl
  simp only [noteWritable]
  split
  · split
    · have blocked : Held before
          (map.setStream id { old with
            writeThresh := max 1 len
            send := old.send.updateBlockedAt (some old.send.maxData) }) id old
          { old with
            writeThresh := max 1 len
            send := old.send.updateBlockedAt (some old.send.maxData) } := held.set rfl rfl rfl
      exact ⟨_, blocked.quiet (markBlocked_aside _ _ _ _).quiet, ⟨rfl, rfl, rfl⟩, rfl, _, rfl⟩
    · exact ⟨_, set, setStream_rest _ _ _, rfl, _, rfl⟩
  · split
    · exact ⟨_, set.quiet (markWritable_aside _ _ _).quiet, ⟨rfl, rfl, rfl⟩, rfl, _, rfl⟩
    · exact ⟨_, set, setStream_rest _ _ _, rfl, _, rfl⟩

theorem closeIfDone_touched (held : Held before map id old new) :
    ∃ closed : Bool, Touched before (map.closeIfDone id new) id old { new with closed } ∧
      SameRest map (map.closeIfDone id new) ∧ World.Finished old { new with closed } := by
  obtain ⟨closed, touched, rest, cause⟩ :=
    held.close (fun done : (new.isComplete && !new.isReadable) = true =>
      (Bool.and_eq_true_iff.mp done).1) new.byLocal
  refine ⟨closed, touched, rest, fun shut => (cause shut).imp_right fun done => ?_⟩
  have ended : new.isComplete = true ∧ new.isReadable = false := by simpa using done
  exact ended

/-- Bytes are counted as received or consumed on the connection, and marks are set. -/
structure Counted (before after : StreamMap) (received consumed : Nat) : Prop where
  quiet : Quiet before after
  readOff : after.flowControl.readOff = before.flowControl.readOff + consumed
  recvOff : after.flowControl.recvOff = before.flowControl.recvOff + received
  maxData : after.flowControl.maxData = before.flowControl.maxData
  sendCapacity : after.sendCapacity = before.sendCapacity
  sendable : after.sendable = before.sendable

theorem counted_read (map : StreamMap) (id len : Nat) (full shown : Bool) :
    Counted map
      (if shown then
        ((if full then map.markAlmostFull id true else map).consume len).markReadable id false
      else (if full then map.markAlmostFull id true else map).consume len) 0 len := by
  cases full <;> cases shown <;>
    exact ⟨⟨rfl, rfl, rfl, .refl _, fun _ closing => closing⟩, rfl, rfl, rfl, rfl, rfl⟩

theorem counted_shutdown (map : StreamMap) (id errorCode unreadLen : Nat) (unfinished : Bool) :
    Counted map
      (((if unfinished then map.markStopped id true errorCode else map).markReadable id
        false).consume unreadLen) 0 unreadLen := by
  cases unfinished <;>
    exact ⟨⟨rfl, rfl, rfl, .refl _, fun _ closing => closing⟩, rfl, rfl, rfl, rfl, rfl⟩

private theorem counted_received (map : StreamMap) (id delta : Nat) (shown draining : Bool) :
    Counted map
      (if draining then
        ({ (if shown then map.markReadable id true else map) with
          flowControl := (if shown then map.markReadable id true else map).flowControl
            |>.increaseRecvOff delta }).consume delta
      else
        { (if shown then map.markReadable id true else map) with
          flowControl := (if shown then map.markReadable id true else map).flowControl
            |>.increaseRecvOff delta }) delta (if draining then delta else 0) := by
  cases shown <;> cases draining <;>
    exact ⟨⟨rfl, rfl, rfl, .refl _, fun _ closing => closing⟩, rfl, rfl, rfl, rfl, rfl⟩

theorem noteSendable_spec (map : StreamMap) (id : Nat) (stream : Stream)
    (wasSendable emptyFin : Bool) :
    Quiet map (map.noteSendable id stream wasSendable emptyFin) ∧
      (map.noteSendable id stream wasSendable emptyFin).flowControl = map.flowControl ∧
      (map.noteSendable id stream wasSendable emptyFin).sendCapacity = map.sendCapacity ∧
      ∀ other, (map.noteSendable id stream wasSendable emptyFin).Queued other →
        map.Queued other ∨ other = id ∧ (stream.isSendable = true ∨ emptyFin = true) := by
  rw [noteSendable]
  split
  case isTrue sendable =>
    refine ⟨pushSendable_quiet _ _ _ _, rfl, rfl, fun other queued => ?_⟩
    have cause := (Bool.and_eq_true_iff.mp sendable).1
    exact (pushSendable_queued queued).imp_right fun same => ⟨same, Bool.or_eq_true_iff.mp cause⟩
  case isFalse => exact ⟨.refl map, rfl, rfl, fun _ queued => .inl queued⟩

private theorem noteBlocked_held {old : Stream}
    (held : Held before map id old old) (send : SendBuf) (bufLen written : Nat) :
    ∃ final : Stream,
      Held before (map.noteBlocked id { old with send } bufLen written) id old final ∧
      SameRest map (map.noteBlocked id { old with send } bufLen written) ∧
      final.recv = old.recv ∧ ∃ blockedAt, final.send = { send with blockedAt } := by
  have stored (blockedAt : Option Nat) :
      Held before
        (map.setStream id { old with send := send.updateBlockedAt blockedAt }) id old
        { old with send := send.updateBlockedAt blockedAt } :=
    held.set rfl rfl rfl
  simp only [noteBlocked]
  split
  · split
    · exact ⟨_, (stored _).quiet (markBlocked_aside _ _ _ _).quiet, ⟨rfl, rfl, rfl⟩, rfl, _, rfl⟩
    · exact ⟨_, held.set rfl rfl rfl, ⟨rfl, rfl, rfl⟩, rfl, _, rfl⟩
  · exact ⟨_, (stored _).quiet (markBlocked_aside _ _ _ _).quiet, ⟨rfl, rfl, rfl⟩, rfl, _, rfl⟩

theorem noteWritten_held {before map after : StreamMap} {old : Stream}
    (held : Held before map id old old) {send : SendBuf}
    {wasWritable wasSendable blockedByCap emptyFin : Bool} {expectWritten bufLen written : Nat}
    (result : (map.noteWritten id { old with send } wasWritable wasSendable blockedByCap emptyFin
      expectWritten bufLen written).2 = after) :
    ∃ final : Stream, Held before after id old final ∧ final.recv = old.recv ∧
      (∃ blockedAt, final.send = { send with blockedAt }) ∧
      after.flowControl = map.flowControl ∧
      after.sendCapacity =
        { map.sendCapacity with
          capacity := map.sendCapacity.capacity - written
          txData := map.sendCapacity.txData + written } ∧
      ∀ other, after.Queued other →
        map.Queued other ∨ other = id ∧ (final.isSendable = true ∨ emptyFin = true) := by
  obtain ⟨stored, kept, rest, sameRecv, blockedAt, sameSend⟩ :=
    noteBlocked_held held send bufLen written
  let new := { old with send }
  obtain ⟨quiet, flowControl, sendCapacity, queued⟩ :=
    noteSendable_spec (map.noteBlocked id new bufLen written) id new wasSendable emptyFin
  have sendable : new.isSendable = stored.isSendable := by
    rw [Stream.isSendable, Stream.isSendable, sameSend]
    rfl
  -- Everything up to the last step, which sets a flag of the stream.
  let queue := (map.noteBlocked id new bufLen written).noteSendable id new wasSendable emptyFin
  let marked :=
    if !new.isWritable then queue.markWritable id false
    else if wasWritable && blockedByCap then queue.markWritable id true
    else queue
  let counted : StreamMap :=
    { marked with
      sendCapacity :=
        { marked.sendCapacity with
          capacity := marked.sendCapacity.capacity - written
          txData := marked.sendCapacity.txData + written } }
  have aside : Aside queue marked :=
    .ite (markWritable_aside _ _ _) (.ite (markWritable_aside _ _ _) (.refl _))
  have countedHeld : Held before counted id old stored :=
    ((kept.quiet quiet).quiet aside.quiet).quiet ⟨rfl, rfl, rfl, .refl _, fun _ closing => closing⟩
  have countedFlow : counted.flowControl = map.flowControl :=
    aside.rest.flowControl.trans (flowControl.trans rest.flowControl)
  have countedCredit : counted.sendCapacity =
      { map.sendCapacity with
        capacity := map.sendCapacity.capacity - written
        txData := map.sendCapacity.txData + written } := by
    have same : marked.sendCapacity = map.sendCapacity :=
      aside.rest.sendCapacity.trans (sendCapacity.trans rest.sendCapacity)
    simp only [counted, same]
  have countedQueue : ∀ other, counted.Queued other →
      map.Queued other ∨ other = id ∧ (stored.isSendable = true ∨ emptyFin = true) := by
    intro other waiting
    have earlier := queued other ((NoneQueued.of_eq aside.rest.sendable) other waiting)
    rw [sendable] at earlier
    exact earlier.imp_left ((NoneQueued.of_eq rest.sendable) other)
  have final : after = counted ∨ after = (counted.wantWrite id true).2 := by
    rw [← result, noteWritten]
    simp only
    split
    · exact .inr rfl
    · exact .inl rfl
  rcases final with rfl | rfl
  · exact ⟨stored, countedHeld, sameRecv, ⟨blockedAt, sameSend⟩, countedFlow, countedCredit,
      countedQueue⟩
  · obtain ⟨flagged, flaggedHeld, same, flaggedRecv, flaggedSend⟩ :=
      wantWrite_held countedHeld true
    refine ⟨flagged, flaggedHeld, flaggedRecv.trans sameRecv, ⟨blockedAt, flaggedSend.trans sameSend⟩,
      same.flowControl.trans countedFlow, same.sendCapacity.trans countedCredit, ?_⟩
    intro other waiting
    have earlier := countedQueue other ((NoneQueued.of_eq same.sendable) other waiting)
    rwa [Stream.isSendable, ← flaggedSend] at earlier

private theorem counted_reset (map : StreamMap) (received consumed : Nat) :
    Counted map
      (({ map with flowControl := map.flowControl.increaseRecvOff received }).consume consumed)
      received consumed :=
  ⟨⟨rfl, rfl, rfl, .refl _, fun _ closing => closing⟩, rfl, rfl, rfl, rfl, rfl⟩

end StreamMap

namespace World

open StreamMap

variable (world : World) {op : Op} {after : StreamMap}

theorem Effect.flags {world : World} {id : Nat} {old new : Stream}
    (held : Held world.map after id old new) (recv : new.recv = old.recv)
    (send : new.send = old.send) (calm : Calm world.map after) :
    Effect world op { world with map := after } :=
  .kept held ⟨old.recv.flowControl, recv⟩ ⟨old.send.maxData, old.send.blockedAt, le_refl _, send⟩
    calm.flow calm.credit fun other queued => .inl (calm.queue other queued)

theorem Effect.aside {world : World}
    (aside : Aside world.map after) : Effect world op { world with map := after } :=
  .still aside.quiet aside.rest.calm

/-! ## Application -/

theorem streamSetPriority_effect (op : Op) (id urgency : Nat) (incremental : Bool) :
    Effect world op
      { world with map := (world.map.streamSetPriority id urgency incremental).2 } := by
  rcases getOrCreate_cases world.map id true with
    ⟨error, after, opened, quiet, rest, _⟩ | ⟨stream, after, opened, held, rest⟩
  · have same : (world.map.streamSetPriority id urgency incremental).2 = after := by
      rw [streamSetPriority, opened]
      cases error <;> rfl
    rw [same]
    exact .still quiet rest.calm
  · rw [streamSetPriority, opened]
    exact .flags (held.set rfl rfl rfl) rfl rfl (rest.trans (setStream_rest _ _ _)).calm

private theorem streamBidiNew_effect (op : Op) (urgency : Nat) (incremental : Bool) :
    Effect world op { world with map := (world.map.streamBidiNew urgency incremental).2 } := by
  have same : (world.map.streamBidiNew urgency incremental).2 =
      (world.map.streamSetPriority world.map.nextStreamIdBidi urgency incremental).2 := by
    simp only [streamBidiNew]
    split <;> rename_i set <;> rw [set]
  rw [same]
  exact streamSetPriority_effect world op _ _ _

private theorem streamUniNew_effect (op : Op) (urgency : Nat) (incremental : Bool) :
    Effect world op { world with map := (world.map.streamUniNew urgency incremental).2 } := by
  have same : (world.map.streamUniNew urgency incremental).2 =
      (world.map.streamSetPriority world.map.nextStreamIdUni urgency incremental).2 := by
    simp only [streamUniNew]
    split <;> rename_i set <;> rw [set]
  rw [same]
  exact streamSetPriority_effect world op _ _ _

private theorem streamRead_effect (id outLen : Nat) :
    Effect world (.read id outLen) { world with map := (world.map.streamRead id outLen).2 } := by
  rw [streamRead]
  split
  case isTrue => exact .aside (.refl _)
  case isFalse role =>
    have receives : isBidi id = true ∨ isLocal id world.map.isServer = false := by
      cases bidi : isBidi id <;> simp_all
    cases found : world.map.get id with
    | none => exact .aside (.refl _)
    | some stream =>
      simp only
      split
      case isTrue => exact .aside (.refl _)
      case isFalse readable =>
        have ready : stream.recv.ready = true := by simpa [Stream.isReadable] using readable
        cases outcome : stream.recv.read outLen with
        | mk result recv =>
          have held : Held world.map (world.map.setStream id { stream with recv }) id stream
              { stream with recv } := (Held.of_get found).set rfl rfl rfl
          cases result with
          | error error =>
            obtain ⟨closed, touched, rest, _⟩ :=
              held.close (fun complete => complete) stream.byLocal
            have marked := rest.trans (markReadable_aside _ id false).rest
            have calm := ((setStream_rest _ _ _).trans marked).calm
            refine .read found receives ready (touched.quiet (markReadable_aside _ _ _).quiet)
              (by rw [outcome]) rfl ?_ calm.flow.recvOff calm.flow.maxData calm.credit calm.queue
            rw [outcome]
            exact calm.flow.readOff
          | ok delivered =>
            obtain ⟨bytes, fin⟩ := delivered
            have counted := counted_read (world.map.setStream id { stream with recv }) id
              bytes.length recv.shouldSendMaxData (!recv.ready)
            obtain ⟨closed, touched, rest, _⟩ :=
              (held.quiet counted.quiet).close (fun complete => complete) stream.byLocal
            refine .read found receives ready touched (by rw [outcome]) rfl ?_ ?_ ?_ (.of_eq ?_)
              (.of_eq ?_)
            · rw [outcome]
              exact (congrArg _ rest.flowControl).trans counted.readOff
            · exact (congrArg _ rest.flowControl).trans counted.recvOff
            · exact (congrArg _ rest.flowControl).trans counted.maxData
            · exact rest.sendCapacity.trans counted.sendCapacity
            · exact rest.sendable.trans counted.sendable

theorem updateDataBlockedAt_quiet (map : StreamMap) (blockedAt : Option Nat) :
    Quiet map (map.updateDataBlockedAt blockedAt) ∧ Calm map (map.updateDataBlockedAt blockedAt) :=
  ⟨⟨rfl, rfl, rfl, .refl _, fun _ closing => closing⟩,
    ⟨⟨rfl, rfl, rfl⟩, ⟨rfl, rfl, rfl⟩, fun _ queued => queued⟩⟩

theorem held_of_updateDataBlockedAt {map after : StreamMap} {blockedAt : Option Nat} {id : Nat}
    {old new : Stream} (held : Held (map.updateDataBlockedAt blockedAt) after id old new) :
    Held map after id old new :=
  ⟨held.opened, held.isServer, held.streams, held.destroyed, held.bidi, held.byLocal, held.closed,
    held.control, held.spent, held.events⟩

/-- A write notes at first whether the credit of the connection blocks it. -/
theorem noteBlocked_eq (map : StreamMap) (len : Nat) :
    ∃ blockedAt,
      (if map.maxTxDataLeft < len then map.updateDataBlockedAt (some map.sendCapacity.maxData)
        else map) = map.updateDataBlockedAt blockedAt := by
  split
  · exact ⟨_, rfl⟩
  · exact ⟨map.sendCapacity.blockedAt, rfl⟩

private theorem streamWrite_effect (id : Nat) (buf : Bytes) (fin : Bool) :
    Effect world (.write id buf fin)
      { world with map := (world.map.streamWrite id buf fin).2 } := by
  rw [streamWrite]
  split
  case isTrue => exact .aside (.refl _)
  case isFalse role =>
    have sends : isBidi id = true ∨ isLocal id world.map.isServer = true := by
      cases bidi : isBidi id <;> simp_all
    obtain ⟨blockedAt, started⟩ := noteBlocked_eq world.map buf.length
    simp only [started]
    obtain ⟨marked, calm⟩ := updateDataBlockedAt_quiet world.map blockedAt
    rcases getOrCreate_cases (world.map.updateDataBlockedAt blockedAt) id true with
      ⟨error, after, opened, quiet, rest, _⟩ | ⟨stream, after, opened, created, rest⟩
    · simp only [opened]
      exact .still (marked.trans quiet) (calm.trans rest.calm)
    · have held := held_of_updateDataBlockedAt created
      have sameCredit : after.sendCapacity =
          world.map.sendCapacity.updateBlockedAt blockedAt := rest.sendCapacity
      simp only [opened]
      split
      case isTrue =>
        -- The connection has no capacity left.
        have aside : Aside after
            (if stream.isWritable then after.markWritable id true else after) :=
          .ite (markWritable_aside _ _ _) (.refl _)
        obtain ⟨final, flagged, same, sameRecv, sameSend⟩ :=
          wantWrite_held (held.quiet aside.quiet) true
        exact .flags flagged sameRecv sameSend
          (calm.trans ((rest.trans aside.rest).trans same).calm)
      case isFalse =>
        split
        case h_1 =>
          exact .flags (held.quiet (markWritable_aside _ _ _).quiet) rfl rfl
            (calm.trans (rest.trans (markWritable_aside _ _ _).rest).calm)
        case h_2 count send wrote =>
          have capacity : (world.map.updateDataBlockedAt blockedAt).sendCapacity.capacity =
              world.map.sendCapacity.capacity := rfl
          rw [capacity] at wrote ⊢
          generalize result : (StreamMap.noteWritten _ _ _ _ _ _ _ _ _ _).2 = next
          obtain ⟨final, noted, sameRecv, sameSend, flowControl, credit, queue⟩ :=
            noteWritten_held held result
          refine .written sends noted sameRecv wrote sameSend ?fits ?whole
            (.of_eq (flowControl.trans rest.flowControl)) ?limit ?txData ?capacity ?queue
          case fits =>
            split
            · exact (List.length_take_le _ _)
            · rename_i enough
              simpa using enough
          case whole =>
            intro carried
            split at carried
            · cases carried
            · rename_i enough
              rw [if_neg enough]
              exact ⟨rfl, carried⟩
          case limit => rw [credit, sameCredit]; rfl
          case txData => rw [credit, sameCredit]; rfl
          case capacity => rw [credit, sameCredit]; rfl
          case queue =>
            intro other waiting
            refine (queue other waiting).imp ((NoneQueued.of_eq rest.sendable) other) ?_
            rintro ⟨same, sendable | emptyFin⟩
            · exact ⟨same, .inl sendable⟩
            · refine ⟨same, .inr ?_⟩
              split at emptyFin
              · simp at emptyFin
              · simpa using emptyFin

private theorem streamWritable_effect (op : Op) (id len : Nat) :
    Effect world op { world with map := (world.map.streamWritable id len).2 } := by
  simp only [streamWritable]
  split
  case h_1 => exact .aside (.refl _)
  case h_2 =>
    split
    · exact .aside (.refl _)
    · generalize marked : (if _ < len then _ else world.map : StreamMap) = middle
      have unmarked : Quiet world.map middle ∧ Calm world.map middle := by
        rw [← marked]
        split
        · exact updateDataBlockedAt_quiet world.map _
        · exact ⟨.refl _, SameRest.calm (.refl _)⟩
      obtain ⟨quiet, calm⟩ := unmarked
      cases found : middle.get id with
      | none => exact .still quiet calm
      | some stream =>
        have held := (Held.of_get ((quiet.get id).symm.trans found)).quiet quiet
        simp only
        split
        case h_1 =>
          exact .flags (held.set rfl rfl rfl) rfl rfl (calm.trans (setStream_rest _ _ _).calm)
        case h_2 capacity _ =>
          obtain ⟨final, held, rest, recv, blockedAt, send⟩ := noteWritable_held held capacity len
          have calm := calm.trans rest.calm
          exact .kept held ⟨stream.recv.flowControl, recv⟩
            ⟨stream.send.maxData, blockedAt, le_refl _, send⟩ calm.flow calm.credit
            fun other queued => .inl (calm.queue other queued)

theorem want_effect (op : Op) (id : Nat) {mark : Stream → Except Error Stream}
    (same : ∀ stream marked, mark stream = .ok marked → SameUse stream marked) :
    Effect world op { world with map := (world.map.want id mark).2 } := by
  cases found : world.map.get id with
  | none =>
    rw [want, found]
    exact .aside (.refl _)
  | some stream =>
    obtain ⟨final, held, rest, recv, send⟩ := want_held (Held.of_get found) (same stream)
    exact .flags held recv send rest.calm

private theorem streamSetContext_effect (op : Op) (id : Nat) :
    Effect world op { world with map := (world.map.streamSetContext id).2 } := by
  rcases getOrCreate_cases world.map id true with
    ⟨error, after, opened, quiet, rest, _⟩ | ⟨stream, after, opened, held, rest⟩
  · have same : (world.map.streamSetContext id).2 = after := by
      rw [streamSetContext, opened]
      cases error <;> rfl
    rw [same]
    exact .still quiet rest.calm
  · rw [streamSetContext, opened]
    exact .flags held rfl rfl rest.calm

private theorem shutdownRead_effect (id errorCode : Nat) :
    Effect world (.shutdownRead id errorCode)
      { world with map := (world.map.streamShutdown id .read errorCode).2 } := by
  rw [streamShutdown]
  cases found : world.map.get id with
  | none => exact .aside (.refl _)
  | some stream =>
    simp only [shutdownRead]
    split
    case isTrue => exact .aside (.refl _)
    case isFalse =>
      cases first : stream.recv.shutdownFlag with
      | true =>
        simp only [RecvBuf.shutdown, first, if_true]
        exact .aside (.refl _)
      | false =>
        have outcome : stream.recv.shutdown = (.ok (stream.recv.recvOff - stream.recv.readOff),
            stream.recv.shutdown.2) := by
          simp [RecvBuf.shutdown, first]
        rw [outcome]
        have held : Held world.map
            (world.map.setStream id { stream with recv := stream.recv.shutdown.2 }) id stream
            { stream with recv := stream.recv.shutdown.2 } :=
          (Held.of_get found).set rfl rfl rfl
        have counted := counted_shutdown
          (world.map.setStream id { stream with recv := stream.recv.shutdown.2 }) id errorCode
          (stream.recv.recvOff - stream.recv.readOff) (!stream.recv.shutdown.2.isFin)
        exact .readShut found (held.quiet counted.quiet) first rfl rfl counted.readOff
          counted.recvOff counted.maxData (.of_eq counted.sendCapacity)
          (.of_eq counted.sendable)

private theorem noteReset_spec (map : StreamMap) (id errorCode finalSize unsent : Nat) :
    Quiet map (map.noteReset id errorCode finalSize unsent) ∧
      (map.noteReset id errorCode finalSize unsent).flowControl = map.flowControl ∧
      (map.noteReset id errorCode finalSize unsent).sendable = map.sendable ∧
      (map.noteReset id errorCode finalSize unsent).sendCapacity = { map.sendCapacity with
          txData := map.sendCapacity.txData - unsent
          capacity := map.sendCapacity.maxData - (map.sendCapacity.txData - unsent) } :=
  ⟨⟨rfl, rfl, rfl, .refl _, fun _ closing => closing⟩, rfl, rfl, rfl⟩

theorem Effect.of_noteReset {world : World} {id errorCode finalSize : Nat}
    {middle after : StreamMap} {old : Stream} {send : SendBuf}
    (held : Held world.map middle id old old) (rest : SameRest world.map middle)
    (sends : isBidi id = true ∨ isLocal id world.map.isServer = true)
    (cause : Cut world op id errorCode old send)
    (aside : Aside ((middle.setStream id { old with send }).noteReset id errorCode finalSize
      old.send.reset.1.2) after) :
    Effect world op (world.silence id after) := by
  obtain ⟨quiet, flowControl, sendable, sendCapacity⟩ :=
    noteReset_spec (middle.setStream id { old with send }) id errorCode finalSize old.send.reset.1.2
  have set : Held world.map (middle.setStream id { old with send }) id old { old with send } :=
    held.set rfl rfl rfl
  have credit := aside.rest.sendCapacity.trans sendCapacity
  have before : (middle.setStream id { old with send }).sendCapacity = world.map.sendCapacity :=
    rest.sendCapacity
  rw [before] at credit
  refine .cut cause sends ((set.quiet quiet).quiet aside.quiet) rfl
    (.of_eq ((aside.rest.flowControl.trans flowControl).trans rest.flowControl)) ?_ ?_ ?_
    (.of_eq ((aside.rest.sendable.trans sendable).trans rest.sendable))
  all_goals simp only [credit]

private theorem shutdownWrite_effect (id errorCode : Nat) :
    ∃ next, world.step (.shutdownWrite id errorCode) = some next ∧
      Effect world (.shutdownWrite id errorCode) next := by
  simp only [step, streamShutdown]
  cases found : world.map.get id with
  | none => exact ⟨_, rfl, .aside (.refl _)⟩
  | some stream =>
    simp only [shutdownWrite]
    cases role : !isLocal id world.map.isServer && !isBidi id with
    | true => exact ⟨_, rfl, .aside (.refl _)⟩
    | false =>
      have sends : isBidi id = true ∨ isLocal id world.map.isServer = true := by
        cases bidi : isBidi id <;> simp_all
      cases first : stream.send.shutdownFlag with
      | true =>
        simp only [SendBuf.shutdown, first, if_true]
        exact ⟨_, rfl, .aside (.refl _)⟩
      | false =>
        simp only [SendBuf.shutdown, first]
        exact ⟨_, rfl, .of_noteReset (.of_get found) (.refl _) sends
          (.shutdown found first) (markWritable_aside _ _ _)⟩

/-! ## Received frames -/

private theorem onMaxDataFrameReceived_effect (op : Op) (maxData : Nat) :
    Effect world op
      { world with
        map := world.map.onMaxDataFrameReceived maxData
        granted := maxData :: world.granted } := by
  simp only [onMaxDataFrameReceived]
  split <;>
    exact .granted ⟨rfl, rfl, rfl, .refl _, fun _ closing => closing⟩ ⟨rfl, rfl, rfl⟩ rfl rfl rfl
      fun _ queued => queued

private theorem updatePeerStreamTransportParams_effect (op : Op) (params : StreamTransportParams) :
    Effect world op
      { world with
        map := world.map.updatePeerStreamTransportParams params
        granted := params.initialMaxData :: world.granted } :=
  .granted
    ⟨rfl, rfl, rfl,
      (ConcurrencyControl.updatePeerMaxStreams_grows _ _ _).trans
        (ConcurrencyControl.updatePeerMaxStreams_grows _ _ _),
      fun _ closing => closing⟩
    ⟨rfl, rfl, rfl⟩ rfl rfl rfl fun _ queued => queued

theorem received_some {next : World} {outcome : Except Error Unit × StreamMap}
    (processed : world.received outcome = some next) :
    outcome.1 = .ok () ∧ next = { world with map := outcome.2 } := by
  obtain ⟨result, map⟩ := outcome
  cases result with
  | error error => cases processed
  | ok _ =>
    cases processed
    exact ⟨rfl, rfl⟩

private theorem onMaxStreamDataFrameReceived_effect (op : Op) (id maxData : Nat) :
    Effect world op
      { world with map := (world.map.onMaxStreamDataFrameReceived id maxData).2 } := by
  rw [onMaxStreamDataFrameReceived]
  split
  case isTrue => exact .aside (.refl _)
  case isFalse =>
    rcases getOrCreate_cases world.map id false with
      ⟨error, after, opened, quiet, rest, _⟩ | ⟨stream, after, opened, held, rest⟩
    · rw [opened]
      cases error <;> exact .still quiet rest.calm
    · rw [opened]
      obtain ⟨queuedQuiet, flowControl, sendCapacity, queue⟩ :=
        noteSendable_spec
          (after.setStream id { stream with send := stream.send.updateMaxData maxData }) id
          { stream with send := stream.send.updateMaxData maxData } stream.isSendable false
      have set : Held world.map
          (after.setStream id { stream with send := stream.send.updateMaxData maxData }) id stream
          { stream with send := stream.send.updateMaxData maxData } := held.set rfl rfl rfl
      simp only
      generalize marked : (if Stream.isWritable _ = true then _ else _ : StreamMap) = final
      have aside : Aside ((after.setStream id
          { stream with send := stream.send.updateMaxData maxData }).noteSendable id
          { stream with send := stream.send.updateMaxData maxData } stream.isSendable false)
          final := by
        rw [← marked]
        exact .ite (markWritable_aside _ _ _) (.refl _)
      refine .kept ((set.quiet queuedQuiet).quiet aside.quiet) ⟨_, rfl⟩
        ⟨max stream.send.maxData maxData, stream.send.blockedAt, Nat.le_max_left _ _, rfl⟩
        (.of_eq (aside.rest.flowControl.trans (flowControl.trans rest.flowControl)))
        (.of_eq (aside.rest.sendCapacity.trans (sendCapacity.trans rest.sendCapacity))) ?_
      intro other waiting
      refine (queue other ((NoneQueued.of_eq aside.rest.sendable) other waiting)).imp
        ((NoneQueued.of_eq rest.sendable) other) ?_
      simp

private theorem onMaxStreamsFrameReceived_effect (op : Op) (maxStreams : Nat) (bidi : Bool) :
    Effect world op
      { world with map := (world.map.onMaxStreamsFrameReceived maxStreams bidi).2 } := by
  rw [onMaxStreamsFrameReceived]
  split
  · exact .aside (.refl _)
  · exact .still ⟨rfl, rfl, rfl, ConcurrencyControl.updatePeerMaxStreams_grows _ _ _,
      fun _ closing => closing⟩ (SameRest.calm ⟨rfl, rfl, rfl⟩)

private theorem onStreamDataBlockedFrameReceived_effect (op : Op) (id : Nat) :
    Effect world op { world with map := (world.map.onStreamDataBlockedFrameReceived id).2 } := by
  rw [onStreamDataBlockedFrameReceived]
  split <;> exact .aside (.refl _)

private theorem onStreamsBlockedFrameReceived_effect (op : Op) (maxStreams : Nat) :
    Effect world op
      { world with map := (world.map.onStreamsBlockedFrameReceived maxStreams).2 } := by
  rw [onStreamsBlockedFrameReceived]
  split <;> exact .aside (.refl _)

private theorem onStopSendingFrameReceived_effect {id errorCode : Nat} {result : Except Error Unit}
    (processed : world.map.onStopSendingFrameReceived id errorCode = (result, after))
    (success : result = .ok ()) :
    Effect world (.stopSending id errorCode) (world.silence id after) := by
  rw [onStopSendingFrameReceived] at processed
  cases role : !isLocal id world.map.isServer && !isBidi id with
  | true =>
    rw [if_pos role] at processed
    cases processed
    cases success
  | false =>
    rw [if_neg (by simp [role])] at processed
    have sends : isBidi id = true ∨ isLocal id world.map.isServer = true := by
      cases bidi : isBidi id <;> simp_all
    rcases getOrCreate_cases world.map id false with
      ⟨error, middle, opened, quiet, rest, ended⟩ | ⟨stream, middle, opened, held, rest⟩
    · rw [opened] at processed
      cases error with
      | done =>
        cases processed
        exact .stopIgnored (ended rfl).1 (ended rfl).2 quiet rest.calm
      | _ =>
        cases processed
        cases success
    · rw [opened] at processed
      simp only [SendBuf.stop] at processed
      cases stopped : stream.send.error with
      | some code =>
        simp only [stopped, Option.isSome_some, if_true] at processed
        cases processed
        exact .stoppedAgain held (by simp [SendBuf.isStopped, stopped]) rest.calm
      | none =>
        simp only [stopped, Option.isSome_none, Bool.false_eq_true, if_false] at processed
        cases processed
        exact .of_noteReset held rest sends (.stop stopped)
          (.ite (markWritable_aside _ _ _) (.refl _))

private theorem onResetStreamFrameReceived_effect {id errorCode finalSize : Nat}
    (processed : (world.map.onResetStreamFrameReceived id errorCode finalSize).1 = .ok ()) :
    Effect world (.resetStream id errorCode finalSize)
      { world with map := (world.map.onResetStreamFrameReceived id errorCode finalSize).2 } := by
  rw [onResetStreamFrameReceived] at processed ⊢
  split
  case isTrue => exact .aside (.refl _)
  case isFalse role =>
    rw [if_neg role] at processed
    have receives : isBidi id = true ∨ isLocal id world.map.isServer = false := by
      cases bidi : isBidi id <;> simp_all
    rcases getOrCreate_cases world.map id false with
      ⟨error, after, opened, quiet, rest, _⟩ | ⟨stream, after, opened, held, rest⟩
    · rw [opened]
      cases error <;> exact .still quiet rest.calm
    · rw [opened] at processed ⊢
      cases outcome : stream.recv.reset errorCode finalSize with
      | mk result recv =>
        simp only [outcome] at processed ⊢
        cases result with
        | error error => cases processed
        | ok delta =>
          simp only at processed ⊢
          split
          case isTrue exceeded =>
            rw [if_pos exceeded] at processed
            cases processed
          case isFalse fits =>
            have set : Held world.map (after.setStream id { stream with recv }) id stream
                { stream with recv } := held.set rfl rfl rfl
            have aside : Aside (after.setStream id { stream with recv })
                (if !stream.isReadable && Stream.isReadable { stream with recv } then
                  (after.setStream id { stream with recv }).markReadable id true
                else after.setStream id { stream with recv }) :=
              .ite (markReadable_aside _ _ _) (.refl _)
            obtain ⟨closed, touched, same, finished⟩ :=
              closeIfDone_touched (set.quiet aside.quiet)
            have counted := counted_reset (StreamMap.closeIfDone
              (if !stream.isReadable && Stream.isReadable { stream with recv } then
                (after.setStream id { stream with recv }).markReadable id true
              else after.setStream id { stream with recv }) id { stream with recv }) delta
              (finalSize - stream.recv.readOff)
            have rest := (rest.trans (setStream_rest _ _ _)).trans (aside.rest.trans same)
            refine .reset receives (touched.quiet counted.quiet) outcome rfl finished (by omega) ?_ ?_ ?_
              (.of_eq (counted.sendCapacity.trans rest.sendCapacity))
              (.of_eq (counted.sendable.trans rest.sendable))
            · rw [← rest.flowControl]
              exact counted.readOff
            · rw [← rest.flowControl]
              exact counted.recvOff
            · rw [← rest.flowControl]
              exact counted.maxData

private theorem onStreamFrameReceived_effect {id offset : Nat} {data : Bytes} {fin : Bool}
    (processed : (world.map.onStreamFrameReceived id offset data.length fin data).1 = .ok ()) :
    Effect world (.stream id offset data fin)
      { world with map := (world.map.onStreamFrameReceived id offset data.length fin data).2 } := by
  rw [onStreamFrameReceived] at processed ⊢
  split
  case isTrue => exact .aside (.refl _)
  case isFalse role =>
    rw [if_neg role] at processed
    rcases getOrCreate_cases world.map id false with
      ⟨error, after, opened, quiet, rest, _⟩ | ⟨stream, after, opened, held, rest⟩
    · rw [opened]
      cases error <;> exact .still quiet rest.calm
    · rw [opened] at processed ⊢
      simp only at processed ⊢
      split
      case isTrue exceeded =>
        rw [if_pos exceeded] at processed
        cases processed
      case isFalse fits =>
        rw [if_neg fits] at processed
        cases outcome : stream.recv.write offset data fin with
        | error error =>
          simp only [outcome] at processed
          cases processed
        | ok recv =>
          simp only
          have set : Held world.map (after.setStream id { stream with recv }) id stream
              { stream with recv } := held.set rfl rfl rfl
          have counted := counted_received (after.setStream id { stream with recv }) id
            (offset + data.length - stream.recv.recvOff)
            (!stream.isReadable && Stream.isReadable { stream with recv }) stream.isDraining
          have rest := rest.trans (setStream_rest after id { stream with recv })
          refine .received (set.quiet counted.quiet) outcome rfl (by omega) ?_ ?_ ?_
            (.of_eq (counted.sendCapacity.trans rest.sendCapacity))
            (.of_eq (counted.sendable.trans rest.sendable))
          · rw [← rest.flowControl]
            exact counted.readOff
          · rw [← rest.flowControl]
            exact counted.recvOff
          · rw [← rest.flowControl]
            exact counted.maxData

/-! ## Acknowledged and lost frames -/

private theorem onStreamFrameAcked_effect {frame : StreamFrame} (sent : frame ∈ world.sent) :
    Effect world (.streamAcked frame)
      { world with
        map := world.map.onStreamFrameAcked frame.streamId frame.offset frame.length
        acked := frame :: world.acked } := by
  rw [onStreamFrameAcked]
  cases found : world.map.get frame.streamId with
  | none => exact .ackIgnored sent found
  | some stream =>
    have set : Held world.map (world.map.setStream frame.streamId
        { stream with send := stream.send.ackAndDrop frame.offset frame.length }) frame.streamId
        stream { stream with send := stream.send.ackAndDrop frame.offset frame.length } :=
      (Held.of_get found).set rfl rfl rfl
    obtain ⟨closed, touched, rest, finished⟩ := closeIfDone_touched set
    exact .acked sent found touched rfl rfl finished ((setStream_rest _ _ _).trans rest).calm

private theorem onResetStreamFrameAcked_effect (id errorCode finalSize : Nat) :
    Effect world (.resetAcked id errorCode finalSize)
      { world with
        map := world.map.onResetStreamFrameAcked id
        owed := world.owed.filter (· ≠ id) } := by
  rw [onResetStreamFrameAcked]
  cases found : world.map.get id with
  | none => exact .resetAckIgnored found
  | some stream =>
    obtain ⟨closed, touched, rest, _⟩ := closeIfDone_touched (Held.of_get found)
    exact .resetAcked found touched rfl rfl rest.calm

private theorem onStreamFrameLost_effect {frame : StreamFrame} (sent : frame ∈ world.sent) :
    Effect world (.streamLost frame)
      { world with
        map := world.map.onStreamFrameLost frame.streamId frame.offset frame.length
          frame.fin } := by
  rw [onStreamFrameLost]
  cases found : world.map.get frame.streamId with
  | none => exact .aside (.refl _)
  | some stream =>
    have set : Held world.map (world.map.setStream frame.streamId
        { stream with send := stream.send.retransmit frame.offset frame.length }) frame.streamId
        stream { stream with send := stream.send.retransmit frame.offset frame.length } :=
      (Held.of_get found).set rfl rfl rfl
    obtain ⟨quiet, flowControl, sendCapacity, queue⟩ :=
      noteSendable_spec (world.map.setStream frame.streamId
        { stream with send := stream.send.retransmit frame.offset frame.length }) frame.streamId
        { stream with send := stream.send.retransmit frame.offset frame.length }
        stream.isSendable (frame.length = 0 && frame.fin)
    refine .lost sent found (set.quiet quiet) rfl rfl (.of_eq flowControl) (.of_eq sendCapacity) ?_
    intro other waiting
    refine (queue other waiting).imp_right fun cause => ⟨cause.1, cause.2.imp_right ?_⟩
    simp

theorem Effect.aside_ite {world : World} {condition : Prop} [Decidable condition]
    (aside : Aside world.map after) :
    Effect world op { world with map := if condition then after else world.map } :=
  .aside (.ite aside (.refl _))

private theorem onStopSendingFrameLost_effect (op : Op) (id errorCode : Nat) :
    Effect world op { world with map := world.map.onStopSendingFrameLost id errorCode } := by
  rw [onStopSendingFrameLost]
  split
  · exact .aside (.refl _)
  · exact .aside_ite (markStopped_aside _ _ _ _)

private theorem onStreamDataBlockedFrameLost_effect (op : Op) (id blockedAt : Nat) :
    Effect world op { world with map := world.map.onStreamDataBlockedFrameLost id blockedAt } := by
  rw [onStreamDataBlockedFrameLost]
  split
  · exact .aside (.refl _)
  · exact .aside_ite (markBlocked_aside _ _ _ _)

private theorem onDataBlockedFrameLost_effect (op : Op) (maxData : Nat) :
    Effect world op { world with map := world.map.onDataBlockedFrameLost maxData } := by
  rw [onDataBlockedFrameLost]
  split
  · obtain ⟨quiet, calm⟩ := updateDataBlockedAt_quiet world.map (some maxData)
    exact .still quiet calm
  · exact .aside (.refl _)

theorem Effect.limits {world : World} {control : ConcurrencyControl}
    (grows : world.map.concurrencyControl.Grows control) :
    Effect world op { world with map := { world.map with concurrencyControl := control } } :=
  .still ⟨rfl, rfl, rfl, grows, fun _ closing => closing⟩ (SameRest.calm ⟨rfl, rfl, rfl⟩)

private theorem onStreamsBlockedFrameLost_effect (op : Op) (bidi : Bool) (maxStreams : Nat) :
    Effect world op { world with map := world.map.onStreamsBlockedFrameLost bidi maxStreams } := by
  rw [onStreamsBlockedFrameLost]
  split
  · exact .limits (ConcurrencyControl.updateStreamsBlockedAt_grows _ _ _)
  · exact .aside (.refl _)

/-! ## Sending and events -/

variable {srtt : Duration} {now : Instant}

private theorem writeMaxStreamData_effect (op : Op) {id : Nat} {announced : Option Nat}
    (written : world.map.writeMaxStreamData id now srtt = some (announced, after)) :
    Effect world op { world with map := after } := by
  rw [writeMaxStreamData] at written
  split at written
  case isFalse => cases written
  case isTrue =>
    cases found : world.map.get id with
    | none =>
      simp only [found] at written
      cases written
      exact .aside (markAlmostFull_aside _ _ _)
    | some stream =>
      simp only [found] at written
      cases written
      have set : Held world.map
          (world.map.setStream id
            { stream with recv := (stream.recv.autotuneWindow now srtt).updateMaxData now })
          id stream
          { stream with recv := (stream.recv.autotuneWindow now srtt).updateMaxData now } :=
        (Held.of_get found).set rfl rfl rfl
      exact .kept (set.quiet ⟨rfl, rfl, rfl, .refl _, fun _ closing => closing⟩) ⟨_, rfl⟩
        ⟨_, _, le_refl _, rfl⟩ ⟨rfl, rfl, rfl⟩ ⟨rfl, rfl, rfl⟩ fun _ queued => .inl queued

private theorem tuneMaxStreamData_effect (op : Op) {id : Nat}
    (tuned : world.map.tuneMaxStreamData id now srtt = some after) :
    Effect world op { world with map := after } := by
  obtain ⟨_, tuned⟩ := Option.ite_none_right_eq_some.mp tuned
  obtain ⟨stream, found, rfl⟩ := Option.map_eq_some_iff.mp tuned
  exact .kept ((Held.of_get found).set rfl rfl rfl) ⟨_, rfl⟩ ⟨_, _, le_refl _, rfl⟩
    ⟨rfl, rfl, rfl⟩ ⟨rfl, rfl, rfl⟩ fun _ queued => .inl queued

theorem autotuneWindow_spec (control : FlowControl) (now : Instant) (srtt : Duration) :
    (control.autotuneWindow now srtt).readOff = control.readOff ∧
      (control.autotuneWindow now srtt).recvOff = control.recvOff ∧
      (control.autotuneWindow now srtt).maxData = control.maxData := by
  rw [FlowControl.autotuneWindow]
  split
  · exact ⟨rfl, rfl, rfl⟩
  · split <;> exact ⟨rfl, rfl, rfl⟩

private theorem tuneMaxData_effect (op : Op) (tuned : world.map.tuneMaxData now srtt = some after) :
    Effect world op { world with map := after } := by
  obtain ⟨_, same⟩ := Option.ite_none_right_eq_some.mp tuned
  cases same
  obtain ⟨readOff, recvOff, maxData⟩ := autotuneWindow_spec world.map.flowControl now srtt
  exact .still ⟨rfl, rfl, rfl, .refl _, fun _ closing => closing⟩
    ⟨⟨readOff, recvOff, maxData⟩, ⟨rfl, rfl, rfl⟩, fun _ queued => queued⟩

private theorem writeMaxData_effect {announced : Nat}
    (written : world.map.writeMaxData now srtt = some (announced, after)) :
    Effect world (.sendMaxData now srtt) { world with map := after } := by
  rw [writeMaxData] at written
  split at written
  case isFalse => cases written
  case isTrue due =>
    cases written
    obtain ⟨readOff, recvOff, _⟩ := autotuneWindow_spec world.map.flowControl now srtt
    refine .advertised ⟨rfl, rfl, rfl, .refl _, fun _ closing => closing⟩ readOff recvOff ?_
      ⟨rfl, rfl, rfl⟩ fun _ queued => queued
    intro grown
    have behind : world.map.flowControl.maxData < world.map.flowControl.maxDataNext :=
      of_decide_eq_true (Bool.and_eq_true_iff.mp due).2
    simp only [FlowControl.updateMaxData, FlowControl.maxDataNext] at behind ⊢
    omega

private theorem processEvent_effect (processed : world.map.processEvent = some after) :
    Effect world .event { world with map := after } := by
  rw [processEvent] at processed
  split at processed
  case h_2 => cases processed
  case h_1 event rest events =>
    have earlier : ∀ map : StreamMap, map.events = some rest → ∀ other,
        map.Closing other → world.map.Closing other := by
      intro map same other closing
      obtain ⟨list, found, member⟩ := closing
      rw [same, Option.some.injEq] at found
      exact ⟨_, events, List.mem_cons_of_mem _ (found ▸ member)⟩
    cases event with
    | streamCreated id =>
      cases processed
      exact .still ⟨rfl, rfl, rfl, .refl _, earlier _ rfl⟩ (SameRest.calm ⟨rfl, rfl, rfl⟩)
    | streamClosed id =>
      cases processed
      cases found : world.map.get id with
      | none =>
        have same : ({ world.map with events := some rest }).streamDestroy id =
            { world.map with events := some rest } := by
          rw [streamDestroy]
          simp only [StreamMap.get] at found ⊢
          rw [found]
        rw [same]
        exact .still ⟨rfl, rfl, rfl, .refl _, earlier _ rfl⟩ (SameRest.calm ⟨rfl, rfl, rfl⟩)
      | some stream =>
        rw [@streamDestroy_spec { world.map with events := some rest } id stream found]
        exact .destroyed found ⟨_, events, List.mem_cons_self⟩ rfl rfl rfl rfl (earlier _ rfl)
          (SameRest.calm ⟨rfl, rfl, rfl⟩)

/-! ## All steps -/

/-- Every step of the streams has one of the listed effects. -/
theorem step_effect {next : World} (stepped : world.step op = some next) :
    Effect world op next := by
  cases op with
  | setPriority id urgency incremental =>
    cases stepped
    exact streamSetPriority_effect world _ id urgency incremental
  | bidiNew urgency incremental =>
    cases stepped
    exact streamBidiNew_effect world _ urgency incremental
  | uniNew urgency incremental =>
    cases stepped
    exact streamUniNew_effect world _ urgency incremental
  | read id outLen =>
    cases stepped
    exact streamRead_effect world id outLen
  | write id buf fin =>
    cases stepped
    exact streamWrite_effect world id buf fin
  | shutdownRead id errorCode =>
    cases stepped
    exact shutdownRead_effect world id errorCode
  | shutdownWrite id errorCode =>
    obtain ⟨other, taken, effect⟩ := shutdownWrite_effect world id errorCode
    rw [taken] at stepped
    cases stepped
    exact effect
  | writable id len =>
    cases stepped
    exact streamWritable_effect world _ id len
  | wantRead id want =>
    cases stepped
    exact want_effect world _ id fun _ _ => markWantread_sameUse
  | wantWrite id want =>
    cases stepped
    exact want_effect world _ id fun _ _ => markWantwrite_sameUse
  | setContext id =>
    cases stepped
    exact streamSetContext_effect world _ id
  | peerParams params =>
    cases stepped
    exact updatePeerStreamTransportParams_effect world _ params
  | maxData maxData =>
    cases stepped
    exact onMaxDataFrameReceived_effect world _ maxData
  | maxStreamData id maxData =>
    obtain ⟨_, rfl⟩ := received_some world stepped
    exact onMaxStreamDataFrameReceived_effect world _ id maxData
  | maxStreams maxStreams bidi =>
    obtain ⟨_, rfl⟩ := received_some world stepped
    exact onMaxStreamsFrameReceived_effect world _ maxStreams bidi
  | streamDataBlocked id =>
    obtain ⟨_, rfl⟩ := received_some world stepped
    exact onStreamDataBlockedFrameReceived_effect world _ id
  | streamsBlocked maxStreams =>
    obtain ⟨_, rfl⟩ := received_some world stepped
    exact onStreamsBlockedFrameReceived_effect world _ maxStreams
  | resetStream id errorCode finalSize =>
    obtain ⟨processed, rfl⟩ := received_some world stepped
    exact onResetStreamFrameReceived_effect world processed
  | stopSending id errorCode =>
    simp only [step] at stepped
    split at stepped
    case h_1 processed =>
      cases stepped
      exact onStopSendingFrameReceived_effect world processed rfl
    case h_2 => cases stepped
  | stream id offset data fin =>
    obtain ⟨processed, rfl⟩ := received_some world stepped
    exact onStreamFrameReceived_effect world processed
  | streamAcked frame =>
    obtain ⟨sent, same⟩ := Option.ite_none_right_eq_some.mp stepped
    cases same
    exact onStreamFrameAcked_effect world sent
  | streamLost frame =>
    obtain ⟨sent, same⟩ := Option.ite_none_right_eq_some.mp stepped
    cases same
    exact onStreamFrameLost_effect world sent
  | resetAcked id errorCode finalSize =>
    obtain ⟨_, same⟩ := Option.ite_none_right_eq_some.mp stepped
    cases same
    exact onResetStreamFrameAcked_effect world id errorCode finalSize
  | resetLost id errorCode finalSize =>
    obtain ⟨_, same⟩ := Option.ite_none_right_eq_some.mp stepped
    cases same
    exact .aside_ite (markReset_aside _ _ _ _ _)
  | stopSendingLost id errorCode =>
    cases stepped
    exact onStopSendingFrameLost_effect world _ id errorCode
  | maxStreamDataLost id =>
    cases stepped
    exact .aside_ite (markAlmostFull_aside _ _ _)
  | maxDataLost =>
    cases stepped
    exact .aside (.of_eq rfl rfl rfl rfl rfl ⟨rfl, rfl, rfl⟩)
  | streamDataBlockedLost id blockedAt =>
    cases stepped
    exact onStreamDataBlockedFrameLost_effect world _ id blockedAt
  | dataBlockedLost maxData =>
    cases stepped
    exact onDataBlockedFrameLost_effect world _ maxData
  | streamsBlockedLost bidi maxStreams =>
    cases stepped
    exact onStreamsBlockedFrameLost_effect world _ bidi maxStreams
  | sendStreams outLen =>
    obtain ⟨⟨frames, after⟩, written, rfl⟩ := Option.map_eq_some_iff.mp stepped
    exact .sent (tryWriteStreamFrames_emits written)
  | sendReset id =>
    obtain ⟨_, written, rfl⟩ := Option.map_eq_some_iff.mp stepped
    obtain ⟨reset, _, rfl⟩ := Option.map_eq_some_iff.mp written
    have aside := markReset_aside world.map id false 0 0
    exact .resetSent aside.quiet aside.rest.calm
  | sendStopSending id =>
    obtain ⟨_, written, rfl⟩ := Option.map_eq_some_iff.mp stepped
    obtain ⟨_, _, rfl⟩ := Option.map_eq_some_iff.mp written
    exact .aside (markStopped_aside _ _ _ _)
  | sendStreamDataBlocked id =>
    obtain ⟨_, written, rfl⟩ := Option.map_eq_some_iff.mp stepped
    obtain ⟨_, _, rfl⟩ := Option.map_eq_some_iff.mp written
    exact .aside (markBlocked_aside _ _ _ _)
  | sendDataBlocked =>
    obtain ⟨_, written, rfl⟩ := Option.map_eq_some_iff.mp stepped
    obtain ⟨_, _, rfl⟩ := Option.map_eq_some_iff.mp written
    obtain ⟨quiet, calm⟩ := updateDataBlockedAt_quiet world.map none
    exact .still quiet calm
  | sendStreamsBlocked bidi =>
    obtain ⟨_, written, rfl⟩ := Option.map_eq_some_iff.mp stepped
    obtain ⟨_, _, rfl⟩ := Option.map_eq_some_iff.mp written
    exact .limits (ConcurrencyControl.updateStreamsBlockedAt_grows _ _ _)
  | sendMaxStreams bidi =>
    obtain ⟨⟨_, after⟩, written, rfl⟩ := Option.map_eq_some_iff.mp stepped
    obtain ⟨_, same⟩ := Option.ite_none_right_eq_some.mp written
    cases same
    exact .limits (ConcurrencyControl.updateLocalMaxStreams_grows _ _)
  | sendMaxStreamData id now srtt =>
    obtain ⟨⟨_, after⟩, written, rfl⟩ := Option.map_eq_some_iff.mp stepped
    exact writeMaxStreamData_effect world _ written
  | sendMaxData now srtt =>
    obtain ⟨⟨_, after⟩, written, rfl⟩ := Option.map_eq_some_iff.mp stepped
    exact writeMaxData_effect world written
  | tuneMaxStreamData id now srtt =>
    obtain ⟨after, tuned, rfl⟩ := Option.map_eq_some_iff.mp stepped
    exact tuneMaxStreamData_effect world _ tuned
  | tuneMaxData now srtt =>
    obtain ⟨after, tuned, rfl⟩ := Option.map_eq_some_iff.mp stepped
    exact tuneMaxData_effect world _ tuned
  | event =>
    obtain ⟨after, processed, rfl⟩ := Option.map_eq_some_iff.mp stepped
    exact processEvent_effect world processed

end World

end Tquic.Connection
