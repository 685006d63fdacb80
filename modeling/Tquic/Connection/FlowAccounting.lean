import Tquic.Connection.StreamInvariants

/-! Accounting of the connection over all streams that were ever opened: bytes accepted for
sending against the limit of the peer, and bytes received and consumed against the limit
that was advertised. -/

set_option autoImplicit false

namespace Tquic.Connection

open Lib

namespace StreamMap

def total (map : StreamMap) (measure : Stream → Nat) : Nat :=
  map.streams.total (fun entry => measure entry.2) +
    (map.destroyed.map fun entry => measure entry.2).sum

variable {before after : StreamMap} {id : Nat} {old new : Stream}

theorem Quiet.total (quiet : Quiet before after) (measure : Stream → Nat) :
    after.total measure = before.total measure := by
  rw [StreamMap.total, quiet.streams, quiet.destroyed, StreamMap.total]

/-- A sum over the streams changes by what the touched stream does. -/
theorem Touched.total (touched : Touched before after id old new) (measure : Stream → Nat)
    (fresh : before.get id = none → Fresh before.isServer id old → measure old = 0) :
    after.total measure + measure old = before.total measure + measure new := by
  simp only [StreamMap.total]
  rcases touched.opened with found | ⟨missing, _, created⟩
  · rcases touched.streams with ⟨streams, destroyed⟩ | ⟨streams, destroyed⟩
    · have replaced := OrdMap.total_insert (fun entry => measure entry.2) new found
      simp only [streams, destroyed] at replaced ⊢
      omega
    · have removed := OrdMap.total_erase (fun entry => measure entry.2) found
      simp only [streams, destroyed, List.map_cons, List.sum_cons] at removed ⊢
      omega
  · have nothing := fresh missing created
    rcases touched.streams with ⟨streams, destroyed⟩ | ⟨streams, destroyed⟩
    · have added := OrdMap.total_insert_fresh (fun entry => measure entry.2) new missing
      simp only [streams, destroyed] at added ⊢
      omega
    · simp only [streams, destroyed, List.map_cons, List.sum_cons, OrdMap.erase_of_get?_none missing]
      omega

private theorem total_le {map : StreamMap} {left right : Stream → Nat}
    (every : map.Every fun _ stream => left stream ≤ right stream) :
    map.total left ≤ map.total right := by
  apply Nat.add_le_add
  · exact OrdMap.total_le_total fun entry member =>
      every.live entry.1 entry.2 (OrdMap.get?_eq_some_iff.mpr member)
  · exact List.sum_le_sum every.gone

theorem le_total {map : StreamMap} {stream : Stream} (found : map.get id = some stream)
    (measure : Stream → Nat) : measure stream ≤ map.total measure := by
  have removed := OrdMap.total_erase (fun entry => measure entry.2) found
  simp only [StreamMap.total] at removed ⊢
  omega

theorem Emits.total {sent frames : List StreamFrame} (valid : before.Valid sent)
    (emits : Emits before frames after) {measure : Stream → Nat}
    (same : ∀ (stream : Stream) (send : SendBuf), stream.send.SameEnd send →
      measure { stream with send } = measure stream) :
    after.total measure = before.total measure := by
  induction emits generalizing sent with
  | done => rfl
  | requeue requeue _ ih =>
    rw [ih (valid.quiet requeue.quiet), requeue.quiet.total]
  | frame _ found _ handed _ ih =>
    obtain ⟨written, held, ends, _⟩ := valid.frame found handed
    have exchanged := (Touched.held held).total measure fun missing => by
      rw [found] at missing
      cases missing
    rw [same _ _ ends] at exchanged
    rw [ih written]
    omega

theorem total_destroyed {stream : Stream} (found : before.get id = some stream)
    (streams : after.streams = before.streams.erase id)
    (destroyed : after.destroyed = (id, stream) :: before.destroyed) (measure : Stream → Nat) :
    after.total measure = before.total measure := by
  have removed := OrdMap.total_erase (fun entry => measure entry.2) found
  simp only [total, streams, destroyed, List.map_cons, List.sum_cons] at removed ⊢
  omega

end StreamMap

namespace World

open StreamMap

/-! ## Sending -/

def accepted (stream : Stream) : Nat := stream.send.writeOff

structure Charged (world : World) : Prop where
  txData : world.map.sendCapacity.txData = world.map.total accepted
  limit : world.map.sendCapacity.maxData = world.granted.foldr max 0
  bound : world.map.sendCapacity.txData ≤ world.map.sendCapacity.maxData
  capacity : world.map.sendCapacity.capacity =
    world.map.sendCapacity.maxData - world.map.sendCapacity.txData

theorem accepted_fresh {isServer : Bool} {id : Nat} {stream : Stream}
    (fresh : Fresh isServer id stream) : accepted stream = 0 := by
  obtain ⟨_, _, _, rfl⟩ := fresh
  rfl

theorem accepted_le {map : StreamMap} {id : Nat} {stream : Stream}
    (opened : map.Opened id stream) : stream.send.writeOff ≤ map.total accepted := by
  rcases opened with found | ⟨_, _, fresh⟩
  · exact le_total found accepted
  · exact (accepted_fresh fresh).le.trans (Nat.zero_le _)

theorem Charged.same {world next : World} (charged : world.Charged)
    (credit : SameCredit world.map next.map) (granted : next.granted = world.granted)
    (total : next.map.total accepted = world.map.total accepted) : next.Charged := by
  obtain ⟨txData, limit, bound, capacity⟩ := charged
  constructor
  · rw [credit.txData, txData, total]
  · rw [credit.maxData, limit, granted]
  · rw [credit.txData, credit.maxData]
    exact bound
  · rw [credit.capacity, capacity, credit.maxData, credit.txData]

theorem Charged.step {world next : World} {op : Op} (valid : world.Valid)
    (charged : world.Charged) (effect : Effect world op next) : next.Charged := by
  have exchanged {after : StreamMap} {id : Nat} {old new : Stream}
      (touched : Touched world.map after id old new) :
      after.total accepted + old.send.writeOff = world.map.total accepted + new.send.writeOff :=
    touched.total accepted fun _ fresh => accepted_fresh fresh
  have unchanged {after : StreamMap} {id : Nat} {old new : Stream}
      (touched : Touched world.map after id old new)
      (send : new.send.writeOff = old.send.writeOff) :
      after.total accepted = world.map.total accepted := by
    have := exchanged touched
    omega
  cases effect with
  | still quiet calm => exact charged.same calm.credit rfl (quiet.total _)
  | kept held _ send _ credit _ =>
    obtain ⟨_, _, _, send⟩ := send
    exact charged.same credit rfl (unchanged (.held held) (by rw [send]))
  | read _ _ _ touched _ send _ _ _ credit _ =>
    exact charged.same credit rfl (unchanged touched (by rw [send]))
  | written _ held _ wrote send fits _ _ limit txData capacity _ =>
    obtain ⟨_, send⟩ := send
    have opened := valid.opened (Touched.held held).opened
    obtain ⟨_, writeOff, count, _⟩ := opened.send.write wrote
    have total := exchanged (.held held)
    have within := charged.capacity
    have bound := charged.bound
    have before := charged.txData
    rw [send] at total
    simp only at total
    refine ⟨?_, limit.trans charged.limit, ?_, ?_⟩ <;> simp only [limit, txData, capacity] <;> omega
  | readShut _ held _ _ send _ _ _ credit _ =>
    exact charged.same credit rfl (unchanged (.held held) (by rw [send]))
  | @cut _ _ _ after old new cause _ held _ _ limit txData capacity _ =>
    have sound := (valid.opened (Touched.held held).opened).send
    have sent := sound.unsentOff_le
    have writeOff : new.send.writeOff = old.send.unsentOff := by
      generalize new.send = send at cause
      cases cause <;> rfl
    have unsent : old.send.reset.1.2 = old.send.writeOff - old.send.unsentOff := rfl
    have total := exchanged (.held held)
    have bound := charged.bound
    have before := charged.txData
    have part : old.send.writeOff ≤ world.map.total accepted := accepted_le held.opened
    refine ⟨?_, limit.trans charged.limit, ?_, capacity⟩
    · simp only [silence, txData]
      omega
    · simp only [silence, txData, limit]
      omega
  | stoppedAgain held _ calm => exact charged.same calm.credit rfl (unchanged (.held held) rfl)
  | stopIgnored _ _ quiet calm => exact charged.same calm.credit rfl (quiet.total _)
  | granted quiet _ maxData txData capacity _ =>
    have bound := charged.bound
    refine ⟨?_, ?_, ?_, capacity⟩
    · simp only [txData, charged.txData, quiet.total]
    · simp only [maxData, charged.limit, List.foldr_cons, Nat.max_comm]
    · simp only [txData, maxData]
      omega
  | reset _ touched _ send _ _ _ _ _ credit _ =>
    exact charged.same credit rfl (unchanged touched (by rw [send]))
  | received held _ send _ _ _ _ credit _ =>
    exact charged.same credit rfl (unchanged (.held held) (by rw [send]))
  | acked sent found touched _ send _ calm =>
    obtain ⟨_, ends, _⟩ := (valid.streams.live _ _ found).send.ackAndDrop
      fun running => valid.within _ _ found running _ sent rfl
    exact charged.same calm.credit rfl (unchanged touched (by rw [send, ends.writeOff]))
  | ackIgnored _ _ => exact ⟨charged.1, charged.2, charged.3, charged.4⟩
  | resetAcked _ touched _ send calm =>
    exact charged.same calm.credit rfl (unchanged touched (by rw [send]))
  | resetAckIgnored _ => exact ⟨charged.1, charged.2, charged.3, charged.4⟩
  | lost sent found held _ send _ credit _ =>
    obtain ⟨_, ends, _⟩ := (valid.streams.live _ _ found).send.retransmit
      fun running => valid.within _ _ found running _ sent rfl
    exact charged.same credit rfl (unchanged (.held held) (by rw [send, ends.writeOff]))
  | sent emits =>
    exact charged.same emits.calm.credit rfl (emits.total valid fun _ _ ends => ends.writeOff)
  | resetSent quiet calm => exact charged.same calm.credit rfl (quiet.total _)
  | advertised quiet _ _ _ credit _ => exact charged.same credit rfl (quiet.total _)
  | destroyed found _ _ streams destroyed _ _ calm =>
    exact charged.same calm.credit rfl (total_destroyed found streams destroyed _)

/-- Send-side flow control is respected in every reachable state, and no subtraction of its
counters is cut off at zero. -/
theorem send_credit_respected (world : World) (reached : Reachable anyStep world) :
    -- The bytes accepted on all streams ever opened; a reset stream counts to its final size.
    world.map.sendCapacity.txData = world.map.total accepted ∧
    world.map.Every (fun _ stream => ¬ stream.send.Running →
      stream.send.finOff = some (accepted stream)) ∧
    -- The limits of the connection and of every stream.
    world.map.sendCapacity.txData ≤ world.granted.foldr max 0 ∧
    world.map.Every (fun _ stream => stream.send.writeOff ≤ stream.send.maxData) ∧
    -- The cached capacity.
    world.map.sendCapacity.capacity + world.map.sendCapacity.txData =
      world.map.sendCapacity.maxData ∧
    -- Bytes given back by a reset, and bytes taken by a write.
    (∀ id stream, world.map.Opened id stream →
      stream.send.unsentOff ≤ stream.send.writeOff ∧
      stream.send.reset.1.2 ≤ world.map.sendCapacity.txData ∧
      ∀ (buf : Bytes) fin count send,
        stream.send.write (buf.take world.map.sendCapacity.capacity) fin = .ok (count, send) →
        count ≤ world.map.sendCapacity.capacity ∧
        stream.send.writeOff + count ≤ stream.send.maxData) := by
  obtain ⟨valid, charged⟩ := reached.invariant (fun _ _ _ _ _ => ⟨rfl, rfl, le_refl _, rfl⟩)
    fun valid charged _ effect => Charged.step valid charged effect
  have bound := charged.bound
  have capacity := charged.capacity
  refine ⟨charged.txData, ?_, charged.limit ▸ bound, ?_, by omega, ?_⟩
  · have reset : ∀ stream : Stream, stream.send.Sound → ¬ stream.send.Running →
        stream.send.finOff = some (accepted stream) := by
      intro stream sound stopped
      cases sound with
      | running _ running _ => exact absurd running stopped
      | truncated _ truncated => exact truncated.finOff
    exact ⟨fun id stream found => reset stream (valid.streams.live id stream found).send,
      fun entry member => reset entry.2 (valid.streams.gone entry member).send⟩
  · exact ⟨fun id stream found => (valid.streams.live id stream found).send.writeOff_le,
      fun entry member => (valid.streams.gone entry member).send.writeOff_le⟩
  · intro id stream opened
    have sound := (valid.opened opened).send
    have part := accepted_le opened
    have unsent : stream.send.reset.1.2 = stream.send.writeOff - stream.send.unsentOff := rfl
    refine ⟨sound.unsentOff_le, by rw [charged.txData]; omega, ?_⟩
    intro buf fin count send wrote
    obtain ⟨_, writeOff, taken, _⟩ := sound.write wrote
    have spec := SendBuf.write_spec wrote
    have credit := sound.writeOff_le
    have short := List.length_take_le world.map.sendCapacity.capacity buf
    have fits := spec.count
    omega

/-- A client writes to a stream, sends a part, resets the stream and gets more credit. -/
theorem send_credit_respected_reset :
    ∃ world, Reachable anyStep world ∧ world.map.total accepted = 15 ∧
      world.granted.foldr max 0 = 40 := by
  have executed : (exec step (.new false 100 100 {} false)
      [.peerParams { initialMaxData := 30, initialMaxStreamDataUni := 20, initialMaxStreamsUni := 1 },
        .write 2 (List.replicate 18 0) true, .sendStreams 20, .shutdownWrite 2 7, .maxData 40]).map
      (fun world => (world.map.sendCapacity.txData, world.granted.foldr max 0)) = some (15, 40) := by
    decide +kernel
  obtain ⟨world, run, same⟩ := Option.map_eq_some_iff.mp executed
  obtain ⟨txData, granted⟩ := Prod.mk.inj same
  have reached : Reachable anyStep world := ⟨_, _, _, _, _, .of_exec run⟩
  have result := send_credit_respected world reached
  exact ⟨world, reached, result.1 ▸ txData, granted⟩

/-! ## Receiving -/

/-- Bytes of a stream that were read or discarded. After a shutdown everything that arrives
is discarded. -/
def consumed (stream : Stream) : Nat :=
  if stream.recv.shutdownFlag then stream.recv.recvOff else stream.recv.readOff

/-- The highest offset received on a stream, or its final size. -/
def highest (stream : Stream) : Nat := stream.recv.recvOff

/-- Received and consumed bytes are counted on the connection. -/
structure Metered (world : World) : Prop where
  recvOff : world.map.flowControl.recvOff = world.map.total highest
  readOff : world.map.flowControl.readOff = world.map.total consumed
  bound : world.map.flowControl.recvOff ≤ world.map.flowControl.maxData

/-- An empty frame counts no byte that is not recorded on its stream, a stream that was shut
down is not reset while bytes that arrived later are not marked as read, and the window is
not cut down when a MAX_DATA frame is sent. -/
def CountsOnce (world : World) : Op → Prop
  | .stream id offset data fin => data = [] → fin = false →
      ∀ stream, world.map.Opened id stream → offset ≤ stream.recv.recvOff
  | .resetStream id _ _ => ∀ stream, world.map.get id = some stream →
      stream.recv.shutdownFlag = true → stream.recv.readOff = stream.recv.recvOff
  | .sendMaxData now srtt =>
    world.map.flowControl.window ≤ (world.map.flowControl.autotuneWindow now srtt).window
  | _ => True

theorem Metered.same {world next : World} (metered : world.Metered)
    (flow : SameFlow world.map next.map)
    (received : next.map.total highest = world.map.total highest)
    (taken : next.map.total consumed = world.map.total consumed) : next.Metered := by
  constructor
  · rw [flow.recvOff, metered.recvOff, received]
  · rw [flow.readOff, metered.readOff, taken]
  · rw [flow.recvOff, flow.maxData]
    exact metered.bound

theorem Metered.moved {world : World} {after : StreamMap} (metered : world.Metered)
    (received : after.flowControl.recvOff + world.map.total highest =
      world.map.flowControl.recvOff + after.total highest)
    (taken : after.flowControl.readOff + world.map.total consumed =
      world.map.flowControl.readOff + after.total consumed)
    (bound : after.flowControl.recvOff ≤ after.flowControl.maxData) :
    Metered { world with map := after } := by
  have recvOff := metered.recvOff
  have readOff := metered.readOff
  refine ⟨?_, ?_, bound⟩
  · simp only
    omega
  · simp only
    omega

section Streams

variable {world next : World} {after : StreamMap} {id : Nat} {old new : Stream}

theorem Touched.metered (touched : Touched world.map after id old new) :
    after.total highest + highest old = world.map.total highest + highest new ∧
      after.total consumed + consumed old = world.map.total consumed + consumed new := by
  constructor
  · refine touched.total highest fun _ fresh => ?_
    obtain ⟨_, _, _, rfl⟩ := fresh
    rfl
  · refine touched.total consumed fun _ fresh => ?_
    obtain ⟨_, _, _, rfl⟩ := fresh
    rfl

/-- A stream on which nothing arrives and nothing is read. -/
theorem Metered.kept (metered : world.Metered) (touched : Touched world.map next.map id old new)
    (received : highest new = highest old) (taken : consumed new = consumed old)
    (flow : SameFlow world.map next.map) : next.Metered := by
  obtain ⟨total, used⟩ := Touched.metered touched
  exact metered.same flow (by omega) (by omega)

theorem Metered.sameRecv (metered : world.Metered) (touched : Touched world.map next.map id old new)
    (recv : new.recv = old.recv) (flow : SameFlow world.map next.map) : next.Metered :=
  metered.kept touched (by rw [highest, recv, highest]) (by rw [consumed, recv, consumed]) flow

private theorem read_delivered {recv : RecvBuf} (valid : recv.Valid) (outLen : Nat) :
    (recv.read outLen).2.readOff = recv.readOff + readLen (recv.read outLen).1 := by
  rcases RecvBuf.read_cases valid.ordered outLen with
    ⟨_, same⟩ | ⟨_, _, _, same⟩ | ⟨_, _, bytes, after, drained, same⟩
  · rw [same]
    rfl
  · rw [same]
    rfl
  · rw [same]
    exact drained.copied.readOff

theorem Metered.read (metered : world.Metered) (valid : old.recv.Valid)
    (touched : Touched world.map after id old new) {outLen : Nat} (ready : old.recv.ready = true)
    (recv : new.recv = (old.recv.read outLen).2) (readOff : after.flowControl.readOff =
      world.map.flowControl.readOff + readLen (old.recv.read outLen).1)
    (recvOff : after.flowControl.recvOff = world.map.flowControl.recvOff)
    (maxData : after.flowControl.maxData = world.map.flowControl.maxData) :
    Metered { world with map := after } := by
  obtain ⟨_, sameRecv, sameFlag⟩ := valid.read outLen
  have flag : old.recv.shutdownFlag = false := by
    by_contra shut
    rw [valid.not_ready (by simpa using shut)] at ready
    cases ready
  obtain ⟨total, used⟩ := Touched.metered touched
  simp only [highest, consumed, recv, sameRecv, sameFlag, flag, read_delivered valid] at total used
  simp only [Bool.false_eq_true, if_false] at used
  have bound := metered.bound
  exact metered.moved (by omega) (by omega) (by omega)

theorem Metered.readShut (metered : world.Metered) (valid : old.recv.Valid)
    (touched : Touched world.map after id old new) (first : old.recv.shutdownFlag = false)
    (recv : new.recv = old.recv.shutdown.2) (readOff : after.flowControl.readOff =
      world.map.flowControl.readOff + (old.recv.recvOff - old.recv.readOff))
    (recvOff : after.flowControl.recvOff = world.map.flowControl.recvOff)
    (maxData : after.flowControl.maxData = world.map.flowControl.maxData) :
    Metered { world with map := after } := by
  have readBound := valid.ordered.readBound
  obtain ⟨_, sameRecv, flag⟩ := valid.shutdown first
  obtain ⟨total, used⟩ := Touched.metered touched
  simp only [highest, consumed, recv, sameRecv, first, flag, if_true, Bool.false_eq_true,
    if_false] at total used
  have bound := metered.bound
  exact metered.moved (by omega) (by omega) (by omega)

/-- A reset counts the bytes up to the final size as received and consumed. -/
theorem Metered.reset (metered : world.Metered) (valid : old.recv.Valid)
    (touched : Touched world.map after id old new) {errorCode finalSize delta : Nat}
    (outcome : old.recv.reset errorCode finalSize = (.ok delta, new.recv))
    (marked : old.recv.shutdownFlag = true → old.recv.readOff = old.recv.recvOff)
    (fits : delta ≤ world.map.maxRxDataLeft) (readOff : after.flowControl.readOff =
      world.map.flowControl.readOff + (finalSize - old.recv.readOff))
    (recvOff : after.flowControl.recvOff = world.map.flowControl.recvOff + delta)
    (maxData : after.flowControl.maxData = world.map.flowControl.maxData) :
    Metered { world with map := after } := by
  have readBound := valid.ordered.readBound
  have spec := valid.reset outcome
  have size := spec.bound
  have added := spec.delta
  have before : consumed old = old.recv.readOff := by
    rw [consumed]
    split
    case isFalse => rfl
    case isTrue shut => exact (marked shut).symm
  have complete : consumed new = finalSize := by
    rw [consumed]
    split
    · exact spec.recvOff
    · exact spec.readOff
  obtain ⟨total, used⟩ := Touched.metered touched
  have bound := metered.bound
  simp only [before, complete, highest, spec.recvOff] at total used
  simp only [maxRxDataLeft] at fits
  exact metered.moved (by omega) (by omega) (by omega)

/-- A frame counts the bytes beyond the largest offset, on a stream that was shut down as consumed
too. -/
theorem Metered.received (metered : world.Metered) (valid : old.recv.Valid)
    (touched : Touched world.map after id old new) {offset : Nat} {data : Bytes} {fin : Bool}
    (outcome : old.recv.write offset data fin = .ok new.recv)
    (counted : data = [] → fin = false → offset ≤ old.recv.recvOff)
    (fits : offset + data.length - old.recv.recvOff ≤ world.map.maxRxDataLeft)
    (readOff : after.flowControl.readOff = world.map.flowControl.readOff +
      if old.recv.shutdownFlag then offset + data.length - old.recv.recvOff else 0)
    (recvOff : after.flowControl.recvOff =
      world.map.flowControl.recvOff + (offset + data.length - old.recv.recvOff))
    (maxData : after.flowControl.maxData = world.map.flowControl.maxData) :
    Metered { world with map := after } := by
  have spec := RecvBuf.write_spec valid.ordered outcome
  have grown : new.recv.recvOff =
      old.recv.recvOff + (offset + data.length - old.recv.recvOff) := by
    rw [spec.recvOff]
    split
    case isTrue ignored =>
      have low := counted ignored.1 ignored.2
      rw [ignored.1, List.length_nil]
      omega
    case isFalse => omega
  obtain ⟨total, used⟩ := Touched.metered touched
  have bound := metered.bound
  simp only [highest, consumed, spec.shutdownFlag, spec.readOff, grown] at total used
  simp only [maxRxDataLeft] at fits
  refine metered.moved (by omega) ?_ (by omega)
  cases flag : old.recv.shutdownFlag with
  | false =>
    simp only [flag, Bool.false_eq_true, if_false] at used readOff
    omega
  | true =>
    simp only [flag, if_true] at used readOff
    omega

end Streams

/-- The counters stay sums over the streams while each byte counts once. -/
theorem Metered.step {world next : World} {op : Op} (valid : world.Valid)
    (metered : world.Metered) (allowed : CountsOnce world op)
    (effect : Effect world op next) : next.Metered := by
  cases effect with
  | still quiet calm => exact metered.same calm.flow (quiet.total _) (quiet.total _)
  | kept held recv _ flow _ _ =>
    obtain ⟨_, recv⟩ := recv
    exact metered.kept (.held held) (by rw [highest, recv, highest])
      (by rw [consumed, recv, consumed]) flow
  | read _ _ ready touched recv _ readOff recvOff maxData _ _ =>
    exact metered.read (valid.opened touched.opened).recv touched ready recv readOff recvOff
      maxData
  | written _ held recv _ _ _ _ flow _ _ _ _ => exact metered.sameRecv (.held held) recv flow
  | readShut found held first recv _ readOff recvOff maxData _ _ =>
    exact metered.readShut (valid.streams.live _ _ found).recv (.held held) first recv readOff
      recvOff maxData
  | cut _ _ held recv flow _ _ _ _ => exact metered.sameRecv (.held held) recv flow
  | stoppedAgain held _ calm => exact metered.sameRecv (.held held) rfl calm.flow
  | stopIgnored _ _ quiet calm => exact metered.same calm.flow (quiet.total _) (quiet.total _)
  | granted quiet flow _ _ _ _ => exact metered.same flow (quiet.total _) (quiet.total _)
  | reset _ touched outcome _ _ fits readOff recvOff maxData _ _ =>
    refine metered.reset (valid.opened touched.opened).recv touched outcome (fun shut => ?_) fits
      readOff recvOff maxData
    rcases touched.opened with found | ⟨_, _, _, _, _, rfl⟩
    · exact allowed _ found shut
    · cases shut
  | received held outcome _ fits readOff recvOff maxData _ _ =>
    exact metered.received (valid.opened held.opened).recv (.held held) outcome
      (fun empty unended => allowed empty unended _ held.opened) fits readOff recvOff maxData
  | acked _ _ touched recv _ _ calm => exact metered.sameRecv touched recv calm.flow
  | ackIgnored _ _ => exact ⟨metered.1, metered.2, metered.3⟩
  | resetAcked _ touched recv _ calm => exact metered.sameRecv touched recv calm.flow
  | resetAckIgnored _ => exact ⟨metered.1, metered.2, metered.3⟩
  | lost _ _ held recv _ flow _ _ => exact metered.sameRecv (.held held) recv flow
  | sent emits =>
    exact metered.same emits.calm.flow (emits.total valid fun _ _ _ => rfl)
      (emits.total valid fun _ _ _ => rfl)
  | resetSent quiet calm => exact metered.same calm.flow (quiet.total _) (quiet.total _)
  | advertised quiet readOff recvOff maxData _ _ =>
    have more := maxData allowed
    have bound := metered.bound
    refine ⟨?_, ?_, ?_⟩
    · rw [recvOff, metered.recvOff, quiet.total]
    · rw [readOff, metered.readOff, quiet.total]
    · simp only [recvOff]
      omega
  | destroyed found _ _ streams destroyed _ _ calm =>
    exact metered.same calm.flow (total_destroyed found streams destroyed _)
      (total_destroyed found streams destroyed _)

/-- Receive-side accounting is exact in every run in which bytes are counted once. -/
theorem receive_counters_exact (world : World) (reached : Reachable CountsOnce world) :
    world.map.flowControl.recvOff = world.map.total highest ∧
    world.map.flowControl.readOff = world.map.total consumed ∧
    world.map.flowControl.readOff ≤ world.map.flowControl.recvOff ∧
    world.map.flowControl.recvOff ≤ world.map.flowControl.maxData := by
  obtain ⟨valid, metered⟩ := reached.invariant
    (fun _ _ _ _ _ => ⟨rfl, rfl, Nat.zero_le _⟩)
    fun valid metered allowed effect => Metered.step valid metered allowed effect
  have each : ∀ stream : Stream, stream.recv.Valid → consumed stream ≤ highest stream := by
    intro stream recv
    rw [consumed, highest]
    split
    · exact le_refl _
    · exact recv.ordered.readBound
  refine ⟨metered.recvOff, metered.readOff, ?_, metered.bound⟩
  rw [metered.recvOff, metered.readOff]
  exact total_le ⟨fun id stream found => each stream (valid.streams.live id stream found).recv,
    fun entry member => each entry.2 (valid.streams.gone entry member).recv⟩

/-- A client that reads, shuts the receive side down and gets more data. -/
theorem receive_counters_exact_shutdown :
    ∃ world, Reachable CountsOnce world ∧ world.map.total highest = 5 ∧
      world.map.total consumed = 5 := by
  let check : World → Op → Bool
    | _, .stream _ _ data _ => !data.isEmpty
    | _, .resetStream _ _ _ => false
    | _, .sendMaxData _ _ => false
    | _, _ => true
  have executed : (exec (checked check step)
      (.new false 100 100
        { initialMaxData := 60, initialMaxStreamDataBidiRemote := 50, initialMaxStreamsBidi := 4 }
        false)
      [.stream 1 0 [1, 2, 3] false, .read 1 2, .shutdownRead 1 9, .stream 1 3 [4, 5] false]).map
      (fun world => (world.map.flowControl.recvOff, world.map.flowControl.readOff)) =
      some (5, 5) := by
    decide +kernel
  obtain ⟨world, run, same⟩ := Option.map_eq_some_iff.mp executed
  obtain ⟨recvOff, readOff⟩ := Prod.mk.inj same
  have sound : ∀ state op, check state op = true → CountsOnce state op := by
    intro state op passed
    cases op with
    | stream id offset data fin =>
      rintro rfl
      cases passed
    | resetStream => cases passed
    | sendMaxData => cases passed
    | _ => trivial
  have reached : Reachable CountsOnce world := ⟨_, _, _, _, _, .of_checked sound (.of_exec run)⟩
  have result := receive_counters_exact world reached
  exact ⟨world, reached, result.1 ▸ recvOff, result.2.1 ▸ readOff⟩

/-- Two empty frames without FIN are counted as received although no byte has arrived, and a
RESET_STREAM frame after a shutdown counts discarded bytes once more. -/
theorem receive_counters_drift :
    (exec step
      (.new false 100 100
        { initialMaxData := 60, initialMaxStreamDataBidiRemote := 50, initialMaxStreamsBidi := 4 }
        false)
      [.stream 1 10 [] false, .stream 1 10 [] false]).map
      (fun world => (world.map.flowControl.recvOff, world.map.total highest)) = some (20, 0) ∧
    (exec step
      (.new false 100 100
        { initialMaxData := 60, initialMaxStreamDataBidiRemote := 50, initialMaxStreamsBidi := 4 }
        false)
      [.stream 1 0 [1, 2, 3] false, .shutdownRead 1 9, .stream 1 3 [4, 5] false,
        .resetStream 1 7 5]).map
      (fun world => (world.map.flowControl.recvOff, world.map.flowControl.readOff)) =
      some (5, 7) := by
  decide +kernel

end World

end Tquic.Connection
