import Tquic.Connection.StreamInvariants

/-! The end of a stream that the application has finished. The send buffer knows which
bytes were acknowledged but not whether the FIN bit was, so a stream is forgotten at the
right time only if the FIN bit always travels with data. -/

set_option autoImplicit false

namespace Tquic.Connection

open Lib

namespace StreamMap

/-- A frame with the FIN bit at the final size was acknowledged. -/
def FinAcked (acked : List StreamFrame) (id finOff : Nat) : Prop :=
  ∃ frame ∈ acked, frame.streamId = id ∧ frame.fin = true ∧ frame.offset + frame.length = finOff

/-- What the frames that were sent and acknowledged say about a stream that was not reset. -/
structure Accounted (sent acked : List StreamFrame) (id : Nat) (stream : Stream) : Prop where
  sends : ∀ finOff, stream.send.finOff = some finOff → stream.bidi = true ∨ stream.byLocal = true
  -- Every frame up to the final size carries the FIN bit.
  fin : ∀ finOff, stream.send.finOff = some finOff → 0 < finOff ∧
    ∀ frame ∈ sent, frame.streamId = id → frame.offset + frame.length = finOff → frame.fin = true
  acked : ∀ value ∈ stream.send.acked, ∃ frame ∈ acked, frame.streamId = id ∧
    frame.offset ≤ value ∧ value < frame.offset + frame.length

structure Delivers (map : StreamMap) (sent acked : List StreamFrame) : Prop where
  ackedSent : ∀ frame ∈ acked, frame ∈ sent
  live : ∀ id stream, map.get id = some stream → stream.send.Running →
    Accounted sent acked id stream
  gone : ∀ entry ∈ map.destroyed, entry.2.send.Running →
    ∀ finOff, entry.2.send.finOff = some finOff → FinAcked acked entry.1 finOff

theorem FinAcked.mono {acked later : List StreamFrame} {id finOff : Nat}
    (more : ∀ frame ∈ acked, frame ∈ later) (delivered : FinAcked acked id finOff) :
    FinAcked later id finOff := by
  obtain ⟨frame, member, rest⟩ := delivered
  exact ⟨frame, more frame member, rest⟩

/-- Once all data is acknowledged, the frame with its last byte carried the FIN bit. -/
theorem Accounted.finished {sent acked : List StreamFrame} {id finOff : Nat} {stream : Stream}
    (accounted : Accounted sent acked id stream) (sound : stream.send.Sound)
    (running : stream.send.Running) (ackedSent : ∀ frame ∈ acked, frame ∈ sent)
    (within : ∀ frame ∈ sent, frame.streamId = id →
      frame.offset + frame.length ≤ stream.send.unsentOff)
    (finished : stream.send.Finished) (known : stream.send.finOff = some finOff) :
    FinAcked acked id finOff := by
  obtain ⟨filled, carried⟩ := accounted.fin finOff known
  obtain ⟨size, same, covered⟩ := finished
  rw [known, Option.some.injEq] at same
  subst same
  obtain ⟨frame, member, own, low, high⟩ := accounted.acked _ (covered (finOff - 1) (by omega))
  have bound := within frame (ackedSent frame member) own
  have final : finOff = stream.send.writeOff := by
    cases sound with
    | running _ _ coherent => exact coherent.final finOff known
    | truncated reset _ => exact absurd running reset
  have unsent := sound.unsentOff_le
  have reached : frame.offset + frame.length = finOff := by omega
  exact ⟨frame, member, own, carried frame (ackedSent frame member) own reached, reached⟩

theorem Fresh.accounted {isServer : Bool} {id : Nat} {stream : Stream}
    (fresh : Fresh isServer id stream) (sent acked : List StreamFrame) :
    Accounted sent acked id stream := by
  obtain ⟨_, _, _, rfl⟩ := fresh
  refine ⟨?_, ?_, ?_⟩
  · intro finOff known
    cases known
  · intro finOff known
    cases known
  · exact fun value member => absurd member (RangeSet.not_mem_default value)

section Steps

variable {map after : StreamMap} {sent acked : List StreamFrame} {id : Nat} {old new : Stream}

theorem Delivers.opened (delivers : map.Delivers sent acked) (opened : map.Opened id old)
    (running : old.send.Running) : Accounted sent acked id old := by
  rcases opened with found | ⟨_, _, fresh⟩
  · exact delivers.live id old found running
  · exact fresh.accounted sent acked

section

variable (delivers : map.Delivers sent acked)

include delivers

theorem Delivers.quiet (quiet : Quiet map after) :
    after.Delivers sent acked where
  ackedSent := delivers.ackedSent
  live id stream found := delivers.live id stream (quiet.get id ▸ found)
  gone entry member := delivers.gone entry (quiet.destroyed ▸ member)

/-- Only the touched stream has to account for its new frames and acknowledgements. -/
theorem Delivers.touched {sentLater ackedLater : List StreamFrame}
    (touched : Touched map after id old new)
    (later : after.Valid sentLater) (ackedSent : ∀ frame ∈ ackedLater, frame ∈ sentLater)
    (own : ∀ frame ∈ sentLater, frame ∈ sent ∨ frame.streamId = id)
    (more : ∀ frame ∈ acked, frame ∈ ackedLater) (running : new.send.Running → old.send.Running)
    (within : new.send.Running → ∀ frame ∈ sentLater, frame.streamId = id →
      frame.offset + frame.length ≤ new.send.unsentOff)
    (accounted : new.send.Running → Accounted sent acked id old →
      Accounted sentLater ackedLater id new) : after.Delivers sentLater ackedLater := by
  have tracked (active : new.send.Running) : Accounted sentLater ackedLater id new :=
    accounted active (delivers.opened touched.opened (running active))
  constructor
  case ackedSent => exact ackedSent
  case live =>
    intro other stream found active
    rcases touched.live found with ⟨rfl, rfl⟩ | ⟨apart, earlier⟩
    · exact tracked active
    · obtain ⟨sends, fin, bytes⟩ := delivers.live other stream earlier active
      refine ⟨sends, fun final known => ⟨(fin final known).1, ?_⟩, ?_⟩
      · intro frame member same
        rcases own frame member with before | added
        · exact (fin final known).2 frame before same
        · exact absurd (same.symm.trans added) apart
      · intro value member
        obtain ⟨frame, present, rest⟩ := bytes value member
        exact ⟨frame, more frame present, rest⟩
  case gone =>
    intro entry member active final known
    rcases touched.gone member with ⟨rfl, closed⟩ | earlier
    · have holds := tracked active
      have stream := later.streams.gone (id, new) member
      exact holds.finished stream.send active ackedSent (within active)
        (stream.settled closed (holds.sends final known)) known
    · exact (delivers.gone entry earlier active final known).mono more

theorem Delivers.same (valid : map.Valid sent)
    (later : after.Valid sent) (touched : Touched map after id old new)
    (ends : new.send.Running → old.send.Running) (finOff : new.send.finOff = old.send.finOff)
    (unsentOff : new.send.unsentOff = old.send.unsentOff)
    (bytes : new.send.acked = old.send.acked) : after.Delivers sent acked := by
  refine delivers.touched touched later delivers.ackedSent (fun _ => .inl)
    (fun _ member => member) ends ?_ ?_
  · intro running
    rw [unsentOff]
    exact valid.opened_within touched.opened (ends running)
  · intro _ before
    refine ⟨?_, ?_, ?_⟩
    · rw [touched.kind.1, touched.kind.2, finOff]
      exact before.sends
    · rw [finOff]
      exact before.fin
    · rw [bytes]
      exact before.acked

theorem Delivers.unsent (valid : map.Valid sent)
    (later : after.Valid sent) (touched : Touched map after id old new)
    (send : new.send = old.send) : after.Delivers sent acked := by
  refine delivers.same valid later touched ?_ ?_ ?_ ?_ <;> rw [send]
  exact fun running => running

theorem Delivers.ackMore {frame : StreamFrame}
    (member : frame ∈ sent) : map.Delivers sent (frame :: acked) where
  ackedSent := by
    intro other present
    rcases List.mem_cons.mp present with rfl | before
    · exact member
    · exact delivers.ackedSent other before
  live id stream found running := by
    obtain ⟨sends, fin, bytes⟩ := delivers.live id stream found running
    refine ⟨sends, fin, fun value inside => ?_⟩
    obtain ⟨other, present, rest⟩ := bytes value inside
    exact ⟨other, List.mem_cons_of_mem _ present, rest⟩
  gone entry present running final known :=
    (delivers.gone entry present running final known).mono fun _ => List.mem_cons_of_mem _

end

theorem Delivers.destroyed {stream : Stream} (delivers : map.Delivers sent acked)
    (valid : map.Valid sent) (found : map.get id = some stream) (closed : stream.closed = true)
    (streams : after.streams = map.streams.erase id)
    (destroyed : after.destroyed = (id, stream) :: map.destroyed) :
    after.Delivers sent acked where
  ackedSent := delivers.ackedSent
  live other present here := by
    rw [StreamMap.get, streams, OrdMap.get?_erase] at here
    split at here
    · cases here
    · exact delivers.live other present here
  gone entry member running final known := by
    rw [destroyed, List.mem_cons] at member
    rcases member with rfl | member
    · have holds := delivers.live id stream found running
      have settled := valid.streams.live id stream found
      exact holds.finished settled.send running delivers.ackedSent
        (valid.within id stream found running)
        (settled.settled closed (holds.sends final known)) known
    · exact delivers.gone entry member running final known

/-- Frames that are written carry the FIN bit exactly if they reach the final size. -/
theorem Delivers.emits {frames : List StreamFrame} (valid : map.Valid sent)
    (delivers : map.Delivers sent acked) (emits : Emits map frames after) :
    after.Delivers (sent ++ frames) acked := by
  induction emits generalizing sent with
  | done => simpa using delivers
  | requeue requeue _ ih => exact ih (valid.quiet requeue.quiet) (delivers.quiet requeue.quiet)
  | @frame map after frames id stream outLen bytes fin send queued found running handed _ ih =>
    obtain ⟨later, held, ends, same, flag, unsentOff⟩ := valid.frame found handed
    have written : (map.setStream id { stream with send }).Delivers
        (sent ++ [⟨id, stream.send.sendOff, bytes.length, fin⟩]) acked := by
      refine delivers.touched (.held held) later ?_ ?_ (fun _ member => member) ends.running.mp
        (later.within id _ held.get) ?_
      · exact fun frame member => List.mem_append_left _ (delivers.ackedSent frame member)
      · intro frame member
        rcases List.mem_append.mp member with before | added
        · exact .inl before
        · rw [List.mem_singleton] at added
          exact .inr (added ▸ rfl)
      · intro _ before
        refine ⟨?_, ?_, ?_⟩
        · exact fun final known => before.sends final (ends.finOff ▸ known)
        · intro final known
          rw [ends.finOff] at known
          refine ⟨(before.fin final known).1, ?_⟩
          intro frame member own reached
          rcases List.mem_append.mp member with earlier | added
          · exact (before.fin final known).2 frame earlier own reached
          · rw [List.mem_singleton] at added
            rw [added] at reached ⊢
            rw [flag, known, ← reached]
            exact decide_eq_true rfl
        · exact fun value member => before.acked value (same ▸ member)
    simpa using ih later written

end Steps

end StreamMap

namespace World

open StreamMap

def FinWithData (world : World) : Op → Prop
  | .write id buf fin => buf = [] → fin = true → ∀ stream, world.map.Opened id stream →
      stream.send.finOff = none → stream.send.unsentOff < stream.send.writeOff
  | _ => True

private theorem write_finOff {send after : SendBuf} {stream buf : Bytes} {fin : Bool}
    {count finOff : Nat} (coherent : send.Coherent stream)
    (wrote : send.write buf fin = .ok (count, after)) (set : after.finOff = some finOff)
    (behind : buf = [] → fin = true → send.finOff = none → send.unsentOff < send.writeOff) :
    after.finOff = send.finOff ∨ send.unsentOff < finOff := by
  have spec := SendBuf.write_spec wrote
  have unsent := coherent.unsent
  have shape : after.finOff = if fin = true ∧ buf.length ≤ send.maxData - send.writeOff then
      some (send.writeOff + buf.length) else send.finOff := by
    rw [spec.shape]
  split at shape
  case isFalse => exact .inl shape
  case isTrue marked =>
    cases known : send.finOff with
    | some size =>
      have last := coherent.final size known
      have within := (spec.final size known).1
      left
      rw [shape, Option.some.injEq]
      omega
    | none =>
      rw [set, Option.some.injEq] at shape
      right
      by_cases empty : buf = []
      · have waiting := behind empty marked.1 known
        omega
      · have filled := List.length_pos_iff.mpr empty
        omega

private theorem delivers_step {world next : World} {op : Op} (valid : world.Valid)
    (delivers : world.map.Delivers world.sent world.acked) (allowed : FinWithData world op)
    (effect : Effect world op next) : next.map.Delivers next.sent next.acked := by
  have later := valid.step effect
  cases effect with
  | still quiet _ => exact delivers.quiet quiet
  | kept held _ send _ _ _ =>
    obtain ⟨_, _, _, send⟩ := send
    refine delivers.same valid later (.held held) ?_ ?_ ?_ ?_ <;> rw [send]
    exact fun running => running
  | read _ _ _ touched _ send _ _ _ _ _ => exact delivers.unsent valid later touched send
  | @written id buf fin after old new send kept finKept count sends held _ wrote stored _ whole _ _
      _ _ _ =>
      obtain ⟨blockedAt, stored⟩ := stored
      have opened := valid.opened held.opened
      have kind := (later.streams.live id new held.get)
      obtain ⟨_, _, _, unsentOff, bytes, advances, _⟩ := opened.send.write wrote
      have active : new.send.Running → old.send.Running := by
        rw [stored]
        exact fun running => (advances running).running
      have within : new.send.Running → ∀ frame ∈ world.sent, frame.streamId = id →
          frame.offset + frame.length ≤ new.send.unsentOff := later.within id new held.get
      refine delivers.touched (.held held) later delivers.ackedSent (fun _ => .inl)
        (fun _ member => member) active within ?_
      intro running before
      refine ⟨?_, ?_, ?_⟩
      · intro _ _
        rw [kind.bidi, kind.byLocal, held.isServer]
        exact sends
      · intro finOff known
        have final : send.finOff = some finOff := by
          rw [stored] at known
          exact known
        have size : send.finOff = old.send.finOff ∨ old.send.unsentOff < finOff := by
          cases opened.send with
          | running _ _ coherent =>
            refine write_finOff coherent wrote final fun empty marked => ?_
            obtain ⟨same, kept⟩ := whole marked
            exact allowed (same ▸ empty) kept old held.opened
          | truncated reset _ => exact absurd (active running) reset
        rcases size with same | beyond
        · exact before.fin finOff (same.symm.trans final)
        · refine ⟨by omega, fun frame member own reached => ?_⟩
          have bound := within running frame member own
          rw [stored] at bound
          simp only [unsentOff] at bound
          omega
      · rw [stored]
        simp only [bytes]
        exact before.acked
  | readShut _ held _ _ send _ _ _ _ _ => exact delivers.unsent valid later (.held held) send
  | cut cause _ held _ _ _ _ _ _ =>
    have stopped := cause.not_running
    exact delivers.touched (.held held) later delivers.ackedSent (fun _ => .inl)
      (fun _ member => member) (fun running => absurd running stopped)
      (fun running => absurd running stopped) (fun running => absurd running stopped)
  | stoppedAgain held _ _ => exact delivers.unsent valid later (.held held) rfl
  | stopIgnored _ _ quiet _ => exact delivers.quiet quiet
  | granted quiet _ _ _ _ _ => exact delivers.quiet quiet
  | reset _ touched _ send _ _ _ _ _ _ _ => exact delivers.unsent valid later touched send
  | received held _ send _ _ _ _ _ _ => exact delivers.unsent valid later (.held held) send
  | @acked frame after old new sent found touched _ send _ _ =>
    have within := valid.opened_within touched.opened
    obtain ⟨_, ends, unsentOff, bytes⟩ := (valid.streams.live _ _ found).send.ackAndDrop
      fun running => valid.within _ _ found running _ sent rfl
    rw [← send] at ends unsentOff bytes
    refine delivers.touched touched later (delivers.ackMore sent).ackedSent (fun _ => .inl)
      (fun _ => List.mem_cons_of_mem _) ends.running.mp ?_ ?_
    · intro running
      rw [unsentOff]
      exact within (ends.running.mp running)
    · intro running before
      refine ⟨?_, ?_, ?_⟩
      · rw [touched.kind.1, touched.kind.2, ends.finOff]
        exact before.sends
      · rw [ends.finOff]
        exact before.fin
      · intro value member
        rcases (bytes (ends.running.mp running) value).mp member with earlier | inside
        · obtain ⟨other, present, rest⟩ := before.acked value earlier
          exact ⟨other, List.mem_cons_of_mem _ present, rest⟩
        · exact ⟨frame, List.mem_cons_self, rfl, inside⟩
  | ackIgnored sent _ => exact delivers.ackMore sent
  | resetAcked _ touched _ send _ => exact delivers.unsent valid later touched send
  | resetAckIgnored _ => exact delivers
  | lost sent found held _ send _ _ _ =>
    obtain ⟨_, ends, unsentOff, bytes⟩ := (valid.streams.live _ _ found).send.retransmit
      fun running => valid.within _ _ found running _ sent rfl
    rw [← send] at ends unsentOff bytes
    exact delivers.same valid later (.held held) ends.running.mp ends.finOff unsentOff bytes
  | sent emits => exact delivers.emits valid emits
  | resetSent quiet _ => exact delivers.quiet quiet
  | advertised quiet _ _ _ _ _ => exact delivers.quiet quiet
  | destroyed found closing _ streams destroyed _ _ _ =>
    exact delivers.destroyed valid found ((valid.closing _ closing).2 _ found) streams destroyed

/-- A stream that was finished and not reset is complete, closed or destroyed only after a
frame with the FIN bit at its final size was sent and acknowledged, in every run in
which a FIN travels with data. -/
theorem fin_acked_before_forgotten (world : World) (reached : Reachable FinWithData world)
    (id finOff : Nat) (stream : Stream) (running : stream.send.Running)
    (finished : stream.send.finOff = some finOff) (forgotten : world.map.get id = some stream ∧
        (stream.send.isComplete = true ∨ stream.closed = true) ∨
      (id, stream) ∈ world.map.destroyed) :
    ∃ frame ∈ world.acked, frame ∈ world.sent ∧ frame.streamId = id ∧ frame.fin = true ∧
      frame.offset + frame.length = finOff := by
  obtain ⟨valid, delivers⟩ := reached.invariant
    (fun _ _ _ _ _ => ⟨by simp [World.new], by simp [World.new, StreamMap.new, StreamMap.get],
      by simp [World.new, StreamMap.new]⟩)
    fun valid delivers allowed effect => delivers_step valid delivers allowed effect
  have delivered : FinAcked world.acked id finOff := by
    rcases forgotten with ⟨found, ended⟩ | destroyed
    · have accounted := delivers.live id stream found running
      have settled := valid.streams.live id stream found
      refine accounted.finished settled.send running delivers.ackedSent
        (valid.within id stream found running) ?_ finished
      rcases ended with complete | closed
      · exact SendBuf.finished_of_isComplete complete
      · exact settled.settled closed (accounted.sends finOff finished)
    · exact delivers.gone (id, stream) destroyed running finOff finished
  obtain ⟨frame, member, rest⟩ := delivered
  exact ⟨frame, member, delivers.ackedSent frame member, rest⟩

/-- A client finishes a stream with its last data, which is then sent and acknowledged. -/
theorem fin_acked_before_forgotten_uni :
    ∃ world stream, Reachable FinWithData world ∧ (2, stream) ∈ world.map.destroyed ∧
      ∃ frame ∈ world.acked, frame ∈ world.sent ∧ frame.streamId = 2 ∧ frame.fin = true ∧
        frame.offset + frame.length = 3 := by
  let check : World → Op → Bool
    | _, .write _ buf _ => !buf.isEmpty
    | _, _ => true
  have executed : (exec (checked check step) (.new false 100 100 {} false)
      [.peerParams { initialMaxData := 30, initialMaxStreamDataUni := 20, initialMaxStreamsUni := 1 },
        .write 2 [1, 2] false, .write 2 [3] true, .sendStreams 100,
        .streamAcked ⟨2, 0, 3, true⟩]).any (fun world => world.map.destroyed.any fun entry =>
          entry.1 = 2 ∧ entry.2.send.shutdownFlag = false ∧ entry.2.send.error = none ∧
            entry.2.send.finOff = some 3) = true := by
    decide +kernel
  obtain ⟨world, run, found⟩ := (Option.any_eq_true _ _).mp executed
  obtain ⟨⟨id, stream⟩, destroyed, same⟩ := List.any_eq_true.mp found
  obtain ⟨rfl, flag, error, finished⟩ := of_decide_eq_true same
  have sound : ∀ state op, check state op = true → FinWithData state op := by
    intro state op passed
    cases op with
    | write id buf fin =>
      rintro rfl
      cases passed
    | _ => trivial
  have reached : Reachable FinWithData world := ⟨_, _, _, _, _, .of_checked sound (.of_exec run)⟩
  exact ⟨world, stream, reached, destroyed,
    fin_acked_before_forgotten world reached 2 3 stream ⟨flag, error⟩ finished (.inr destroyed)⟩

/-- A FIN that is written after all data was sent is forgotten when the data is acknowledged,
and a stream that carries nothing but a FIN is complete before the FIN is sent. -/
theorem fin_forgotten :
    (∃ world stream, Reachable anyStep world ∧ (2, stream) ∈ world.map.destroyed ∧
      stream.send.Running ∧ stream.send.finOff = some 3 ∧
      world.sent = [⟨2, 0, 3, false⟩]) ∧
    ∃ world stream, Reachable anyStep world ∧ world.map.get 2 = some stream ∧
      stream.send.Running ∧ stream.send.finOff = some 0 ∧ stream.send.isComplete = true ∧
      world.sent = [] := by
  have late : (exec step (.new false 100 100 {} false)
      [.peerParams { initialMaxData := 30, initialMaxStreamDataUni := 20, initialMaxStreamsUni := 1 },
        .write 2 [1, 2, 3] false, .sendStreams 100, .write 2 [] true,
        .streamAcked ⟨2, 0, 3, false⟩]).any (fun world =>
          world.sent = [⟨2, 0, 3, false⟩] && world.map.destroyed.any fun entry =>
            entry.1 = 2 ∧ (entry.2.send.shutdownFlag = false ∧ entry.2.send.error = none) ∧
              entry.2.send.finOff = some 3) = true := by
    decide +kernel
  have alone : (exec step (.new false 100 100 {} false)
      [.peerParams { initialMaxData := 30, initialMaxStreamDataUni := 20, initialMaxStreamsUni := 1 },
        .write 2 [] true]).any (fun world =>
          world.sent = [] && (world.map.get 2).any fun stream =>
            (stream.send.shutdownFlag = false ∧ stream.send.error = none) ∧
              stream.send.finOff = some 0 ∧ stream.send.isComplete = true) = true := by
    decide +kernel
  constructor
  · obtain ⟨world, run, found⟩ := (Option.any_eq_true _ _).mp late
    obtain ⟨sent, found⟩ := Bool.and_eq_true_iff.mp found
    obtain ⟨⟨id, stream⟩, destroyed, same⟩ := List.any_eq_true.mp found
    obtain ⟨rfl, running, finished⟩ := of_decide_eq_true same
    exact ⟨world, stream, ⟨_, _, _, _, _, .of_exec run⟩, destroyed, running, finished,
      of_decide_eq_true sent⟩
  · obtain ⟨world, run, found⟩ := (Option.any_eq_true _ _).mp alone
    obtain ⟨sent, found⟩ := Bool.and_eq_true_iff.mp found
    obtain ⟨stream, present, same⟩ := (Option.any_eq_true _ _).mp found
    obtain ⟨running, finished, complete⟩ := of_decide_eq_true same
    exact ⟨world, stream, ⟨_, _, _, _, _, .of_exec run⟩, present, running, finished, complete,
      of_decide_eq_true sent⟩

end World

end Tquic.Connection
