import Tquic.Connection.StreamSteps
import Tquic.Connection.BufferInvariants

/-! The invariant of the stream map along every run: identifiers are never used twice,
the buffers of all streams are sound, and only data that was sent can be acknowledged. -/

set_option autoImplicit false

namespace Tquic.Connection

open Lib

/-- The invariant of a stream with its identifier. -/
structure Stream.Valid (isServer : Bool) (id : Nat) (stream : Stream) : Prop where
  bidi : stream.bidi = isBidi id
  byLocal : stream.byLocal = isLocal id isServer
  recv : stream.recv.Valid
  send : stream.send.Sound
  -- A stream that can send is closed only when everything was acknowledged.
  settled : stream.closed = true → stream.bidi = true ∨ stream.byLocal = true → stream.send.Finished

private theorem Stream.send_isComplete {stream : Stream} (complete : stream.isComplete = true)
    (sends : stream.bidi = true ∨ stream.byLocal = true) : stream.send.isComplete = true := by
  rw [Stream.isComplete] at complete
  cases bidi : stream.bidi with
  | true =>
    rw [bidi] at complete
    exact (Bool.and_eq_true_iff.mp complete).1
  | false =>
    have byLocal : stream.byLocal = true := by simpa [bidi] using sends
    rwa [bidi, byLocal] at complete

namespace StreamMap

structure Every (map : StreamMap) (property : Nat → Stream → Prop) : Prop where
  live : ∀ id stream, map.get id = some stream → property id stream
  gone : ∀ entry ∈ map.destroyed, property entry.1 entry.2

theorem Fresh.valid {isServer : Bool} {id : Nat} {stream : Stream}
    (fresh : Fresh isServer id stream) : stream.Valid isServer id := by
  obtain ⟨maxTxData, maxRxData, maxWindow, rfl⟩ := fresh
  exact ⟨rfl, rfl, .new _ _, .new _, fun closed => by cases closed⟩

theorem Quiet.spent {before after : StreamMap} (quiet : Quiet before after)
    (steady : before.concurrencyControl.Steady) {id : Nat} (spent : before.Spent id) :
    after.Spent id := by
  rw [Spent, quiet.isServer]
  exact (quiet.control steady).2 _ _ spent

section Touched

variable {before after : StreamMap} {id : Nat} {old new : Stream}

theorem Touched.opened (touched : Touched before after id old new) : before.Opened id old := by
  cases touched with
  | held held => exact held.opened
  | shut shut _ => exact shut.opened

section

variable (touched : Touched before after id old new)

include touched

theorem Touched.isServer : after.isServer = before.isServer := by
  cases touched with
  | held held => exact held.isServer
  | shut shut _ => exact shut.isServer

theorem Touched.kind : new.bidi = old.bidi ∧ new.byLocal = old.byLocal := by
  cases touched with
  | held held => exact ⟨held.bidi, held.byLocal⟩
  | shut shut _ => exact ⟨shut.bidi, shut.byLocal⟩

theorem Touched.control : before.concurrencyControl.Grows after.concurrencyControl := by
  cases touched with
  | held held => exact held.control
  | shut shut _ => exact shut.control

theorem Touched.streams :
    after.streams = before.streams.insert id new ∧ after.destroyed = before.destroyed ∨
      after.streams = before.streams.erase id ∧
        after.destroyed = (id, new) :: before.destroyed := by
  cases touched with
  | held held => exact .inl ⟨held.streams, held.destroyed⟩
  | shut shut _ => exact shut.streams

theorem Touched.live {other : Nat} {stream : Stream} (found : after.get other = some stream) :
    other = id ∧ stream = new ∨ other ≠ id ∧ before.get other = some stream := by
  rw [StreamMap.get] at found
  by_cases same : other = id
  · subst same
    refine .inl ⟨rfl, ?_⟩
    rcases touched.streams with ⟨streams, _⟩ | ⟨streams, _⟩
    · rw [streams, OrdMap.get?_insert_self] at found
      exact (Option.some.inj found).symm
    · rw [streams, OrdMap.get?_erase_self] at found
      cases found
  · refine .inr ⟨same, ?_⟩
    rcases touched.streams with ⟨streams, _⟩ | ⟨streams, _⟩
    · rwa [streams, OrdMap.get?_insert, if_neg same] at found
    · rwa [streams, OrdMap.get?_erase, if_neg same] at found

theorem Touched.gone {entry : Nat × Stream} (member : entry ∈ after.destroyed) :
    entry = (id, new) ∧ new.closed = true ∨ entry ∈ before.destroyed := by
  cases touched with
  | held held =>
    rw [held.destroyed] at member
    exact .inr member
  | shut shut _ =>
    rcases shut.streams with ⟨_, destroyed⟩ | ⟨_, destroyed⟩
    · rw [destroyed] at member
      exact .inr member
    · rw [destroyed, List.mem_cons] at member
      exact member.imp_left fun same => ⟨same, shut.closed⟩

theorem Touched.every {property : Nat → Stream → Prop} (every : before.Every property)
    (next : property id new) : after.Every property where
  live other stream found := by
    rcases touched.live found with ⟨rfl, rfl⟩ | ⟨_, earlier⟩
    · exact next
    · exact every.live other stream earlier
  gone entry member := by
    rcases touched.gone member with ⟨rfl, _⟩ | earlier
    · exact next
    · exact every.gone entry earlier

theorem Touched.spent
    (steady : before.concurrencyControl.Steady) {other : Nat} (spent : before.Spent other) :
    after.Spent other := by
  rw [Spent, touched.isServer]
  exact (touched.control steady).2 _ _ spent

theorem Touched.spent_self (steady : before.concurrencyControl.Steady)
    (known : ∀ stream, before.get id = some stream → before.Spent id) : after.Spent id := by
  cases found : before.get id with
  | some stream => exact touched.spent steady (known stream found)
  | none =>
    cases touched with
    | held held => exact held.spent found steady
    | shut shut _ => exact shut.spent found steady

theorem Touched.closing {other : Nat}
    (closing : after.Closing other) : before.Closing other ∨ other = id ∧ new.closed = true := by
  cases touched with
  | held held => exact .inl (held.events other closing)
  | shut shut _ => exact (shut.events other closing).imp_right fun same => ⟨same, shut.closed⟩

end

theorem Touched.closed (touched : Touched before after id old new) (closed : old.closed = true) :
    new.closed = true := by
  cases touched with
  | held held => rw [held.closed, closed]
  | shut shut _ => exact shut.closed

end Touched

theorem Quiet.every {before after : StreamMap} {property : Nat → Stream → Prop}
    (quiet : Quiet before after) (every : before.Every property) : after.Every property where
  live id stream found := every.live id stream (quiet.get id ▸ found)
  gone entry member := every.gone entry (quiet.destroyed ▸ member)

/-! ## The invariant -/

structure Valid (map : StreamMap) (sent : List StreamFrame) : Prop where
  steady : map.concurrencyControl.Steady
  spent : ∀ id stream, map.get id = some stream → map.Spent id
  sentSpent : ∀ frame ∈ sent, map.Spent frame.streamId
  closing : ∀ id, map.Closing id →
    map.Spent id ∧ ∀ stream, map.get id = some stream → stream.closed = true
  closed : ∀ entry ∈ map.destroyed, entry.2.closed = true
  streams : map.Every (Stream.Valid map.isServer)
  within : ∀ id stream, map.get id = some stream → stream.send.Running →
    ∀ frame ∈ sent, frame.streamId = id → frame.offset + frame.length ≤ stream.send.unsentOff

namespace Valid

variable {map after : StreamMap} {sent : List StreamFrame} {id : Nat} {old new : Stream}

theorem opened (valid : map.Valid sent) (opened : map.Opened id old) :
    old.Valid map.isServer id := by
  rcases opened with found | ⟨_, _, fresh⟩
  · exact valid.streams.live id old found
  · exact fresh.valid

theorem opened_within (valid : map.Valid sent) (opened : map.Opened id old)
    (running : old.send.Running) : ∀ frame ∈ sent, frame.streamId = id →
      frame.offset + frame.length ≤ old.send.unsentOff := by
  rcases opened with found | ⟨_, unused, _⟩
  · exact valid.within id old found running
  · intro frame member same
    exact absurd (same ▸ valid.sentSpent frame member) unused

theorem quiet (valid : map.Valid sent) (quiet : Quiet map after) : after.Valid sent where
  steady := (quiet.control valid.steady).1
  spent id stream found :=
    quiet.spent valid.steady (valid.spent id stream (quiet.get id ▸ found))
  sentSpent frame member := quiet.spent valid.steady (valid.sentSpent frame member)
  closing id closing := by
    obtain ⟨spent, closed⟩ := valid.closing id (quiet.events id closing)
    exact ⟨quiet.spent valid.steady spent, fun stream found => closed stream (quiet.get id ▸ found)⟩
  closed entry member := valid.closed entry (quiet.destroyed ▸ member)
  streams := quiet.isServer ▸ quiet.every valid.streams
  within id stream found := valid.within id stream (quiet.get id ▸ found)

/-- A change of one stream that keeps its buffers valid. -/
theorem touched (valid : map.Valid sent) (touched : Touched map after id old new)
    (recv : old.recv.Valid → new.recv.Valid) (send : new.send.Sound)
    (advances : new.send.Running → old.send.Advances new.send)
    {frames : List StreamFrame} (own : ∀ frame ∈ frames, frame.streamId = id)
    (covered : new.send.Running →
      ∀ frame ∈ frames, frame.offset + frame.length ≤ new.send.unsentOff) :
    after.Valid (sent ++ frames) where
  steady := (touched.control valid.steady).1
  spent other stream found := by
    rcases touched.live found with ⟨rfl, _⟩ | ⟨_, earlier⟩
    · exact touched.spent_self valid.steady (valid.spent other)
    · exact touched.spent valid.steady (valid.spent other stream earlier)
  sentSpent frame member := by
    rcases List.mem_append.mp member with earlier | added
    · exact touched.spent valid.steady (valid.sentSpent frame earlier)
    · rw [own frame added]
      exact touched.spent_self valid.steady (valid.spent id)
  closing other closing := by
    rcases touched.closing closing with before | ⟨rfl, closed⟩
    · obtain ⟨spent, ended⟩ := valid.closing other before
      refine ⟨touched.spent valid.steady spent, fun stream found => ?_⟩
      rcases touched.live found with ⟨rfl, rfl⟩ | ⟨_, earlier⟩
      · rcases touched.opened with present | ⟨_, unused, _⟩
        · exact touched.closed (ended old present)
        · exact absurd spent unused
      · exact ended stream earlier
    · refine ⟨touched.spent_self valid.steady (valid.spent other), fun stream found => ?_⟩
      rcases touched.live found with ⟨_, rfl⟩ | ⟨apart, _⟩
      · exact closed
      · exact absurd rfl apart
  closed entry member := by
    rcases touched.gone member with ⟨rfl, closed⟩ | earlier
    · exact closed
    · exact valid.closed entry earlier
  streams := by
    have opened := valid.opened touched.opened
    rw [touched.isServer]
    refine touched.every valid.streams
      ⟨touched.kind.1.trans opened.bidi, touched.kind.2.trans opened.byLocal, recv opened.recv, send,
        fun closed sends => ?_⟩
    cases touched with
    | held held =>
      rw [held.closed] at closed
      rw [held.bidi, held.byLocal] at sends
      exact (opened.settled closed sends).advance send advances
    | shut _ complete =>
      exact SendBuf.finished_of_isComplete (Stream.send_isComplete complete sends)
  within other stream found running frame member same := by
    rcases touched.live found with ⟨rfl, rfl⟩ | ⟨apart, earlier⟩
    · rcases List.mem_append.mp member with earlier | fresh
      · have grown := advances running
        exact (valid.opened_within touched.opened grown.running frame earlier same).trans
          grown.unsentOff
      · exact covered running frame fresh
    · rcases List.mem_append.mp member with old | fresh
      · exact valid.within other stream earlier running frame old same
      · exact absurd (same.symm.trans (own frame fresh)) apart

/-- A stream that is closing may be destroyed. -/
theorem destroyed {stream : Stream} (valid : map.Valid sent) (found : map.get id = some stream)
    (closing : map.Closing id) (isServer : after.isServer = map.isServer)
    (streams : after.streams = map.streams.erase id)
    (destroyed : after.destroyed = (id, stream) :: map.destroyed)
    (control : after.concurrencyControl = map.concurrencyControl)
    (events : ∀ other, after.Closing other → map.Closing other) : after.Valid sent := by
  have spent : ∀ other, map.Spent other → after.Spent other := by
    intro other before
    rwa [Spent, control, isServer]
  have earlier : ∀ other stream, after.get other = some stream → map.get other = some stream := by
    intro other stream present
    rw [StreamMap.get, streams, OrdMap.get?_erase] at present
    split at present
    · cases present
    · exact present
  constructor
  case steady => exact control ▸ valid.steady
  case spent => exact fun other stream present => spent other (valid.spent _ _ (earlier _ _ present))
  case sentSpent => exact fun frame member => spent _ (valid.sentSpent frame member)
  case closing =>
    intro other due
    obtain ⟨known, closed⟩ := valid.closing other (events other due)
    exact ⟨spent other known, fun stream present => closed stream (earlier _ _ present)⟩
  case closed =>
    intro entry member
    rw [destroyed, List.mem_cons] at member
    rcases member with rfl | member
    · exact (valid.closing id closing).2 stream found
    · exact valid.closed entry member
  case streams =>
    rw [isServer]
    refine ⟨fun other stream present => valid.streams.live _ _ (earlier _ _ present), ?_⟩
    intro entry member
    rw [destroyed, List.mem_cons] at member
    rcases member with rfl | member
    · exact valid.streams.live id stream found
    · exact valid.streams.gone entry member
  case within => exact fun other stream present => valid.within _ _ (earlier _ _ present)

/-- A frame is taken from the send buffer of a stream. -/
theorem frame {stream : Stream} {outLen : Nat} {bytes : Bytes} {fin : Bool} {send : SendBuf}
    (valid : map.Valid sent) (found : map.get id = some stream)
    (handed : stream.send.read outLen = some ((bytes, fin), send)) :
    (map.setStream id { stream with send }).Valid
        (sent ++ [⟨id, stream.send.sendOff, bytes.length, fin⟩]) ∧
      Held map (map.setStream id { stream with send }) id stream { stream with send } ∧
      stream.send.SameEnd send ∧ send.acked = stream.send.acked ∧
      fin = decide (stream.send.finOff = some (stream.send.sendOff + bytes.length)) ∧
      (stream.send.Running →
        send.unsentOff = max stream.send.unsentOff (stream.send.sendOff + bytes.length)) := by
  obtain ⟨out, next, taken, sound, ends, acked, _, unsentOff⟩ :=
    (valid.streams.live id stream found).send.read outLen
  rw [taken] at handed
  cases handed
  have held : Held map (map.setStream id { stream with send }) id stream { stream with send } :=
    (Held.of_get found).set rfl rfl rfl
  refine ⟨?_, held, ends, acked, rfl, unsentOff⟩
  refine valid.touched (.held held) (fun recv => recv) sound (fun still => ?_) (by simp)
    fun still => ?_
  · have active := ends.running.mp still
    refine ⟨active, ?_, fun _ known => ends.finOff.trans known, acked.symm ▸ fun _ member => member⟩
    rw [unsentOff active]
    exact Nat.le_max_left _ _
  · simp only [List.mem_singleton, forall_eq]
    rw [unsentOff (ends.running.mp still)]
    exact Nat.le_max_right _ _

theorem emits {frames : List StreamFrame} (valid : map.Valid sent)
    (emits : Emits map frames after) : after.Valid (sent ++ frames) := by
  induction emits generalizing sent with
  | done => simpa using valid
  | requeue requeue _ ih => exact ih (valid.quiet requeue.quiet)
  | frame _ found _ handed _ ih => simpa using ih (valid.frame found handed).1

end Valid

theorem Valid.new (isServer : Bool) (maxConnectionWindow maxStreamWindow : Nat)
    (localParams : StreamTransportParams) (enabled : Bool) :
    (StreamMap.new isServer maxConnectionWindow maxStreamWindow localParams
      (if enabled then some [] else none)).Valid [] := by
  constructor
  case steady => exact ConcurrencyControl.new_steady _ _
  case streams => exact ⟨by simp [StreamMap.new, StreamMap.get], by simp [StreamMap.new]⟩
  case closing =>
    rintro id ⟨events, present, member⟩
    cases enabled <;> simp [StreamMap.new] at present
    rw [present] at member
    cases member
  all_goals simp [StreamMap.new, StreamMap.get]

end StreamMap

namespace World

/-- The invariant holds along every run. -/
def Valid (world : World) : Prop := world.map.Valid world.sent

open StreamMap

theorem Cut.not_running {world : World} {op : Op} {id errorCode : Nat} {old : Stream}
    {send : SendBuf} (cause : Cut world op id errorCode old send) : ¬ send.Running := by
  intro running
  cases cause with
  | shutdown => cases running.1
  | stop => cases running.2

theorem Cut.truncated {world : World} {op : Op} {id errorCode : Nat} {old : Stream}
    {send : SendBuf} (cause : Cut world op id errorCode old send) (sound : old.send.Sound) :
    send.Truncated := by
  have truncated := sound.reset_truncated
  cases cause <;> exact { truncated with }

theorem Valid.step {world next : World} {op : Op} (valid : world.Valid)
    (effect : Effect world op next) : next.Valid := by
  have alone {after : StreamMap} {id : Nat} {old new : Stream}
      (touched : Touched world.map after id old new) (recv : old.recv.Valid → new.recv.Valid)
      (send : new.send.Sound) (advances : new.send.Running → old.send.Advances new.send) :
      after.Valid world.sent := by
    have result : after.Valid (world.sent ++ []) :=
      valid.touched touched recv send advances (by simp) (by simp)
    simpa using result
  have unsent {after : StreamMap} {id : Nat} {old new : Stream}
      (touched : Touched world.map after id old new) (recv : old.recv.Valid → new.recv.Valid)
      (send : new.send = old.send) : after.Valid world.sent := by
    refine alone touched recv ?_ ?_ <;> rw [send]
    · exact (valid.opened touched.opened).send
    · exact .refl
  cases effect with
  | still quiet _ => exact valid.quiet quiet
  | kept held recv send _ _ _ =>
    obtain ⟨flowControl, recv⟩ := recv
    obtain ⟨maxData, blockedAt, more, send⟩ := send
    have sound := (valid.opened held.opened).send
    refine alone (.held held) ?_ ?_ ?_
    · rw [recv]
      exact fun valid => valid.adjustFlowControl _
    · rw [send]
      exact sound.raise more _
    · rw [send]
      exact fun running => ⟨running, le_refl _, fun _ => id, fun _ => id⟩
  | read _ _ _ touched recv send _ _ _ _ _ =>
    refine unsent touched ?_ send
    rw [recv]
    exact fun valid => (valid.read _).1
  | written _ held recv wrote send _ _ _ _ _ _ _ =>
    obtain ⟨blockedAt, send⟩ := send
    have opened := valid.opened held.opened
    obtain ⟨sound, _, _, _, _, advances, _⟩ := opened.send.write wrote
    refine alone (.held held) ?_ ?_ ?_
    · rw [recv]
      exact id
    · rw [send]
      exact sound.raise (le_refl _) blockedAt
    · rw [send]
      intro running
      have kept := advances running
      exact ⟨kept.running, kept.unsentOff, kept.finOff, kept.acked⟩
  | readShut _ held first recv send _ _ _ _ _ =>
    refine unsent (.held held) ?_ send
    rw [recv]
    exact fun valid => (valid.shutdown first).1
  | cut cause _ held recv _ _ _ _ _ =>
    have truncated := cause.truncated (valid.opened held.opened).send
    exact alone (.held held) (by rw [recv]; exact id) (.truncated cause.not_running truncated)
      fun running => absurd running cause.not_running
  | stoppedAgain held _ _ => exact unsent (.held held) id rfl
  | stopIgnored _ _ quiet _ => exact valid.quiet quiet
  | granted quiet _ _ _ _ _ => exact valid.quiet quiet
  | reset _ touched outcome send _ _ _ _ _ _ _ =>
    exact unsent touched (fun valid => (valid.reset outcome).valid) send
  | received held outcome send _ _ _ _ _ _ =>
    exact unsent (.held held) (fun valid => valid.write outcome) send
  | acked sent found touched recv send _ _ =>
    obtain ⟨sound, ends, unsentOff, bytes⟩ := (valid.streams.live _ _ found).send.ackAndDrop
      fun running => valid.within _ _ found running _ sent rfl
    rw [← send] at sound ends unsentOff bytes
    refine alone touched (by rw [recv]; exact id) sound fun running => ?_
    exact ends.advances unsentOff
      (fun value member => (bytes (ends.running.mp running) value).mpr (.inl member)) running
  | ackIgnored _ _ => exact valid
  | resetAcked _ touched recv send _ => exact unsent touched (by rw [recv]; exact id) send
  | resetAckIgnored _ => exact valid
  | lost sent found held recv send _ _ _ =>
    obtain ⟨sound, ends, unsentOff, bytes⟩ := (valid.streams.live _ _ found).send.retransmit
      fun running => valid.within _ _ found running _ sent rfl
    rw [← send] at sound ends unsentOff bytes
    exact alone (.held held) (by rw [recv]; exact id) sound
      (ends.advances unsentOff (by rw [bytes]; exact fun _ => id))
  | sent emits => exact valid.emits emits
  | resetSent quiet _ => exact valid.quiet quiet
  | advertised quiet _ _ _ _ _ => exact valid.quiet quiet
  | destroyed found closing isServer streams destroyed control events _ =>
    exact valid.destroyed found closing isServer streams destroyed control events

theorem Reachable.invariant {guard : World → Op → Prop} {property : World → Prop} {world : World}
    (reached : Reachable guard world)
    (initial : ∀ isServer maxConnectionWindow maxStreamWindow localParams eventsEnabled,
      property (.new isServer maxConnectionWindow maxStreamWindow localParams eventsEnabled))
    (preserved : ∀ {before op after}, before.Valid → property before → guard before op →
      Effect before op after → property after) : world.Valid ∧ property world := by
  obtain ⟨isServer, maxConnectionWindow, maxStreamWindow, localParams, enabled, run⟩ := reached
  have kept : ∀ before op after, (before.Valid ∧ property before) → guard before op →
      before.step op = some after → after.Valid ∧ property after := by
    intro before op after holds allowed stepped
    have effect := step_effect before stepped
    exact ⟨holds.1.step effect, preserved holds.1 holds.2 allowed effect⟩
  exact run.invariant kept ⟨.new _ _ _ _ _, initial _ _ _ _ _⟩

end World

end Tquic.Connection
