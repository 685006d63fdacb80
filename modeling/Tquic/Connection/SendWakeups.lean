import Tquic.Connection.SendableQueue

/-! Wakeups for sending. A stream enters the queue of sendable streams when it gets something
to send, and leaves it once it has no data to send. A FIN that is to be sent without data is
no data, so it goes out only if the stream is queued on its account or if the FIN travels with
the last byte of data that is queued. -/

set_option autoImplicit false

namespace Tquic.Connection

open Lib

namespace SendBuf

/-- A byte waits to be sent, for the first time or again. -/
def Pending (send : SendBuf) (value : Nat) : Prop :=
  value ∈ send.retransmits ∨ send.unsentOff ≤ value ∧ value < send.writeOff

/-- The last byte that was written waits to be sent, and will take the FIN along. -/
def tailPending (send : SendBuf) : Bool :=
  send.unsentOff < send.writeOff ||
    (0 < send.writeOff && send.retransmits.contains (send.writeOff - 1))

theorem tailPending_iff {send : SendBuf} :
    send.tailPending = true ↔ ∃ value, send.Pending value ∧ value + 1 = send.writeOff := by
  rw [tailPending, Bool.or_eq_true, Bool.and_eq_true, decide_eq_true_iff, decide_eq_true_iff,
    RangeSet.contains_iff]
  constructor
  · rintro (unsent | ⟨filled, lost⟩)
    · exact ⟨send.writeOff - 1, .inr (by omega), by omega⟩
    · exact ⟨send.writeOff - 1, .inl lost, by omega⟩
  · rintro ⟨value, lost | unsent, last⟩
    · refine .inr ⟨by omega, ?_⟩
      rw [← last, Nat.add_sub_cancel]
      exact lost
    · exact .inl (by omega)

section Coherent

variable {send after : SendBuf} {stream : Bytes}

section

variable (coherent : Coherent send stream)

include coherent

theorem Coherent.pending_lt {value : Nat}
    (pending : send.Pending value) : value < send.writeOff := by
  rcases pending with lost | unsent
  · exact (coherent.retransmits value lost).1.trans_le coherent.unsent
  · exact unsent.2

theorem Coherent.sendOff_le_pending {value : Nat}
    (pending : send.Pending value) : send.sendOff ≤ value := by
  rcases pending with lost | unsent
  · exact sendOff_le lost
  · exact coherent.sendOff_le_unsentOff.trans unsent.1

/-- A pending byte is not acknowledged, so its block is still there. -/
theorem Coherent.ready_iff : send.ready = true ↔ ∃ value, send.Pending value := by
  rw [ready, Bool.and_eq_true, Bool.not_eq_true', decide_eq_true_iff]
  constructor
  · rintro ⟨_, less⟩
    rcases send.sendOff_cases with lost | ⟨same, _⟩
    · exact ⟨_, .inl lost⟩
    · exact ⟨send.sendOff, .inr ⟨same.ge, less⟩⟩
  · rintro ⟨value, pending⟩
    refine ⟨?_, (coherent.sendOff_le_pending pending).trans_lt (coherent.pending_lt pending)⟩
    by_contra dropped
    have empty : send.data.isEmpty = true := by simpa using dropped
    have acked : value ∈ send.acked := by
      apply coherent.below
      rw [coherent.seekable.blocks.isEmpty_iff.mp empty, coherent.length]
      exact coherent.pending_lt pending
    rcases pending with lost | unsent
    · exact (coherent.retransmits value lost).2 acked
    · exact absurd (coherent.acked value acked) (by omega)

theorem Coherent.tail_ready (tail : send.tailPending = true) : send.ready = true := by
  obtain ⟨value, pending, _⟩ := tailPending_iff.mp tail
  exact coherent.ready_iff.mpr ⟨value, pending⟩

end

/-! ## What waits after an operation -/

theorem Coherent.pending_transmitted (coherent : Coherent send stream) {len : Nat}
    (transmitted : Transmitted send after send.sendOff len) (value : Nat) :
    after.Pending value ↔
      send.Pending value ∧ ¬ (send.sendOff ≤ value ∧ value < send.sendOff + len) := by
  have low := coherent.sendOff_le_unsentOff
  rw [Pending, Pending, transmitted.retransmits, transmitted.unsentOff, transmitted.same.writeOff]
  constructor
  · rintro (⟨lost, outside⟩ | unsent)
    · exact ⟨.inl lost, outside⟩
    · exact ⟨.inr (by omega), by omega⟩
  · rintro ⟨lost | unsent, outside⟩
    · exact .inl ⟨lost, outside⟩
    · exact .inr (by omega)

theorem Acknowledged.pending {off len : Nat} (acknowledged : Acknowledged send after off len)
    (sent : off + len ≤ send.unsentOff) (value : Nat) :
    after.Pending value ↔ send.Pending value ∧ ¬ (off ≤ value ∧ value < off + len) := by
  rw [Pending, Pending, acknowledged.retransmits, acknowledged.same.unsentOff,
    acknowledged.same.writeOff]
  constructor
  · rintro (⟨lost, outside⟩ | unsent)
    · exact ⟨.inl lost, outside⟩
    · exact ⟨.inr unsent, by omega⟩
  · rintro ⟨lost | unsent, outside⟩
    · exact .inl ⟨lost, outside⟩
    · exact .inr unsent

theorem Requeued.pending {off len : Nat} (requeued : Requeued send after off len) (value : Nat) :
    after.Pending value ↔
      send.Pending value ∨ (off ≤ value ∧ value < off + len) ∧ value ∉ send.acked := by
  rw [Pending, Pending, requeued.retransmits, requeued.same.unsentOff, requeued.same.writeOff]
  tauto

theorem Written.pending {data : Bytes} {fin : Bool} {written : Nat}
    (spec : Written send after data fin written) (unsent : send.unsentOff ≤ send.writeOff)
    (value : Nat) : after.Pending value ↔
      send.Pending value ∨ send.writeOff ≤ value ∧ value < send.writeOff + written := by
  rw [Pending, Pending, spec.shape]
  dsimp only
  constructor
  · rintro (lost | fresh)
    · exact .inl (.inl lost)
    · by_cases earlier : value < send.writeOff
      · exact .inl (.inr ⟨fresh.1, earlier⟩)
      · exact .inr (by omega)
  · rintro ((lost | fresh) | fresh)
    · exact .inl lost
    · exact .inr (by omega)
    · exact .inr (by omega)

end Coherent

/-! ## Streams that will be looked at -/

/-- What is queued takes the FIN along: the last byte is queued, or the stream stands in the
queue once more than its data needs. -/
def FinCovered (send : SendBuf) (times : Nat) : Prop :=
  send.ready = true → send.tailPending = true ∨ 2 ≤ times

instance (send : SendBuf) (times : Nat) : Decidable (send.FinCovered times) :=
  inferInstanceAs (Decidable (_ → _))

/-- A send buffer whose stream stands in the queue `times` times, so that all that it has to
send will go out; `due` says that a FIN has to be sent. -/
structure Awake (send : SendBuf) (times : Nat) (due : Prop) : Prop where
  ready : send.ready = true → 1 ≤ times
  ended : due → send.finOff = some send.writeOff
  queued : due → 1 ≤ times
  covered : due → send.FinCovered times

namespace Awake

variable {send after : SendBuf} {stream : Bytes} {times : Nat} {due : Prop}

theorem imp {fewer : Prop} (awake : send.Awake times due) (keeps : fewer → due) :
    send.Awake times fewer :=
  ⟨awake.ready, fun holds => awake.ended (keeps holds), fun holds => awake.queued (keeps holds),
    fun holds => awake.covered (keeps holds)⟩

theorem limits (awake : send.Awake times due) (maxData : Nat) (blockedAt : Option Nat) :
    Awake { send with maxData, blockedAt } times due :=
  ⟨awake.ready, awake.ended, awake.queued, awake.covered⟩

/-- A read that does not hand out the FIN leaves the last byte pending if it was, and there
was something to hand out before. -/
theorem read_without_fin (awake : send.Awake times due) (coherent : Coherent send stream)
    (isDue : due) {len : Nat} (fits : send.sendOff + len ≤ send.writeOff)
    (transmitted : Transmitted send after send.sendOff len)
    (withoutFin : send.finOff ≠ some (send.sendOff + len)) :
    send.ready = true ∧ (send.tailPending = true → after.tailPending = true) := by
  rw [awake.ended isDue, ne_eq, Option.some.injEq] at withoutFin
  refine ⟨?_, fun tail => ?_⟩
  · rw [coherent.ready_iff]
    rcases send.sendOff_cases with lost | ⟨same, _⟩
    · exact ⟨_, .inl lost⟩
    · exact ⟨send.sendOff, .inr ⟨same.ge, by omega⟩⟩
  · obtain ⟨value, pending, last⟩ := tailPending_iff.mp tail
    refine tailPending_iff.mpr ⟨value, ?_, last.trans transmitted.same.writeOff.symm⟩
    exact (coherent.pending_transmitted transmitted value).mpr ⟨pending, by omega⟩

theorem read (awake : send.Awake times due) (coherent : Coherent send stream)
    (queued : 1 ≤ times) {outLen : Nat} {bytes : Bytes} {fin : Bool}
    (handed : send.read outLen = some ((bytes, fin), after)) :
    after.Awake (if after.ready then times else times - 1) (due ∧ fin = false) := by
  obtain ⟨out, next, taken, _, handedOut⟩ := coherent.read outLen
  rw [taken] at handed
  cases handed
  have same := handedOut.transmitted.same
  have fits : send.sendOff + bytes.length ≤ send.writeOff := by
    have bound := handedOut.coherent.unsent
    rw [handedOut.transmitted.unsentOff, same.writeOff] at bound
    exact (le_max_right _ _).trans bound
  have without (holds : due ∧ decide (send.finOff = some (send.sendOff + bytes.length)) = false) :=
    awake.read_without_fin coherent holds.1 fits handedOut.transmitted (of_decide_eq_false holds.2)
  have covered (holds : due ∧ decide (send.finOff = some (send.sendOff + bytes.length)) = false) :
      after.tailPending = true ∨ 2 ≤ times :=
    (awake.covered holds.1 (without holds).1).imp_left (without holds).2
  have ended (holds : due ∧ decide (send.finOff = some (send.sendOff + bytes.length)) = false) :
      after.finOff = some after.writeOff := by
    rw [same.finOff, same.writeOff]
    exact awake.ended holds.1
  by_cases left : after.ready = true
  · rw [if_pos left]
    exact ⟨fun _ => queued, ended, fun _ => queued, fun holds _ => covered holds⟩
  · rw [if_neg left]
    refine ⟨fun ready => absurd ready left, ended, fun holds => ?_,
      fun _ ready => absurd ready left⟩
    rcases covered holds with tail | twice
    · exact absurd (handedOut.coherent.tail_ready tail) left
    · omega

/-- The last byte may be acknowledged in another frame while the FIN is due. -/
theorem ack (awake : send.Awake times due) (coherent : Coherent send stream) {off len : Nat}
    (sent : off + len ≤ send.unsentOff)
    (reaches : due → 0 < len → off + len = send.writeOff → send.ready = true →
      off ≤ send.sendOff ∨ 2 ≤ times) :
    (send.ackAndDrop off len).Awake times due := by
  obtain ⟨acknowledged, later⟩ := coherent.ackAndDrop sent
  have same := acknowledged.same
  have was (ready : (send.ackAndDrop off len).ready = true) : send.ready = true := by
    obtain ⟨value, pending⟩ := later.ready_iff.mp ready
    exact coherent.ready_iff.mpr ⟨value, ((acknowledged.pending sent value).mp pending).1⟩
  refine ⟨fun ready => awake.ready (was ready),
    fun isDue => by rw [same.finOff, same.writeOff, awake.ended isDue], awake.queued, ?_⟩
  intro isDue ready
  rcases awake.covered isDue (was ready) with tail | twice
  · obtain ⟨last, pending, atEnd⟩ := tailPending_iff.mp tail
    by_cases covered : off ≤ last ∧ last < off + len
    · have within := coherent.unsent
      rcases reaches isDue (by omega) (by omega) (was ready) with low | twice
      · -- Everything that was pending is acknowledged.
        obtain ⟨value, left⟩ := later.ready_iff.mp ready
        obtain ⟨earlier, outside⟩ := (acknowledged.pending sent value).mp left
        have first := coherent.sendOff_le_pending earlier
        have bound := coherent.pending_lt earlier
        omega
      · exact .inr twice
    · exact .inl (tailPending_iff.mpr ⟨last, (acknowledged.pending sent last).mpr ⟨pending, covered⟩,
        atEnd.trans same.writeOff.symm⟩)
  · exact .inr twice

/-- A frame was lost. If it carried the FIN, the FIN goes out again with the last byte of the
frame unless that is acknowledged. -/
theorem lost (awake : send.Awake times due) (coherent : Coherent send stream) {off len : Nat}
    {fin : Bool} (sent : off + len ≤ send.unsentOff)
    (ended : fin = true → send.finOff = some (off + len))
    (carried : fin = true → 0 < len ∧ off + len - 1 ∉ send.acked ∨
      (len = 0 ∨ 1 ≤ times) ∧ send.FinCovered times) :
    (send.retransmit off len).Awake
      (times + if (((send.retransmit off len).ready || (len = 0 && fin)) && !send.ready) = true
        then 1 else 0) (due ∨ fin = true) := by
  obtain ⟨requeued, later⟩ := coherent.retransmit sent
  have same := requeued.same
  have tailStays (tail : send.tailPending = true) :
      (send.retransmit off len).tailPending = true := by
    obtain ⟨value, pending, last⟩ := tailPending_iff.mp tail
    exact tailPending_iff.mpr
      ⟨value, (requeued.pending value).mpr (.inl pending), last.trans same.writeOff.symm⟩
  have final (carries : fin = true) : off + len = send.writeOff := coherent.final _ (ended carries)
  have tailLost (carries : fin = true) (filled : 0 < len) (unacked : off + len - 1 ∉ send.acked) :
      (send.retransmit off len).tailPending = true := by
    refine tailPending_iff.mpr ⟨off + len - 1, (requeued.pending _).mpr (.inr ⟨by omega, unacked⟩), ?_⟩
    rw [same.writeOff, ← final carries]
    omega
  have ends : due ∨ fin = true →
      (send.retransmit off len).finOff = some (send.retransmit off len).writeOff := by
    rw [same.finOff, same.writeOff]
    rintro (isDue | carries)
    · exact awake.ended isDue
    · rw [ended carries, final carries]
  by_cases before : send.ready = true
  · rw [if_neg (by rw [before, Bool.not_true, Bool.and_false]; exact Bool.false_ne_true)]
    refine ⟨fun _ => awake.ready before, ends, fun _ => awake.ready before, ?_⟩
    rintro (isDue | carries) _
    · exact (awake.covered isDue before).imp_left tailStays
    · rcases carried carries with ⟨filled, unacked⟩ | ⟨_, covered⟩
      · exact .inl (tailLost carries filled unacked)
      · exact (covered before).imp_left tailStays
  · rw [Bool.eq_false_iff.mpr before, Bool.not_false, Bool.and_true]
    have woken (ready : (send.retransmit off len).ready = true) :
        ((send.retransmit off len).ready || (len = 0 && fin)) = true := by
      rw [ready, Bool.true_or]
    refine ⟨fun ready => ?_, ends, ?_, ?_⟩
    · rw [if_pos (woken ready)]
      exact Nat.le_add_left 1 times
    · rintro (isDue | carries)
      · exact (awake.queued isDue).trans (Nat.le_add_right _ _)
      · rcases carried carries with ⟨filled, unacked⟩ | ⟨empty | queued, _⟩
        · rw [if_pos (woken (later.tail_ready (tailLost carries filled unacked)))]
          exact Nat.le_add_left 1 times
        · rw [empty, carries, if_pos (by simp)]
          exact Nat.le_add_left 1 times
        · exact queued.trans (Nat.le_add_right _ _)
    · rintro (isDue | carries) ready
      · have queued := awake.queued isDue
        rw [if_pos (woken ready)]
        exact .inr (by omega)
      · rcases carried carries with ⟨filled, unacked⟩ | ⟨empty | queued, _⟩
        · exact .inl (tailLost carries filled unacked)
        · -- Nothing is added, and nothing was pending.
          obtain ⟨value, pending⟩ := later.ready_iff.mp ready
          rcases (requeued.pending value).mp pending with earlier | ⟨inside, _⟩
          · exact absurd (coherent.ready_iff.mpr ⟨value, earlier⟩) before
          · omega
        · rw [if_pos (woken ready)]
          exact .inr (by omega)

/-- Data was written, or nothing but the end; `now` says that a FIN was taken. -/
theorem write (awake : send.Awake times due) (coherent : Coherent send stream) {data : Bytes}
    {fin : Bool} {written : Nat} {now : Prop} (wrote : send.write data fin = .ok (written, after))
    (whole : now → fin = true ∧ written = data.length)
    (covers : data = [] → fin = true → send.FinCovered times) :
    after.Awake
      (times + if ((after.ready || (data.length = 0 && fin)) && !send.ready) = true then 1 else 0)
      (due ∨ now) := by
  have spec := write_spec wrote
  have later := coherent.write spec
  have shape := spec.shape
  have count := spec.count
  have pending := spec.pending coherent.unsent
  have writeOff : after.writeOff = send.writeOff + written := by rw [shape]
  -- Behind the end only another end without data is taken.
  have empty (isDue : due) : data = [] ∧ fin = true := by
    obtain ⟨within, marked⟩ := spec.final _ (awake.ended isDue)
    have nothing : data = [] := List.length_eq_zero_iff.mp (by omega)
    exact ⟨nothing, (marked (by rw [nothing]; rfl)).1⟩
  have ended (holds : due ∨ now) : after.finOff = some after.writeOff := by
    have stored : fin = true ∧ data.length = written := by
      rcases holds with isDue | isNow
      · obtain ⟨nothing, flagged⟩ := empty isDue
        rw [nothing, List.length_nil] at count ⊢
        exact ⟨flagged, by omega⟩
      · exact ⟨(whole isNow).1, (whole isNow).2.symm⟩
    rw [shape]
    dsimp only
    rw [if_pos ⟨stored.1, by omega⟩, stored.2]
  have enough (woken : after.ready = true ∨ data = [] ∧ fin = true) :
      1 ≤ times + if ((after.ready || (data.length = 0 && fin)) && !send.ready) = true then 1
        else 0 := by
    by_cases before : send.ready = true
    · exact (awake.ready before).trans (Nat.le_add_right _ _)
    · rw [if_pos]
      · exact Nat.le_add_left 1 times
      · rw [Bool.eq_false_iff.mpr before, Bool.not_false, Bool.and_true]
        rcases woken with ready | ⟨rfl, rfl⟩
        · rw [ready, Bool.true_or]
        · exact Bool.or_true _
  have tail (holds : now) (filled : data ≠ []) : after.tailPending = true := by
    have some := List.length_pos_iff.mpr filled
    have stored := (whole holds).2
    refine tailPending_iff.mpr ⟨send.writeOff + written - 1, (pending _).mpr (.inr ?_), ?_⟩
    · omega
    · omega
  refine ⟨fun ready => enough (.inl ready), ended, ?_, ?_⟩
  · rintro (isDue | isNow)
    · exact enough (.inr (empty isDue))
    · by_cases filled : data = []
      · exact enough (.inr ⟨filled, (whole isNow).1⟩)
      · exact enough (.inl (later.tail_ready (tail isNow filled)))
  · intro holds ready
    by_cases filled : data = []
    · have flagged : fin = true := holds.elim (fun isDue => (empty isDue).2) fun isNow => (whole isNow).1
      rw [filled, List.length_nil] at count
      obtain ⟨value, left⟩ := later.ready_iff.mp ready
      have earlier := ((pending value).mp left).resolve_right (by omega)
      refine (covers filled flagged (coherent.ready_iff.mpr ⟨value, earlier⟩)).imp (fun last => ?_)
        fun twice => twice.trans (Nat.le_add_right _ _)
      obtain ⟨final, before, atEnd⟩ := tailPending_iff.mp last
      exact tailPending_iff.mpr ⟨final, (pending final).mpr (.inl before), by omega⟩
    · rcases holds with isDue | isNow
      · exact absurd (empty isDue).1 filled
      · exact .inl (tail isNow filled)

end Awake

end SendBuf

namespace StreamMap

/-- What holds of a stream that was neither stopped nor shut down, given the frames that were
sent and whether its FIN is due. -/
structure Tracked (sent : List StreamFrame) (id times : Nat) (due : Prop) (send : SendBuf) :
    Prop where
  carried : ∀ frame ∈ sent, frame.streamId = id → frame.fin = true →
    send.finOff = some (frame.offset + frame.length)
  awake : send.Awake times due

/-- Every open stream with something to send is in the queue often enough. -/
structure Watched (map : StreamMap) (sent : List StreamFrame) (due : List Nat) : Prop where
  spent : ∀ id ∈ due, map.Spent id
  streams : ∀ id stream, map.get id = some stream → stream.closed = false →
    stream.send.Running → Tracked sent id (map.queuedTimes id) (id ∈ due) stream.send

def settle (due : List Nat) (frames : List StreamFrame) : List Nat :=
  due.filter fun id => !frames.any fun frame => frame.streamId = id && frame.fin

theorem mem_settle {due : List Nat} {frames : List StreamFrame} {id : Nat} :
    id ∈ settle due frames ↔
      id ∈ due ∧ ∀ frame ∈ frames, ¬ (frame.streamId = id ∧ frame.fin = true) := by
  simp [settle]

theorem settle_nil (due : List Nat) : settle due [] = due :=
  List.filter_eq_self.mpr fun _ _ => rfl

private theorem settle_cons (due : List Nat) (frame : StreamFrame) (frames : List StreamFrame) :
    settle due (frame :: frames) = settle (settle due [frame]) frames := by
  rw [settle, settle, settle, List.filter_filter]
  congr 1
  funext id
  rw [List.any_cons, Bool.not_or, Bool.and_comm, List.any_cons, List.any_nil, Bool.or_false]

variable {stream : Stream}

theorem Fresh.tracked {isServer : Bool} {id : Nat}
    (fresh : Fresh isServer id stream) {sent : List StreamFrame} (times : Nat) {due : Prop}
    (unsent : ∀ frame ∈ sent, frame.streamId ≠ id) (notDue : ¬ due) :
    Tracked sent id times due stream.send := by
  obtain ⟨_, _, _, rfl⟩ := fresh
  refine ⟨fun frame member own => absurd own (unsent frame member), fun ready => ?_,
    fun isDue => absurd isDue notDue, fun isDue => absurd isDue notDue,
    fun isDue => absurd isDue notDue⟩
  cases ready

theorem Touched.still_open {before after : StreamMap} {id : Nat} {old new : Stream}
    (touched : Touched before after id old new) (opened : new.closed = false) :
    old.closed = false := by
  by_contra closed
  rw [touched.closed (Bool.eq_true_of_not_eq_false closed)] at opened
  cases opened

namespace Watched

variable {map after : StreamMap} {sent : List StreamFrame} {due later : List Nat} {id : Nat}
  {old new : Stream}

theorem opened (watched : map.Watched sent due) (valid : map.Valid sent)
    (opened : map.Opened id old) (closed : old.closed = false) (running : old.send.Running) :
    Tracked sent id (map.queuedTimes id) (id ∈ due) old.send := by
  rcases opened with found | ⟨_, unused, fresh⟩
  · exact watched.streams id old found closed running
  · exact fresh.tracked _ (fun frame member same => unused (same ▸ valid.sentSpent frame member))
      fun isDue => unused (watched.spent id isDue)

theorem quiet (watched : map.Watched sent due) (valid : map.Valid sent) (quiet : Quiet map after)
    (times : ∀ other stream, map.get other = some stream → stream.send.Running →
      after.queuedTimes other = map.queuedTimes other) : after.Watched sent due where
  spent other isDue := quiet.spent valid.steady (watched.spent other isDue)
  streams other stream found closed running := by
    rw [quiet.get] at found
    rw [times other stream found running]
    exact watched.streams other stream found closed running

theorem touched {frames : List StreamFrame} (watched : map.Watched sent due)
    (valid : map.Valid sent) (touched : Touched map after id old new)
    (others : ∀ other, other ≠ id → after.queuedTimes other = map.queuedTimes other)
    (fewer : ∀ other ∈ later, other ∈ due ∨ other = id)
    (own : ∀ frame ∈ frames, frame.streamId = id)
    (tracked : new.closed = false → new.send.Running → old.closed = false ∧ old.send.Running ∧
      (Tracked sent id (map.queuedTimes id) (id ∈ due) old.send →
        Tracked (sent ++ frames) id (after.queuedTimes id) (id ∈ later) new.send)) :
    after.Watched (sent ++ frames) later where
  spent other isDue := by
    rcases fewer other isDue with earlier | rfl
    · exact touched.spent valid.steady (watched.spent other earlier)
    · exact touched.spent_self valid.steady (valid.spent other)
  streams other stream found opened running := by
    rcases touched.live found with ⟨rfl, rfl⟩ | ⟨apart, earlier⟩
    · obtain ⟨before, still, next⟩ := tracked opened running
      exact next (watched.opened valid touched.opened before still)
    · obtain ⟨carried, awake⟩ := watched.streams other stream earlier opened running
      refine ⟨fun frame member same => ?_, ?_⟩
      · rcases List.mem_append.mp member with former | fresh
        · exact carried frame former same
        · exact absurd (same.symm.trans (own frame fresh)) apart
      · rw [others other apart]
        exact awake.imp fun isDue => (fewer other isDue).resolve_right apart

theorem changed (watched : map.Watched sent due) (valid : map.Valid sent)
    (touched : Touched map after id old new)
    (others : ∀ other, other ≠ id → after.queuedTimes other = map.queuedTimes other)
    (fewer : ∀ other ∈ later, other ∈ due ∨ other = id)
    (tracked : new.closed = false → new.send.Running → old.closed = false ∧ old.send.Running ∧
      (Tracked sent id (map.queuedTimes id) (id ∈ due) old.send →
        Tracked sent id (after.queuedTimes id) (id ∈ later) new.send)) :
    after.Watched sent later := by
  have result : after.Watched (sent ++ []) later := by
    refine watched.touched valid touched others fewer (by simp) ?_
    rwa [List.append_nil]
  rwa [List.append_nil] at result

/-- Limits of the stream may change, but nothing that is to be sent. -/
theorem kept (watched : map.Watched sent due) (valid : map.Valid sent)
    (touched : Touched map after id old new)
    (times : ∀ other, after.queuedTimes other = map.queuedTimes other) (send : new.send.Running →
      ∃ maxData blockedAt, new.send = { old.send with maxData, blockedAt }) :
    after.Watched sent due := by
  refine watched.changed valid touched (fun other _ => times other) (fun _ => .inl)
    fun opened running => ?_
  obtain ⟨maxData, blockedAt, same⟩ := send running
  rw [same] at running ⊢
  refine ⟨touched.still_open opened, running, fun before => ?_⟩
  rw [times id]
  exact ⟨before.carried, before.awake.limits maxData blockedAt⟩

theorem frame {stream : Stream} {outLen : Nat} {bytes : Bytes} {fin : Bool} {send : SendBuf}
    (watched : map.Watched sent due) (valid : map.Valid sent) (found : map.get id = some stream)
    (handed : stream.send.read outLen = some ((bytes, fin), send))
    (held : Held map after id stream { stream with send })
    (kept : send.ready = true → ∀ other, after.queuedTimes other = map.queuedTimes other)
    (removed : send.ready = false → ∀ other,
      after.queuedTimes other + [id].count other = map.queuedTimes other)
    (queued : 1 ≤ map.queuedTimes id) :
    after.Watched (sent ++ [⟨id, stream.send.sendOff, bytes.length, fin⟩])
      (settle due [⟨id, stream.send.sendOff, bytes.length, fin⟩]) := by
  have count : ∀ other, other ≠ id → [id].count other = 0 := fun other apart =>
    List.count_eq_zero.mpr fun member => apart (List.mem_singleton.mp member)
  obtain ⟨_, _, ends, _, flagged, _⟩ := valid.frame found handed
  refine watched.touched valid (.held held) (fun other apart => ?_) ?_ (by simp)
    fun opened running => ?_
  · cases left : send.ready with
    | true => exact kept left other
    | false =>
      have fewer := removed left other
      rw [count other apart] at fewer
      exact fewer
  · exact fun other isDue => .inl (mem_settle.mp isDue).1
  · have still := ends.running.mp running
    refine ⟨opened, still, fun before => ⟨?_, ?_⟩⟩
    · intro frame member same carries
      rw [ends.finOff]
      rcases List.mem_append.mp member with earlier | fresh
      · exact before.carried frame earlier same carries
      · rw [List.mem_singleton] at fresh
        rw [fresh] at carries ⊢
        exact of_decide_eq_true (flagged ▸ carries)
    · cases (valid.streams.live id stream found).send with
      | truncated reset _ => exact absurd still reset
      | running _ _ coherent =>
        have awake := before.awake.read coherent queued handed
        have times : after.queuedTimes id =
            if send.ready then map.queuedTimes id else map.queuedTimes id - 1 := by
          cases left : send.ready with
          | true => exact kept left id
          | false =>
            have fewer := removed left id
            rw [List.count_singleton_self] at fewer
            rw [if_neg Bool.false_ne_true]
            omega
        rw [times]
        refine awake.imp fun isDue => ?_
        obtain ⟨earlier, without⟩ := mem_settle.mp isDue
        exact ⟨earlier, Bool.eq_false_iff.mpr fun carries =>
          without _ (List.mem_singleton_self _) ⟨rfl, carries⟩⟩

end Watched

private theorem setStream_removeSendable (map : StreamMap) (id : Nat) (stream : Stream) :
    (map.setStream id stream).removeSendable.sendable = map.removeSendable.sendable := by
  unfold removeSendable setStream
  dsimp only
  cases map.sendable.first? with
  | none => rfl
  | some entry =>
    dsimp only
    split_ifs <;> rfl

/-- A stream that has nothing more to send gives up one entry of the queue. -/
theorem drained_spec {map middle next : StreamMap} {id : Nat}
    (looked : map.peekSendable = (some id, middle))
    (drained : (if !stream.isSendable then (middle.setStream id stream).removeSendable
      else middle.setStream id stream) = next) :
    Quiet (middle.setStream id stream) next ∧
      (stream.isSendable = true → ∀ other, next.queuedTimes other = middle.queuedTimes other) ∧
      (stream.isSendable = false → ∀ other,
        next.queuedTimes other + [id].count other = middle.queuedTimes other) := by
  obtain ⟨times, popped⟩ := queuedTimes_peekSendable map
  simp only [looked, Option.some.injEq, forall_eq'] at popped times
  rw [← drained]
  cases left : stream.isSendable with
  | true => exact ⟨.refl _, fun _ _ => rfl, fun idle => absurd idle (by decide)⟩
  | false =>
    refine ⟨(removeSendable_requeue _).quiet, fun ready => absurd ready (by decide), ?_⟩
    intro _ other
    rw [Bool.not_false, if_pos rfl,
      queuedTimes_of_sendable (setStream_removeSendable middle id _) other]
    exact (popped other).trans (times other).symm

theorem queuedTimes_peeked {map middle : StreamMap} {id : Nat}
    (found : map.peekSendable = (some id, middle)) : 1 ≤ middle.queuedTimes id := by
  obtain ⟨times, popped⟩ := queuedTimes_peekSendable map
  simp only [found, Option.some.injEq, forall_eq'] at popped times
  have own := popped id
  rw [List.count_singleton_self] at own
  rw [times id]
  omega

private theorem writeStreamFrames_watched {fuel cap : Nat} {map after : StreamMap}
    {sent frames : List StreamFrame} {due : List Nat} (watched : map.Watched sent due)
    (valid : map.Valid sent) (written : writeStreamFrames fuel map cap = some (frames, after)) :
    after.Watched (sent ++ frames) (settle due frames) := by
  induction fuel generalizing map cap frames sent due with
  | zero => simp [writeStreamFrames] at written
  | succ fuel ih =>
    obtain ⟨times, popped⟩ := queuedTimes_peekSendable map
    have peeked := (peekSendable_requeue map).1.quiet
    have looked : map.peekSendable.2.Watched sent due :=
      watched.quiet valid peeked fun other _ _ _ => times other
    rcases writeStreamFrames_cases written with ⟨found, rfl⟩ | ⟨id, middle, found, round⟩
    · rw [found] at looked
      rw [settle_nil, List.append_nil]
      exact looked
    · simp only [found, Option.some.injEq, forall_eq'] at popped times looked peeked
      have middleValid := valid.quiet peeked
      rcases round with ⟨skipped, rest⟩ |
        ⟨stream, bytes, fin, send, next, later, present, _, handed, drained, rfl, ends⟩
      · -- The stream is gone or does not send any more.
        have removed := (removeSendable_requeue middle).quiet
        refine ih (looked.quiet middleValid removed fun other stream present running => ?_)
          (middleValid.quiet removed) rest
        have apart : other ≠ id := by
          rintro rfl
          rw [present] at skipped
          simp [Option.filter, SendBuf.isStopped, running.2] at skipped
        have fewer := popped other
        rw [count_single, if_neg apart] at fewer
        exact fewer.trans (times other).symm
      · have held := (middleValid.frame present handed).2.1
        obtain ⟨quiet, kept, fewer⟩ := drained_spec found drained
        have looked := looked.frame middleValid present handed (held.quiet quiet) kept fewer
          (queuedTimes_peeked found)
        have valid := (middleValid.frame present handed).1.quiet quiet
        rw [settle_cons, List.append_cons]
        rcases ends with ⟨rfl, rfl⟩ | ⟨_, rest⟩
        · rw [settle_nil, List.append_nil]
          exact looked
        · exact ih looked valid rest

/-- The stream of a lost frame keeps its entries, and gets one if it becomes sendable or if the
frame was an end without data. -/
theorem onStreamFrameLost_held {map : StreamMap} {id : Nat}
    (found : map.get id = some stream) (offset length : Nat) (fin : Bool) :
    Held map (map.onStreamFrameLost id offset length fin) id stream
        { stream with send := stream.send.retransmit offset length } ∧
      ∀ other, (map.onStreamFrameLost id offset length fin).queuedTimes other =
        map.queuedTimes other + if other = id ∧
          (((stream.send.retransmit offset length).ready || (length = 0 && fin)) &&
            !stream.send.ready) = true then 1 else 0 := by
  unfold onStreamFrameLost
  rw [found]
  dsimp only
  have held : Held map (map.setStream id { stream with send := stream.send.retransmit offset length })
      id stream { stream with send := stream.send.retransmit offset length } :=
    (Held.of_get found).set rfl rfl rfl
  refine ⟨held.quiet (noteSendable_spec _ id _ _ _).1, fun other => ?_⟩
  rw [noteSendable_times]
  rfl

end StreamMap

/-! ## Runs -/

/-- The streams with those whose FIN is due: it was written or reported lost, and was not sent
since. -/
structure FinRun where
  world : World
  due : List Nat

namespace FinRun

open StreamMap

def accepted : Except Error Nat → Nat → Bool
  | .ok written, len => written = len
  | .error _, _ => false

/-- A FIN is taken with the last byte of the data, so not with data that was cut short. -/
def nextDue (run : FinRun) (next : World) : Op → List Nat
  | .write id buf fin =>
    if fin && accepted (run.world.map.streamWrite id buf fin).1 buf.length then id :: run.due
    else run.due
  | .streamLost frame => if frame.fin then frame.streamId :: run.due else run.due
  | .sendStreams _ => settle run.due (next.sent.drop run.world.sent.length)
  | _ => run.due

def step (run : FinRun) (op : Op) : Option FinRun :=
  (run.world.step op).map fun next => ⟨next, run.nextDue next op⟩

/-- A stream of the map that is not closed, and was neither stopped nor shut down. -/
def Sending (map : StreamMap) (id : Nat) (stream : Stream) : Prop :=
  map.get id = some stream ∧ stream.closed = false ∧ stream.send.Running

/-- No FIN is left behind: one that is written or lost without data finds the stream idle, or
its last byte in the queue; a lost one whose data was acknowledged does so too; and while a FIN
is due, no acknowledgement takes the last byte out of the queue and leaves other data there. -/
def KeepsFin (run : FinRun) : Op → Prop
  | .write id buf fin => buf = [] → fin = true → ∀ stream, Sending run.world.map id stream →
      stream.send.FinCovered (run.world.map.queuedTimes id)
  | .streamLost frame => frame.fin = true →
      ∀ stream, Sending run.world.map frame.streamId stream →
        0 < frame.length ∧ frame.offset + frame.length - 1 ∉ stream.send.acked ∨
          (frame.length = 0 ∨ 1 ≤ run.world.map.queuedTimes frame.streamId) ∧
            stream.send.FinCovered (run.world.map.queuedTimes frame.streamId)
  | .streamAcked frame => frame.streamId ∈ run.due → 0 < frame.length →
      ∀ stream, Sending run.world.map frame.streamId stream →
        frame.offset + frame.length = stream.send.writeOff → stream.send.ready = true →
          frame.offset ≤ stream.send.sendOff ∨ 2 ≤ run.world.map.queuedTimes frame.streamId
  | _ => True

def Reachable (guard : FinRun → Op → Prop) (run : FinRun) : Prop :=
  ∃ isServer maxConnectionWindow maxStreamWindow localParams eventsEnabled,
    Run step guard
      ⟨.new isServer maxConnectionWindow maxStreamWindow localParams eventsEnabled, []⟩ run

def Watched (run : FinRun) : Prop := run.world.map.Watched run.world.sent run.due

variable {run : FinRun}

private theorem watched_write {next : World} {id : Nat} {buf : Bytes} {fin : Bool}
    (watched : run.Watched) (valid : run.world.Valid) (allowed : run.KeepsFin (.write id buf fin))
    (stepped : run.world.step (.write id buf fin) = some next) :
    (⟨next, run.nextDue next (.write id buf fin)⟩ : FinRun).Watched := by
  cases stepped
  have cases := streamWrite_cases run.world.map id buf fin
  unfold Watched nextDue
  dsimp only
  generalize run.world.map.streamWrite id buf fin = result at cases
  obtain ⟨outcome, after⟩ := result
  dsimp only at cases ⊢
  cases cases with
  | refused sendable kept =>
    rw [accepted, Bool.and_false, if_neg Bool.false_ne_true]
    have times := queuedTimes_of_sendable sendable
    rcases kept with quiet | ⟨old, new, held, same⟩
    · exact watched.quiet valid quiet fun other _ _ _ => times other
    · exact watched.kept valid (.held held) times fun _ =>
        ⟨old.send.maxData, old.send.blockedAt, same⟩
  | @stored old new send kept finKept count _ held wrote same cut whole times =>
    obtain ⟨blockedAt, same⟩ := same
    let now : Prop := (fin && accepted outcome buf.length) = true
    have taken : now → finKept = true ∧ count = kept.length := by
      intro holds
      obtain ⟨carries, success⟩ := Bool.and_eq_true_iff.mp holds
      cases outcome with
      | error error => cases success
      | ok written =>
        have full : written = buf.length := of_decide_eq_true success
        have exact := whole written rfl
        have count := (SendBuf.write_spec wrote).count
        rcases cut with ⟨rfl, rfl⟩ | ⟨_, short⟩
        · exact ⟨carries, by omega⟩
        · omega
    refine watched.changed valid (.held held) (fun other apart => ?_) (fun other isDue => ?_)
      fun opened running => ?_
    · rw [times other, if_neg fun both => apart both.1, Nat.add_zero]
    · split at isDue
      · exact (List.mem_cons.mp isDue).symm
      · exact .inl isDue
    · have before : old.closed = false := Touched.still_open (.held held) opened
      have sound := (valid.opened held.opened).send
      obtain ⟨_, _, _, _, _, advances, flags⟩ := sound.write wrote
      rw [same] at running ⊢
      have still : old.send.Running := (advances running).running
      refine ⟨before, still, fun tracked => ⟨fun frame member own carries => ?_, ?_⟩⟩
      · exact (advances running).finOff _ (tracked.carried frame member own carries)
      · cases sound with
        | truncated reset _ => exact absurd still reset
        | running _ _ coherent =>
          have covers : kept = [] → finKept = true →
              old.send.FinCovered (run.world.map.queuedTimes id) := by
            rintro empty carries
            rcases cut with ⟨rfl, rfl⟩ | ⟨without, _⟩
            · rcases held.opened with found | ⟨_, _, fresh⟩
              · exact allowed empty carries old ⟨found, before, still⟩
              · obtain ⟨_, _, _, rfl⟩ := fresh
                intro ready
                cases ready
            · rw [without] at carries
              cases carries
          have awake := tracked.awake.write coherent wrote taken covers
          have sendable : new.isSendable = send.ready := by
            rw [Stream.isSendable, same]
            rfl
          rw [times id, sendable, if_congr (and_iff_right rfl) rfl rfl]
          refine (awake.imp fun isDue => ?_).limits send.maxData blockedAt
          split at isDue
          · rename_i holds
            exact .inr holds
          · exact .inl isDue

private theorem watched_lost {next : World} {frame : StreamFrame} (watched : run.Watched)
    (valid : run.world.Valid) (allowed : run.KeepsFin (.streamLost frame))
    (stepped : run.world.step (.streamLost frame) = some next) :
    (⟨next, run.nextDue next (.streamLost frame)⟩ : FinRun).Watched := by
  obtain ⟨sent, moved⟩ := Option.ite_none_right_eq_some.mp stepped
  cases moved
  have spent := valid.sentSpent frame sent
  unfold Watched nextDue
  dsimp only
  cases found : run.world.map.get frame.streamId with
  | none =>
    have same : run.world.map.onStreamFrameLost frame.streamId frame.offset frame.length
        frame.fin = run.world.map := by
      unfold onStreamFrameLost
      rw [found]
    rw [same]
    refine ⟨fun other isDue => ?_, fun other stream present opened running => ?_⟩
    · split at isDue
      · rcases List.mem_cons.mp isDue with rfl | earlier
        · exact spent
        · exact watched.spent other earlier
      · exact watched.spent other isDue
    · obtain ⟨carried, awake⟩ := watched.streams other stream present opened running
      refine ⟨carried, awake.imp fun isDue => ?_⟩
      split at isDue
      · rcases List.mem_cons.mp isDue with rfl | earlier
        · rw [found] at present
          cases present
        · exact earlier
      · exact isDue
  | some stream =>
    obtain ⟨held, times⟩ := onStreamFrameLost_held found frame.offset frame.length frame.fin
    refine watched.changed valid (.held held) (fun other apart => ?_) (fun other isDue => ?_)
      fun opened running => ?_
    · rw [times other, if_neg fun both => apart both.1, Nat.add_zero]
    · split at isDue
      · exact (List.mem_cons.mp isDue).symm
      · exact .inl isDue
    · cases (valid.streams.live _ stream found).send with
      | truncated reset truncated =>
        rw [SendBuf.retransmit, if_pos (by simp [truncated.data])] at running
        exact absurd running reset
      | running _ still coherent =>
        have within := valid.within _ stream found still frame sent rfl
        obtain ⟨requeued, _⟩ := coherent.retransmit within
        refine ⟨opened, still, fun tracked => ⟨fun other member own carries => ?_, ?_⟩⟩
        · rw [requeued.same.finOff]
          exact tracked.carried other member own carries
        · rw [times, if_congr (and_iff_right rfl) rfl rfl]
          refine (tracked.awake.lost coherent within
            (fun carries => tracked.carried frame sent rfl carries)
            fun carries => allowed carries stream ⟨found, opened, still⟩).imp fun isDue => ?_
          split at isDue
          · rename_i carries
            exact .inr carries
          · exact .inl isDue

private theorem watched_effect {next : World} {op : Op} (watched : run.Watched)
    (valid : run.world.Valid) (allowed : run.KeepsFin op) (idle : ¬ World.TouchesQueue op)
    (effect : World.Effect run.world op next)
    (times : ∀ other, next.map.queuedTimes other = run.world.map.queuedTimes other) :
    (⟨next, run.due⟩ : FinRun).Watched := by
  have quiet {after : StreamMap} (quiet : Quiet run.world.map after)
      (same : ∀ other, after.queuedTimes other = run.world.map.queuedTimes other) :
      after.Watched run.world.sent run.due :=
    StreamMap.Watched.quiet watched valid quiet fun other _ _ _ => same other
  have unsent {after : StreamMap} {id : Nat} {old new : Stream}
      (touched : Touched run.world.map after id old new) (send : new.send = old.send)
      (same : ∀ other, after.queuedTimes other = run.world.map.queuedTimes other) :
      after.Watched run.world.sent run.due :=
    watched.kept valid touched same fun _ => ⟨old.send.maxData, old.send.blockedAt, send⟩
  cases effect with
  | still still _ => exact quiet still times
  | kept held _ send _ _ _ =>
    obtain ⟨maxData, blockedAt, _, same⟩ := send
    exact watched.kept valid (.held held) times fun _ => ⟨maxData, blockedAt, same⟩
  | read _ _ _ touched _ send _ _ _ _ _ => exact unsent touched send times
  | readShut _ held _ _ send _ _ _ _ _ => exact unsent (.held held) send times
  | cut cause _ held _ _ _ _ _ _ =>
    exact watched.kept valid (.held held) times fun running => absurd running cause.not_running
  | stoppedAgain held _ _ => exact unsent (.held held) rfl times
  | stopIgnored _ _ still _ => exact quiet still times
  | granted still _ _ _ _ _ => exact quiet still times
  | reset _ touched _ send _ _ _ _ _ _ _ => exact unsent touched send times
  | received held _ send _ _ _ _ _ _ => exact unsent (.held held) send times
  | @acked frame after old new sent found touched _ send _ _ =>
    refine watched.changed valid touched (fun other _ => times other) (fun _ => .inl)
      fun opened running => ?_
    have before := touched.still_open opened
    rw [send] at running ⊢
    cases (valid.streams.live _ old found).send with
    | truncated reset truncated =>
      rw [SendBuf.ackAndDrop, if_pos (by simp [truncated.data])] at running
      exact absurd running reset
    | running _ still coherent =>
      have within := valid.within _ old found still frame sent rfl
      obtain ⟨acknowledged, _⟩ := coherent.ackAndDrop within
      refine ⟨before, still, fun tracked => ⟨fun other member own carries => ?_, ?_⟩⟩
      · rw [acknowledged.same.finOff]
        exact tracked.carried other member own carries
      · rw [times frame.streamId]
        exact tracked.awake.ack coherent within fun isDue filled =>
          allowed isDue filled old ⟨found, before, still⟩
  | ackIgnored _ _ => exact watched
  | resetAcked _ touched _ send _ => exact unsent touched send times
  | resetAckIgnored _ => exact watched
  | resetSent still _ => exact quiet still times
  | advertised still _ _ _ _ _ => exact quiet still times
  | @destroyed id after stream found closing isServer streams _ control _ _ =>
    refine ⟨fun other isDue => ?_, fun other stream present => ?_⟩
    · rw [Spent, control, isServer]
      exact watched.spent other isDue
    · rw [times other]
      rw [StreamMap.get, streams, OrdMap.get?_erase] at present
      split at present
      · cases present
      · exact watched.streams other stream present
  | written | lost | sent => exact absurd trivial idle

private theorem watched_step {run after : FinRun} {op : Op} (watched : run.Watched)
    (valid : run.world.Valid) (allowed : run.KeepsFin op) (stepped : run.step op = some after) :
    after.Watched ∧ after.world.Valid := by
  obtain ⟨next, moved, same⟩ := Option.map_eq_some_iff.mp stepped
  cases same
  have effect := World.step_effect run.world moved
  refine ⟨?_, valid.step effect⟩
  by_cases touches : World.TouchesQueue op
  · cases op with
    | write id buf fin => exact watched_write watched valid allowed moved
    | streamLost frame => exact watched_lost watched valid allowed moved
    | sendStreams outLen =>
      obtain ⟨⟨frames, map⟩, wrote, same⟩ := Option.map_eq_some_iff.mp moved
      cases same
      unfold Watched nextDue
      dsimp only
      rw [List.drop_left]
      unfold tryWriteStreamFrames at wrote
      split at wrote
      · cases wrote
        rw [settle_nil, List.append_nil]
        exact watched
      · exact writeStreamFrames_watched watched valid wrote
    | _ => cases touches
  · have due : run.nextDue next op = run.due := by
      cases op with
      | write | streamLost | sendStreams => exact absurd trivial touches
      | _ => rfl
    rw [due]
    exact watched_effect watched valid allowed touches effect
      (queuedTimes_of_sendable ((World.step_moved moved).sendable touches))

theorem Watched.new (isServer : Bool) (maxConnectionWindow maxStreamWindow : Nat)
    (localParams : StreamTransportParams) (eventsEnabled : Bool) :
    Watched ⟨.new isServer maxConnectionWindow maxStreamWindow localParams eventsEnabled, []⟩ :=
  ⟨fun _ isDue => (List.not_mem_nil isDue).elim, fun _ _ found => by cases found⟩

theorem Reachable.watched (reached : Reachable KeepsFin run) : run.Watched ∧ run.world.Valid := by
  obtain ⟨isServer, maxConnectionWindow, maxStreamWindow, localParams, enabled, steps⟩ := reached
  have kept : ∀ (before : FinRun) (op : Op) (after : FinRun),
      (before.Watched ∧ before.world.Valid) → before.KeepsFin op → before.step op = some after →
        after.Watched ∧ after.world.Valid :=
    fun _ _ _ holds allowed stepped => watched_step holds.1 holds.2 allowed stepped
  exact steps.invariant kept ⟨.new _ _ _ _ _, StreamMap.Valid.new _ _ _ _ _⟩

/-- Data that was not sent and is within the limit, data to send again, or a FIN that is due. -/
def HasToSend (run : FinRun) (id : Nat) (stream : Stream) : Prop :=
  stream.send.unsentOff < stream.send.writeOff ∧ stream.send.unsentOff < stream.send.maxData ∨
    (∃ value, value ∈ stream.send.retransmits) ∨ id ∈ run.due

/-- No wakeup is lost while no FIN is left behind. -/
theorem woken_for_sending (run : FinRun) (reached : Reachable KeepsFin run) :
    ∀ id stream, Sending run.world.map id stream → run.HasToSend id stream →
      run.world.map.Queued id := by
  obtain ⟨watched, valid⟩ := reached.watched
  rintro id stream ⟨found, opened, running⟩ work
  have awake := (watched.streams id stream found opened running).awake
  have ready (value : Nat) (pending : stream.send.Pending value) : stream.send.ready = true := by
    cases (valid.streams.live id stream found).send with
    | running _ _ coherent => exact coherent.ready_iff.mpr ⟨value, pending⟩
    | truncated reset _ => exact absurd running reset
  refine queued_of_queuedTimes ?_
  rcases work with ⟨unsent, _⟩ | ⟨value, lost⟩ | isDue
  · exact awake.ready (ready _ (.inr ⟨le_refl _, unsent⟩))
  · exact awake.ready (ready value (.inl lost))
  · exact awake.queued isDue

/-- The end is written while the data before it is queued, and is lost with it. -/
theorem woken_for_sending_uni :
    ∃ run stream, Reachable KeepsFin run ∧ Sending run.world.map 2 stream ∧ 2 ∈ run.due ∧
      run.world.map.Queued 2 := by
  let check : FinRun → Op → Bool
    | run, .write id buf _ => !buf.isEmpty || (run.world.map.get id).all fun stream =>
      stream.send.FinCovered (run.world.map.queuedTimes id)
    | run, .streamLost frame => (run.world.map.get frame.streamId).all fun stream =>
      0 < frame.length && !stream.send.acked.contains (frame.offset + frame.length - 1)
    | _, .streamAcked _ => false
    | _, _ => true
  have executed : (exec (checked check step) ⟨.new false 100 100 {} false, []⟩
      [.peerParams { initialMaxData := 30, initialMaxStreamDataUni := 20, initialMaxStreamsUni := 1 },
        .write 2 [1, 2, 3] false, .write 2 [] true, .sendStreams 100,
        .streamLost ⟨2, 0, 3, true⟩]).any (fun run => 2 ∈ run.due &&
          (run.world.map.get 2).any fun stream => stream.closed = false ∧
            stream.send.shutdownFlag = false ∧ stream.send.error = none) = true := by
    decide +kernel
  obtain ⟨run, steps, found⟩ := (Option.any_eq_true _ _).mp executed
  obtain ⟨due, found⟩ := Bool.and_eq_true_iff.mp found
  obtain ⟨stream, present, same⟩ := (Option.any_eq_true _ _).mp found
  obtain ⟨opened, running⟩ := of_decide_eq_true same
  have sound : ∀ run op, check run op = true → KeepsFin run op := by
    intro run op passed
    cases op with
    | write id buf fin =>
      rintro rfl _ stream ⟨found, _⟩
      have covered : (run.world.map.get id).all (fun stream =>
          stream.send.FinCovered (run.world.map.queuedTimes id)) = true := passed
      rw [found] at covered
      exact of_decide_eq_true covered
    | streamLost frame =>
      rintro _ stream ⟨found, _⟩
      have unacked : (run.world.map.get frame.streamId).all (fun stream => 0 < frame.length &&
          !stream.send.acked.contains (frame.offset + frame.length - 1)) = true := passed
      rw [found] at unacked
      obtain ⟨filled, absent⟩ := Bool.and_eq_true_iff.mp unacked
      refine .inl ⟨of_decide_eq_true filled, fun acked => ?_⟩
      rw [RangeSet.contains_iff.mpr acked] at absent
      cases absent
    | streamAcked frame => cases passed
    | _ => trivial
  have reached : Reachable KeepsFin run := ⟨_, _, _, _, _, .of_checked sound (.of_exec steps)⟩
  have isDue : 2 ∈ run.due := of_decide_eq_true due
  exact ⟨run, stream, reached, ⟨present, opened, running⟩, isDue,
    woken_for_sending run reached 2 stream ⟨present, opened, running⟩ (.inr (.inr isDue))⟩

/-- An end without data is lost while other data of the stream is queued, so that nobody is
told about it once that data is sent. -/
theorem fin_wakeup_lost :
    ∃ run stream, Reachable anyStep run ∧ Sending run.world.map 2 stream ∧
      run.HasToSend 2 stream ∧ ¬ run.world.map.Queued 2 := by
  have executed : (exec step ⟨.new false 100 100 {} false, []⟩
      [.peerParams { initialMaxData := 30, initialMaxStreamDataUni := 30, initialMaxStreamsUni := 1 },
        .write 2 (List.replicate 20 7) false, .sendStreams 20, .sendStreams 100, .write 2 [] true,
        .sendStreams 100, .streamLost ⟨2, 0, 15, false⟩, .streamLost ⟨2, 20, 0, true⟩,
        .sendStreams 100]).any (fun run => 2 ∈ run.due &&
          (run.world.map.sendable.entries.all (fun entry =>
            2 ∉ entry.2.nonIncremental ∧ 2 ∉ entry.2.incremental) &&
          (run.world.map.get 2).any fun stream => stream.closed = false ∧
            stream.send.shutdownFlag = false ∧ stream.send.error = none)) = true := by
    decide +kernel
  obtain ⟨run, steps, found⟩ := (Option.any_eq_true _ _).mp executed
  obtain ⟨due, found⟩ := Bool.and_eq_true_iff.mp found
  obtain ⟨apart, found⟩ := Bool.and_eq_true_iff.mp found
  obtain ⟨stream, present, same⟩ := (Option.any_eq_true _ _).mp found
  obtain ⟨opened, running⟩ := of_decide_eq_true same
  refine ⟨run, stream, ⟨_, _, _, _, _, .of_exec steps⟩, ⟨present, opened, running⟩,
    .inr (.inr (of_decide_eq_true due)), ?_⟩
  rintro ⟨entry, member, inside⟩
  have absent := of_decide_eq_true (List.all_eq_true.mp apart entry member)
  exact inside.elim absent.1 absent.2

end FinRun

end Tquic.Connection
