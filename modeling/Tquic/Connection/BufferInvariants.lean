import Tquic.Connection.RecvBufProperties
import Tquic.Connection.SendBufProperties

/-! The invariants of the two buffers of a stream through every operation of the stream
map, a reset or shutdown of either side included. -/

set_option autoImplicit false

namespace Tquic.Connection

open Lib

namespace RecvBuf

/-- The invariant of a receive buffer, also after a RESET_STREAM frame. -/
structure Valid (recv : RecvBuf) : Prop where
  ordered : recv.Ordered
  ended : recv.error.isSome = true → recv.finOff = some recv.readOff
  drained : recv.shutdownFlag = true → recv.data = ∅

variable {recv : RecvBuf}

private theorem storeLoop_shutdown {fuel : Nat} {queue : List RangeBuf}
    (shut : recv.shutdownFlag = true) : (storeLoop fuel recv queue).data = recv.data := by
  induction fuel generalizing recv queue with
  | zero => rfl
  | succ fuel ih =>
    cases queue with
    | nil => rfl
    | cons buf rest =>
      have kept : (recv.store buf).1.shutdownFlag = true ∧
          (recv.store buf).1.data = recv.data := by
        rw [store]
        split
        · exact ⟨shut, rfl⟩
        · exact ⟨shut, if_pos shut⟩
      rw [storeLoop]
      exact (ih kept.1).trans kept.2

theorem write_shutdown {recv after : RecvBuf} {offset : Nat} {data : Bytes} {fin : Bool}
    (shut : recv.shutdownFlag = true) (written : recv.write offset data fin = .ok after) :
    after.data = recv.data := by
  have recorded : (recv.recordFin ⟨data, offset, fin⟩).shutdownFlag = true ∧
      (recv.recordFin ⟨data, offset, fin⟩).data = recv.data := by
    rw [recordFin]
    split <;> exact ⟨shut, rfl⟩
  obtain ⟨_, ⟨_, rfl⟩ | ⟨_, _, rfl⟩ | ⟨_, _, rfl⟩ | ⟨_, rfl⟩⟩ := write_cases written
  · rfl
  · rfl
  · exact recorded.2
  · exact (storeLoop_shutdown recorded.1).trans recorded.2

theorem Valid.not_ready (valid : recv.Valid) (shut : recv.shutdownFlag = true) :
    recv.ready = false := by
  rw [ready, valid.drained shut]
  rfl

theorem Valid.new (maxData maxWindow : Nat) : (RecvBuf.new maxData maxWindow).Valid :=
  ⟨new_ordered maxData maxWindow, by simp [RecvBuf.new], by simp [RecvBuf.new]⟩

theorem Valid.adjustFlowControl (valid : recv.Valid) (control : FlowControl) :
    Valid { recv with flowControl := control } :=
  ⟨valid.ordered.adjustFlowControl control, valid.ended, valid.drained⟩

theorem Valid.write {recv after : RecvBuf} {offset : Nat} {data : Bytes} {fin : Bool}
    (valid : recv.Valid) (written : recv.write offset data fin = .ok after) : after.Valid := by
  have spec := write_spec valid.ordered written
  refine ⟨spec.ordered, fun failed => ?_, fun shut => ?_⟩
  case refine_2 =>
    rw [spec.shutdownFlag] at shut
    rw [write_shutdown shut written, valid.drained shut]
  rw [spec.error] at failed
  have known := valid.ended failed
  have within := spec.final _ known
  have reached := spec.ordered.readBound
  rw [spec.readOff] at reached ⊢
  cases fin with
  | false => exact spec.finOff.trans known
  | true =>
    have final : after.finOff = some (offset + data.length) := spec.finOff
    have bound := spec.ordered.finBound _ final
    rw [final, Option.some.injEq]
    omega

theorem Valid.read {recv : RecvBuf} (valid : recv.Valid) (outLen : Nat) :
    (recv.read outLen).2.Valid ∧ (recv.read outLen).2.recvOff = recv.recvOff ∧
      (recv.read outLen).2.shutdownFlag = recv.shutdownFlag := by
  rcases read_cases valid.ordered outLen with
    ⟨_, same⟩ | ⟨errorCode, _, failed, same⟩ | ⟨ready, running, bytes, after, drained, same⟩
  · rw [same]
    exact ⟨valid, rfl, rfl⟩
  · rw [same]
    exact ⟨⟨valid.ordered.clear recv.error, valid.ended, fun _ => rfl⟩, rfl, rfl⟩
  · rw [same]
    have copied := drained.copied
    refine ⟨⟨copied.ordered.adjustFlowControl _, fun failed => ?_, fun shut => ?_⟩, copied.recvOff,
      copied.shutdownFlag⟩
    · simp [copied.error.trans running] at failed
    · have idle := valid.not_ready (copied.shutdownFlag ▸ shut)
      rw [ready] at idle
      cases idle

theorem Valid.shutdown (valid : recv.Valid) (first : recv.shutdownFlag = false) :
    recv.shutdown.2.Valid ∧ recv.shutdown.2.recvOff = recv.recvOff ∧
      recv.shutdown.2.shutdownFlag = true := by
  have shape : recv.shutdown.2 =
      { recv with shutdownFlag := true, data := ∅, readOff := recv.recvOff } := by
    simp [RecvBuf.shutdown, first]
  rw [shape]
  refine ⟨⟨?_, ?_, fun _ => rfl⟩, rfl, rfl⟩
  · have cleared := valid.ordered.clear recv.error
    exact { cleared with
      readBound := le_refl _
      unread := by simp }
  · intro failed
    have known := valid.ended failed
    have bound := valid.ordered.finBound _ known
    have reached := valid.ordered.readBound
    simp only [known, Option.some.injEq]
    omega

/-- An empty frame with FIN leaves an empty range, unless the end was known or the stream shut down.
-/
theorem write_final_data {recv after : RecvBuf} {finalSize : Nat} (empty : recv.data = ∅)
    (unread : recv.readOff ≤ finalSize) (written : recv.write finalSize [] true = .ok after) :
    after.data = if recv.isFin || recv.shutdownFlag then ∅
      else (∅ : OrdMap Nat RangeBuf).insert finalSize ⟨[], finalSize, true⟩ := by
  simp only [write] at written
  split_ifs at written with credit beyond mismatch early finished ignored stale
  · cases written
    simp [finished, empty]
  · simp at ignored
  · simp [RangeBuf.isEmpty] at stale
  · cases written
    have marked : recv.recordFin ⟨[], finalSize, true⟩ = { recv with finOff := some finalSize } := rfl
    have kept : (recv.recordFin ⟨[], finalSize, true⟩).dropRead ⟨[], finalSize, true⟩ =
        ⟨[], finalSize, true⟩ := if_neg (by rw [marked]; exact Nat.not_lt.mpr unread)
    have scanned : (recv.recordFin ⟨[], finalSize, true⟩).scan ⟨[], finalSize, true⟩ =
        (some ⟨[], finalSize, true⟩, []) := by
      rw [scan, if_pos (by simp [RangeBuf.isEmpty]), marked]
      simp only [empty]
      rfl
    have once : ((recv.recordFin ⟨[], finalSize, true⟩).storeLoop 1 [⟨[], finalSize, true⟩]).data =
        ((recv.recordFin ⟨[], finalSize, true⟩).store ⟨[], finalSize, true⟩).1.data := rfl
    refine once.trans ?_
    rw [store, kept, scanned, marked]
    simp only [empty, Bool.eq_false_iff.mpr finished, Bool.false_or]
    split <;> rfl

/-- The effect of a RESET_STREAM frame that was accepted. -/
structure WasReset (before after : RecvBuf) (finalSize delta : Nat) : Prop where
  valid : after.Valid
  bound : before.recvOff ≤ finalSize
  delta : delta = finalSize - before.recvOff
  readOff : after.readOff = finalSize
  recvOff : after.recvOff = finalSize
  shutdownFlag : after.shutdownFlag = before.shutdownFlag
  -- The application is told, unless it has seen the end or does not want to know.
  ready : after.ready = if before.error.isSome then before.ready
    else !(before.isFin || before.shutdownFlag)

/-- What a reset that is accepted does to a valid buffer. -/
theorem Valid.reset {recv after : RecvBuf} {errorCode finalSize delta : Nat} (valid : recv.Valid)
    (outcome : recv.reset errorCode finalSize = (.ok delta, after)) :
    WasReset recv after finalSize delta := by
  have readBound := valid.ordered.readBound
  rw [RecvBuf.reset] at outcome
  split_ifs at outcome with mismatch early repeated
  · cases outcome
  · cases outcome
  · cases outcome
    have known := valid.ended repeated
    have bound := valid.ordered.finBound _ known
    have same : recv.readOff = finalSize := by simpa [known] using mismatch
    exact ⟨valid, by omega, rfl, same, by omega, rfl, by rw [if_pos repeated]⟩
  · have cleared := valid.ordered.clear (some errorCode)
    cases written : ({ recv with data := ∅, error := some errorCode } : RecvBuf).write finalSize []
        true with
    | error error =>
      simp only [written] at outcome
      cases outcome
    | ok notified =>
      simp only [written] at outcome
      cases outcome
      have spec := write_spec cleared written
      have stored := write_final_data rfl (by simp only; omega) written
      have final : notified.finOff = some finalSize := spec.finOff
      have received : notified.recvOff = finalSize := by
        have := spec.recvOff
        simp only [List.length_nil] at this
        rw [if_neg (by simp)] at this
        omega
      have entries : ∀ entry ∈ notified.data, finalSize ≤ entry.2.off := by
        intro entry member
        rw [stored] at member
        split at member
        · simp at member
        · rcases OrdMap.mem_insert.mp member with rfl | ⟨member, _⟩
          · exact le_refl _
          · simp at member
      have vacant : notified.shutdownFlag = true → notified.data = ∅ := by
        intro shut
        rw [spec.shutdownFlag] at shut
        exact write_shutdown shut written
      refine ⟨⟨{ spec.ordered with unread := entries, readBound := received.ge }, fun _ => final,
        vacant⟩, by omega, rfl, rfl, received, spec.shutdownFlag, ?_⟩
      rw [if_neg repeated, ready]
      have told : (({ recv with data := ∅, error := some errorCode } : RecvBuf).isFin ||
          recv.shutdownFlag) = (recv.isFin || recv.shutdownFlag) := rfl
      simp only [stored, told]
      cases recv.isFin || recv.shutdownFlag with
      | true => rfl
      | false => exact decide_eq_true rfl

end RecvBuf

namespace SendBuf

def Running (send : SendBuf) : Prop := send.shutdownFlag = false ∧ send.error = none

/-- A send buffer that was reset: what was sent is final and counts as acknowledged. -/
structure Truncated (send : SendBuf) : Prop where
  data : send.data = []
  finOff : send.finOff = some send.writeOff
  unsentOff : send.unsentOff = send.writeOff
  ackedUnlimited : send.acked.capacity = none
  acked : ∀ value, value ∈ send.acked ↔ value < send.writeOff
  credit : send.writeOff ≤ send.maxData

/-- The invariant of a send buffer, before and after a reset. -/
inductive Sound (send : SendBuf) : Prop where
  | running (stream : Bytes) (running : send.Running) (coherent : Coherent send stream)
  | truncated (reset : ¬ send.Running) (truncated : Truncated send)

theorem Sound.final {send : SendBuf} (sound : send.Sound) {finOff : Nat}
    (known : send.finOff = some finOff) : finOff = send.writeOff := by
  cases sound with
  | running _ _ coherent => exact coherent.final finOff known
  | truncated _ truncated => exact Option.some.inj (known.symm.trans truncated.finOff)

variable {send : SendBuf}

structure SameEnd (before after : SendBuf) : Prop where
  writeOff : after.writeOff = before.writeOff
  maxData : after.maxData = before.maxData
  finOff : after.finOff = before.finOff
  shutdownFlag : after.shutdownFlag = before.shutdownFlag
  error : after.error = before.error

variable {before after : SendBuf}

theorem SameEnd.running (same : SameEnd before after) : after.Running ↔ before.Running := by
  rw [Running, Running, same.shutdownFlag, same.error]

theorem SameOffsets.sameEnd (same : SameOffsets before after) : SameEnd before after :=
  ⟨same.writeOff, same.maxData, same.finOff, same.shutdownFlag, same.error⟩

/-- What every operation keeps, as long as the buffer is not reset. -/
structure Advances (before after : SendBuf) : Prop where
  running : before.Running
  unsentOff : before.unsentOff ≤ after.unsentOff
  finOff : ∀ finOff, before.finOff = some finOff → after.finOff = some finOff
  acked : ∀ value ∈ before.acked, value ∈ after.acked

theorem SameEnd.advances (same : SameEnd before after)
    (unsentOff : after.unsentOff = before.unsentOff)
    (acked : ∀ value ∈ before.acked, value ∈ after.acked) (running : after.Running) :
    Advances before after :=
  ⟨same.running.mp running, unsentOff.ge, fun _ known => same.finOff.trans known, acked⟩

theorem Advances.refl (running : send.Running) : Advances send send :=
  ⟨running, le_refl _, fun _ known => known, fun _ member => member⟩

/-- The final size is known and everything up to it was acknowledged. -/
def Finished (send : SendBuf) : Prop :=
  ∃ finOff, send.finOff = some finOff ∧ ∀ value < finOff, value ∈ send.acked

theorem finished_of_isComplete (complete : send.isComplete = true) : send.Finished := by
  rw [isComplete] at complete
  split at complete
  case h_1 finOff known =>
    refine ⟨finOff, known, fun value less => ?_⟩
    rw [Bool.or_eq_true_iff, decide_eq_true_iff] at complete
    rcases complete with rfl | covered
    · omega
    · exact ((RangeSet.eqRange_iff (by omega)).mp covered value).mpr less
  case h_2 => cases complete

theorem Truncated.finished (truncated : Truncated send) : send.Finished :=
  ⟨send.writeOff, truncated.finOff, fun value less => (truncated.acked value).mpr less⟩

theorem Finished.advance {after : SendBuf} (finished : send.Finished) (sound : after.Sound)
    (advances : after.Running → Advances send after) : after.Finished := by
  cases sound with
  | running _ running _ =>
    obtain ⟨finOff, known, acked⟩ := finished
    have later := advances running
    exact ⟨finOff, later.finOff finOff known, fun value less => later.acked value (acked value less)⟩
  | truncated _ truncated => exact truncated.finished

theorem Finished.covered (finished : send.Finished) (sound : send.Sound) :
    send.writeOff = 0 ∨ send.acked.eqRange ⟨0, send.writeOff⟩ = true := by
  obtain ⟨finOff, known, acked⟩ := finished
  have exact : finOff = send.writeOff ∧ ∀ value ∈ send.acked, value < send.writeOff := by
    cases sound with
    | running _ _ coherent =>
      exact ⟨coherent.final finOff known,
        fun value member => lt_of_lt_of_le (coherent.acked value member) coherent.unsent⟩
    | truncated _ truncated =>
      rw [truncated.finOff, Option.some.injEq] at known
      exact ⟨known.symm, fun value => (truncated.acked value).mp⟩
  by_cases vacant : send.writeOff = 0
  · exact .inl vacant
  · refine .inr ((RangeSet.eqRange_iff (Nat.pos_of_ne_zero vacant)).mpr fun value => ?_)
    exact ⟨exact.2 value, fun less => acked value (exact.1 ▸ less)⟩

theorem read_empty (empty : send.data = []) (outLen : Nat) :
    send.read outLen = some (([], decide (send.finOff = some send.sendOff)), send) := by
  have idle : send.ready = false := by simp [ready, empty]
  have loop : SendBuf.readLoop outLen send outLen send.sendOff [] =
      some (send, [], send.sendOff, outLen) := by
    rw [SendBuf.readLoop.eq_def]
    simp [idle]
  simp [SendBuf.read, loop]

theorem Truncated.write {after : SendBuf} {data : Bytes} {fin : Bool} {written : Nat}
    (truncated : Truncated send) (success : send.write data fin = .ok (written, after)) :
    data = [] ∧ fin = true ∧ written = 0 ∧ after = send := by
  have spec := write_spec success
  obtain ⟨within, marked⟩ := spec.final _ truncated.finOff
  have empty : data = [] := List.length_eq_zero_iff.mp (by omega)
  subst empty
  have flagged := (marked (by simp)).1
  subst flagged
  have none : written = 0 := by simpa using spec.count
  have stored : after.data = send.data := by
    rw [SendBuf.write] at success
    simp only [capacity, spec.noError, append] at success
    simp only [truncated.finOff] at success
    simp at success
    rw [← success.2]
  refine ⟨rfl, rfl, none, ?_⟩
  rw [spec.shape, if_pos (marked rfl), stored, none]
  simp [← truncated.finOff]

namespace Sound

theorem new (maxData : Nat) : (SendBuf.new maxData).Sound :=
  .running [] ⟨rfl, rfl⟩ (.new maxData)

theorem unsentOff_le (sound : send.Sound) : send.unsentOff ≤ send.writeOff := by
  cases sound with
  | running _ _ coherent => exact coherent.unsent
  | truncated _ truncated => exact truncated.unsentOff.le

theorem writeOff_le (sound : send.Sound) : send.writeOff ≤ send.maxData := by
  cases sound with
  | running _ _ coherent => exact coherent.credit
  | truncated _ truncated => exact truncated.credit

theorem raise (sound : send.Sound) {maxData : Nat} (more : send.maxData ≤ maxData)
    (blockedAt : Option Nat) : Sound { send with maxData, blockedAt } := by
  cases sound with
  | running stream running coherent =>
    refine .running stream running { coherent with
      credit := coherent.credit.trans more
      seekable := ⟨coherent.seekable.1, coherent.seekable.2, coherent.seekable.3,
        coherent.seekable.4⟩ }
  | truncated reset truncated =>
    exact .truncated reset { truncated with credit := truncated.credit.trans more }

theorem reset_truncated (sound : send.Sound) : Truncated send.reset.2 := by
  have bound := sound.unsentOff_le
  have credit := sound.writeOff_le
  have unlimited : send.acked.capacity = none := by
    cases sound with
    | running _ _ coherent => exact coherent.ackedUnlimited
    | truncated _ truncated => exact truncated.ackedUnlimited
  have below : ∀ value ∈ send.acked, value < send.unsentOff := by
    cases sound with
    | running _ _ coherent => exact coherent.acked
    | truncated _ truncated =>
      intro value member
      rw [truncated.unsentOff]
      exact (truncated.acked value).mp member
  constructor
  case acked =>
    intro value
    simp only [SendBuf.reset, ack]
    rw [RangeSet.mem_insert unlimited]
    constructor
    · rintro (member | inside)
      · exact below value member
      · simpa using inside.2
    · exact fun less => .inr ⟨Nat.zero_le _, by simpa using less⟩
  case ackedUnlimited => exact unlimited
  case credit => exact bound.trans credit
  all_goals rfl

/-- A read hands out no more bytes than asked for, with FIN at the end of the stream. -/
theorem read (sound : send.Sound) (outLen : Nat) :
    ∃ bytes after, send.read outLen =
        some ((bytes, decide (send.finOff = some (send.sendOff + bytes.length))), after) ∧
      after.Sound ∧ SameEnd send after ∧ after.acked = send.acked ∧ bytes.length ≤ outLen ∧
      (send.Running → after.unsentOff = max send.unsentOff (send.sendOff + bytes.length)) := by
  cases sound with
  | running stream running coherent =>
    obtain ⟨bytes, after, taken, room, handed⟩ := coherent.read outLen
    have same := handed.transmitted.same
    have ends : SameEnd send after :=
      ⟨same.writeOff, same.maxData, same.finOff, same.shutdownFlag, same.error⟩
    exact ⟨bytes, after, taken, .running stream (ends.running.mpr running) handed.coherent, ends,
      same.acked, room, fun _ => handed.transmitted.unsentOff⟩
  | truncated reset truncated =>
    exact ⟨[], send, read_empty truncated.data outLen, .truncated reset truncated,
      ⟨rfl, rfl, rfl, rfl, rfl⟩, rfl, Nat.zero_le _, fun running => absurd running reset⟩

/-- A write appends the bytes it counts; what was sent and acknowledged stays. -/
theorem write {after : SendBuf} {data : Bytes} {fin : Bool} {written : Nat} (sound : send.Sound)
    (success : send.write data fin = .ok (written, after)) :
    after.Sound ∧ after.writeOff = send.writeOff + written ∧ written ≤ data.length ∧
      after.unsentOff = send.unsentOff ∧ after.acked = send.acked ∧
      (after.Running → Advances send after) ∧
      after.shutdownFlag = send.shutdownFlag ∧ after.error = send.error := by
  have spec := write_spec success
  have count := spec.count
  have less : written ≤ data.length := by omega
  cases sound with
  | running stream running coherent =>
    have shape := spec.shape
    have flags : after.shutdownFlag = send.shutdownFlag ∧ after.error = send.error := by
      rw [shape]
      exact ⟨rfl, rfl⟩
    have unsentOff : after.unsentOff = send.unsentOff := by rw [shape]
    have acked : after.acked = send.acked := by rw [shape]
    refine ⟨.running _ ?_ (coherent.write spec), by rw [shape], less, unsentOff, acked, ?_, flags⟩
    · rw [Running, flags.1, flags.2]
      exact running
    · refine fun _ => ⟨running, unsentOff.ge, fun finOff known => ?_, by rw [acked]; exact fun _ => id⟩
      -- The size is known, so only an empty block with the same end was accepted.
      have size := coherent.final finOff known
      have within := (spec.final finOff known).1
      rw [shape]
      simp only
      split
      · rw [Option.some.injEq]
        omega
      · exact known
  | truncated reset truncated =>
    obtain ⟨_, _, rfl, rfl⟩ := truncated.write success
    exact ⟨.truncated reset truncated, rfl, less, rfl, rfl, .refl, rfl, rfl⟩

/-- An acknowledgement adds its range, and leaves the end and the unsent part alone. -/
theorem ackAndDrop {off len : Nat} (sound : send.Sound)
    (sent : send.Running → off + len ≤ send.unsentOff) :
    (send.ackAndDrop off len).Sound ∧ SameEnd send (send.ackAndDrop off len) ∧
      (send.ackAndDrop off len).unsentOff = send.unsentOff ∧
      (send.Running → ∀ value, value ∈ (send.ackAndDrop off len).acked ↔
        value ∈ send.acked ∨ off ≤ value ∧ value < off + len) := by
  cases sound with
  | running stream running coherent =>
    obtain ⟨acknowledged, after⟩ := coherent.ackAndDrop (sent running)
    have ends := acknowledged.same.sameEnd
    exact ⟨.running stream (ends.running.mpr running) after, ends, acknowledged.same.unsentOff,
      fun _ => acknowledged.acked⟩
  | truncated reset truncated =>
    have cleared : send.ackAndDrop off len =
        { send with retransmits := send.retransmits.clear } := by
      rw [SendBuf.ackAndDrop, if_pos (by simp [truncated.data])]
    rw [cleared]
    exact ⟨.truncated reset { truncated with }, ⟨rfl, rfl, rfl, rfl, rfl⟩, rfl,
      fun running => absurd running reset⟩

theorem retransmit {off len : Nat} (sound : send.Sound)
    (sent : send.Running → off + len ≤ send.unsentOff) :
    (send.retransmit off len).Sound ∧ SameEnd send (send.retransmit off len) ∧
      (send.retransmit off len).unsentOff = send.unsentOff ∧
      (send.retransmit off len).acked = send.acked := by
  cases sound with
  | running stream running coherent =>
    obtain ⟨requeued, after⟩ := coherent.retransmit (sent running)
    have ends := requeued.same.sameEnd
    exact ⟨.running stream (ends.running.mpr running) after, ends, requeued.same.unsentOff,
      requeued.acked⟩
  | truncated reset truncated =>
    have same : send.retransmit off len = send := by
      rw [SendBuf.retransmit, if_pos (by simp [truncated.data])]
    rw [same]
    exact ⟨.truncated reset truncated, ⟨rfl, rfl, rfl, rfl, rfl⟩, rfl, rfl⟩

end Sound

end SendBuf

end Tquic.Connection
