import Tquic.DuplicateWindow
import Tquic.Connection.Acknowledgements

/-! The numbers that ACK frames cover are numbers of packets that were processed, and no number is
processed twice. -/

set_option autoImplicit false

namespace Tquic.Connection

open Lib

namespace AckSpace

variable {space : AckSpace} {seen : Nat → Prop}

/-- What a space has to acknowledge, has written and takes for a duplicate, told by the numbers of the
packets that were processed in it. -/
structure Noted (seen : Nat → Prop) (space : AckSpace) : Prop where
  fits : space.recvPktNumNeedAck.Fits
  ranges : ∀ number ∈ space.recvPktNumNeedAck, seen number
  written : ∀ ackDelay ackRanges ecnCounts,
    Frame.ack ackDelay ackRanges ecnCounts ∈ space.history.written →
      ∀ number ∈ ackRanges, seen number
  room : space.recvPktNumWin.lower < 2 ^ 62
  duplicates : ∀ number, seen number → space.recvPktNumWin.contains number = true

namespace Noted

theorem new (id : SpaceId) (now : Instant) (none : ∀ number, ¬ seen number) :
    (AckSpace.new id now).Noted seen where
  fits := (Sound.new id now).fits
  ranges number member := absurd member (fun ⟨entry, stored, _⟩ => OrdMap.not_mem_empty entry stored)
  written := by simp [AckSpace.new]
  room := by
    change 0 < 2 ^ 62
    decide
  duplicates number known := absurd known (none number)

section

variable (noted : space.Noted seen)

include noted

theorem imp {other : Nat → Prop} (same : ∀ number, other number ↔ seen number) :
    space.Noted other where
  fits := noted.fits
  ranges number member := (same number).mpr (noted.ranges number member)
  written ackDelay ackRanges ecnCounts wrote number member :=
    (same number).mpr (noted.written ackDelay ackRanges ecnCounts wrote number member)
  room := noted.room
  duplicates number known := noted.duplicates number ((same number).mp known)

theorem processAckedFrame (frame : Frame) : (space.processAckedFrame frame).Noted seen := by
  cases frame with
  | ack ackDelay ackRanges ecnCounts =>
    rw [AckSpace.processAckedFrame]
    cases ackRanges.max with
    | none => exact noted
    | some largest =>
      exact { noted with
        fits := noted.fits.removeUntil _
        ranges := fun number member =>
          noted.ranges number ((RangeSet.mem_removeUntil noted.fits).mp member).1 }
  | _ => exact noted

theorem processAckedFrames : space.processAckedFrames.Noted seen := by
  have folded : ∀ (frames : List Frame) (space : AckSpace), space.Noted seen →
      (frames.foldl AckSpace.processAckedFrame space).Noted seen := by
    intro frames
    induction frames with
    | nil => exact fun _ noted => noted
    | cons frame rest ih => exact fun space noted => ih _ (noted.processAckedFrame frame)
  exact { folded space.acked space noted with }

/-- A packet that was received is noted, beside those noted before. -/
theorem receive (packet : AckPacket) (small : packet.pktNum < 2 ^ 62)
    (threshold : Nat) (maxAckDelay : Duration) (now : Instant) :
    ((space.recordPacket packet).trySchedule packet.pktNum packet.ackEliciting threshold
      maxAckDelay now).Noted fun number => number = packet.pktNum ∨ seen number := by
  obtain ⟨due, count, timer, same⟩ := trySchedule_eq (space.recordPacket packet) packet.pktNum
    packet.ackEliciting threshold maxAckDelay now
  rw [same]
  constructor
  case fits => exact noted.fits.insert _
  case ranges =>
    intro number member
    rcases RangeSet.of_mem_insert noted.fits member with old | inside
    · exact .inr (noted.ranges number old)
    · exact .inl (by dsimp only at inside; omega)
  case written =>
    exact fun ackDelay ackRanges ecnCounts wrote number member =>
      .inr (noted.written ackDelay ackRanges ecnCounts wrote number member)
  case room => exact (SeqNumWindow.contains_insert noted.room small (.inr rfl)).1
  case duplicates =>
    intro number known
    exact (SeqNumWindow.contains_insert noted.room small
      (known.symm.imp_left (noted.duplicates number))).2

theorem tryWriteAckFrame {isClosing active : Bool}
    {ackDelayExp room : Nat} {now : Instant} {after : AckSpace}
    (wrote : space.tryWriteAckFrame isClosing active ackDelayExp room now = .ok after) :
    after.Noted seen := by
  unfold AckSpace.tryWriteAckFrame at wrote
  dsimp only at wrote
  split_ifs at wrote
  · cases wrote
    exact noted
  · cases wrote
    refine { noted with written := fun ackDelay ackRanges ecnCounts member => ?_ }
    rcases List.mem_cons.mp member with same | old
    · cases same
      exact noted.ranges
    · exact noted.written ackDelay ackRanges ecnCounts old

end

end Noted

end AckSpace

namespace Acknowledger

variable {state next : Acknowledger} {op : Op} {key : Nat} {space after : AckSpace}
  {seen : Nat → Prop}

/-- The operation is not the arrival of a packet. -/
def Op.Inner : Op → Prop
  | .recvPacket _ _ _ => False
  | _ => True

theorem Becomes.noted (becomes : Becomes state key space op after) (inner : op.Inner)
    (noted : space.Noted seen) : after.Noted seen := by
  cases becomes with
  | kept => exact noted
  | processed => exact inner.elim
  | received => exact inner.elim
  | acked => exact { noted with }
  | lost => exact { noted with }
  | processedLost =>
    obtain ⟨due, same⟩ := AckSpace.processLostFrames_eq space
    rw [same]
    exact { noted with }
  | wrote wrote => exact noted.tryWriteAckFrame wrote
  | expired =>
    obtain ⟨due, timer, same⟩ := AckSpace.onAckTimeout_eq space _
    rw [same]
    exact { noted with }
  | discarded => exact { noted with }

def Numbered (state : Acknowledger) : Prop :=
  ∀ key space, state.spaces.get? key = some space → key < state.nextDataExtId

theorem recvPacket_nextDataExtId (state : Acknowledger) (spaceId : SpaceId) (packet : AckPacket)
    (now : Instant) :
    (state.recvPacket spaceId packet now).nextDataExtId = state.nextDataExtId := by
  unfold Acknowledger.recvPacket
  split_ifs
  · dsimp only
    split <;> rfl
  · rfl

/-- Only a new space takes an identifier, the next one. -/
theorem step_nextDataExtId (stepped : state.step op = some next) :
    next.nextDataExtId = state.nextDataExtId ∨
      ∃ now, op = .addSpace now ∧ next.nextDataExtId = state.nextDataExtId + 1 := by
  cases op with
  | recvPacket spaceId packet now =>
    cases stepped
    exact .inl (recvPacket_nextDataExtId state spaceId packet now)
  | addSpace now =>
    cases stepped
    exact .inr ⟨now, rfl, rfl⟩
  | processLostFrames | ackTimeout | peerParams =>
    cases stepped
    exact .inl rfl
  | frameAcked spaceId frame =>
    left
    simp only [Acknowledger.step] at stepped
    split at stepped
    · cases stepped
    · obtain ⟨_, moved⟩ := Option.ite_none_right_eq_some.mp stepped
      cases moved
      rfl
  | frameLost spaceId frame =>
    left
    simp only [Acknowledger.step] at stepped
    split at stepped
    · cases stepped
    · obtain ⟨_, moved⟩ := Option.ite_none_right_eq_some.mp stepped
      cases moved
      rfl
  | writeAckFrame spaceId isClosing active room now =>
    left
    simp only [Acknowledger.step] at stepped
    split at stepped
    · cases stepped
      rfl
    · split at stepped <;> cases stepped <;> rfl
  | discardSpace spaceId =>
    left
    simp only [Acknowledger.step] at stepped
    split at stepped <;> cases stepped <;> rfl

theorem Numbered.recvPacket (numbered : state.Numbered) (spaceId : SpaceId) (packet : AckPacket)
    (now : Instant) : (state.recvPacket spaceId packet now).Numbered := by
  intro key space present
  rw [recvPacket_nextDataExtId]
  obtain ⟨earlier, found, _⟩ := recvPacket_spaces present
  exact numbered key earlier found

theorem Numbered.step (numbered : state.Numbered) (stepped : state.step op = some next) :
    next.Numbered := by
  intro key after present
  have grown := step_nextDataExtId stepped
  rcases step_spaces stepped present with ⟨now, same, rfl, _⟩ | ⟨space, found, _⟩
  · rcases grown with kept | ⟨_, _, more⟩
    · cases same
      simp only [Acknowledger.step, Option.some.injEq] at stepped
      rw [← stepped]
      exact Nat.lt_succ_self _
    · omega
  · have := numbered key space found
    rcases grown with kept | ⟨_, _, more⟩ <;> omega

end Acknowledger

end Tquic.Connection
