import Tquic.Connection.Acknowledgements
import Tquic.Connection.PacketSampling
import Tquic.FrameRoundTrip

/-! The length of ACK frames. There are never more ranges than a space may keep, so that the frame
fits into a packet that holds nothing else. -/

set_option autoImplicit false

namespace Tquic

open Lib

namespace RangeSet

theorem stop_le_of_mem {ranges : RangeSet} {bound : Nat} (below : ∀ value ∈ ranges, value < bound)
    {range : Range} (listed : range ∈ ranges.iter) : range.stop ≤ bound := by
  have nonempty := iter_nonempty listed
  have last : range.stop - 1 ∈ ranges := mem_iff_range.mpr ⟨range, listed, by omega, by omega⟩
  have := below _ last
  omega

theorem length_iter (ranges : RangeSet) : ranges.iter.length = ranges.len := List.length_map _

end RangeSet

namespace Frame

private theorem ackRangesWireLen_le (smallestAck : Nat) (ranges : List Range) :
    ackRangesWireLen smallestAck ranges ≤ 16 * ranges.length := by
  induction ranges generalizing smallestAck with
  | nil => exact le_refl _
  | cons range rest ih =>
    have gap := encodeVarintLen_le (smallestAck - range.stop - 1)
    have block := encodeVarintLen_le (range.stop - 1 - range.start)
    have more := ih range.start
    simp only [ackRangesWireLen, List.length_cons]
    omega

/-- The count of the ranges after the first takes two bytes, every other integer at most eight. -/
theorem ackWireLen_le {ackRanges : RangeSet} {more : Nat} (few : ackRanges.len ≤ more + 1)
    (counted : more ≤ 16383) (ackDelay : Nat) :
    ackWireLen ackDelay ackRanges none ≤ 27 + 16 * more := by
  unfold ackWireLen
  split
  · exact Nat.zero_le _
  · next first rest shape =>
    have length : ackRanges.len = rest.length + 1 := by
      rw [← RangeSet.length_iter, ← List.length_reverse, shape, List.length_cons]
    have largest := encodeVarintLen_le (first.stop - 1)
    have delay := encodeVarintLen_le ackDelay
    have block := encodeVarintLen_le (first.stop - 1 - first.start)
    have others := ackRangesWireLen_le first.start rest
    have count : encodeVarintLen rest.length ≤ encodeVarintLen 16383 :=
      encodeVarintLen_mono (by omega)
    have two : encodeVarintLen 16383 = 2 := rfl
    dsimp only
    omega

private theorem toBytes_of_wireLen {frame : Frame} (wellFormed : frame.WellFormed) {room : Nat}
    (enough : frame.wireLen ≤ room) : ∃ bytes, frame.toBytes room = .ok (bytes, frame.wireLen) := by
  have length := length_image wellFormed
  have wrote := writes_image wellFormed { written := [], room } (by dsimp only; omega)
  refine ⟨frame.image, ?_⟩
  unfold toBytes
  rw [wrote, length]
  simp only [List.nil_append]
  rw [Nat.sub_sub_self enough]

end Frame

namespace Connection

/-! ## The room in a packet -/

/-- What a header without a length field, the packet number and the tag leave of a packet. -/
def oneRttRoom (len dcidLen pktNumLen : Nat) : Nat := len - (1 + dcidLen + pktNumLen + tagLen)

theorem PacketSender.plan_left {sender : PacketSender} {outLen left : Nat} {pktType : PacketType}
    {plan : PacketPlan} (ran : sender.plan outLen left pktType = .ok plan) :
    plan.overhead + plan.left = left := by
  unfold PacketSender.plan at ran
  obtain ⟨_, ran⟩ := check_ok.mp ran
  obtain ⟨_, ran⟩ := check_ok.mp ran
  obtain ⟨_, _, ran⟩ := bind_ok.mp ran
  obtain ⟨_, _, ran⟩ := bind_ok.mp ran
  obtain ⟨_, _, ran⟩ := bind_ok.mp ran
  obtain ⟨_, _, ran⟩ := bind_ok.mp ran
  obtain ⟨_, _, ran⟩ := bind_ok.mp ran
  obtain ⟨_, _, ran⟩ := bind_ok.mp ran
  obtain ⟨roomy, ran⟩ := check_ok.mp ran
  obtain ⟨_, ran⟩ := check_ok.mp ran
  obtain ⟨_, _, ran⟩ := bind_ok.mp ran
  cases ran
  exact Nat.add_sub_of_le (Nat.le_of_not_lt roomy)

theorem PacketSender.room_le_left {sender : PacketSender} {outLen left : Nat} {plan : PacketPlan}
    (ran : sender.plan outLen left .oneRtt = .ok plan) :
    oneRttRoom left maxCidLen maxPktNumLen ≤ plan.left := by
  have planned := planned ran
  have overhead := planned.overhead rfl
  have header := (planned.header rfl).2
  have short := planned.short
  have total := plan_left ran
  unfold oneRttRoom
  split_ifs at overhead <;> omega

/-! ## Frames of reachable spaces -/

namespace Acknowledger

/-- The packet numbers that are received can be encoded as variable-length integers. -/
def SmallNumbers (_ : Acknowledger) : Op → Prop
  | .recvPacket _ packet _ => packet.pktNum ≤ vintMax
  | _ => True

/-- What is known of the numbers that a space has to acknowledge. -/
structure Encodes (ackRanges : RangeSet) : Prop where
  limited : ackRanges.capacity = some maxAckRanges
  fits : ackRanges.Fits
  small : ∀ value ∈ ackRanges, value < vintMax + 1

variable {ackRanges : RangeSet}

theorem Encodes.addElem (encodes : Encodes ackRanges) {pktNum : Nat}
    (small : pktNum ≤ vintMax) : Encodes (ackRanges.addElem pktNum) where
  limited := encodes.limited
  fits := encodes.fits.insert _
  small := by
    intro value member
    rcases RangeSet.of_mem_insert encodes.fits member with old | inside
    · exact encodes.small value old
    · exact Nat.lt_succ_of_le ((Nat.le_of_lt_succ inside.2).trans small)

theorem Encodes.removeUntil (encodes : Encodes ackRanges) (elem : Nat) :
    Encodes (ackRanges.removeUntil elem) where
  limited := (RangeSet.capacity_removeUntil _ _).trans encodes.limited
  fits := encodes.fits.removeUntil elem
  small value member := encodes.small value ((RangeSet.mem_removeUntil encodes.fits).mp member).1

theorem Encodes.processAckedFrames {space : AckSpace} (encodes : Encodes space.recvPktNumNeedAck) :
    Encodes space.processAckedFrames.recvPktNumNeedAck := by
  unfold AckSpace.processAckedFrames
  dsimp only
  generalize space.acked = frames
  induction frames generalizing space with
  | nil => exact encodes
  | cons frame rest ih =>
    rw [List.foldl_cons]
    refine ih ?_
    unfold AckSpace.processAckedFrame
    split
    · split
      · exact encodes.removeUntil _
      · exact encodes
    · exact encodes

variable {state next : Acknowledger} {op : Op} {key : Nat} {space after : AckSpace}

theorem Becomes.encodes (becomes : Becomes state key space op after)
    (allowed : SmallNumbers state op) (encodes : Encodes space.recvPktNumNeedAck) :
    Encodes after.recvPktNumNeedAck := by
  cases becomes with
  | processed => exact encodes.processAckedFrames
  | @received _ packet now =>
    obtain ⟨_, _, _, same⟩ := (space.processAckedFrames.recordPacket packet).trySchedule_eq
      packet.pktNum packet.ackEliciting state.ackElicitingThreshold (millis state.maxAckDelay) now
    rw [same]
    exact encodes.processAckedFrames.addElem allowed
  | processedLost =>
    obtain ⟨_, same⟩ := space.processLostFrames_eq
    rw [same]
    exact encodes
  | wrote written =>
    obtain ⟨_, _, _, rfl⟩ := AckSpace.tryWriteAckFrame_eq written
    exact encodes
  | @expired now =>
    obtain ⟨_, _, same⟩ := space.onAckTimeout_eq now
    rw [same]
    exact encodes
  | _ => exact encodes

theorem new_encodes (id : SpaceId) (now : Instant) : Encodes (AckSpace.new id now).recvPktNumNeedAck where
  limited := rfl
  fits := (AckSpace.Sound.new id now).fits
  small value member := absurd member (RangeSet.not_mem_clear (.new (some maxAckRanges)) value)

private theorem step_encodes
    (encodes : ∀ key space, state.spaces.get? key = some space → Encodes space.recvPktNumNeedAck)
    (allowed : SmallNumbers state op) (stepped : state.step op = some next)
    (present : next.spaces.get? key = some after) : Encodes after.recvPktNumNeedAck := by
  obtain ⟨created, -, -, rfl⟩ | ⟨space, found, becomes⟩ := step_spaces stepped present
  · exact new_encodes _ created
  · exact becomes.encodes allowed (encodes key space found)

private theorem run_encodes {ackElicitingThreshold ackDelayExponent : Nat} {now : Instant}
    (run : Run step SmallNumbers (.new ackElicitingThreshold ackDelayExponent now) state)
    (found : state.spaces.get? key = some space) : Encodes space.recvPktNumNeedAck := by
  induction run generalizing key space with
  | refl =>
    simp only [Acknowledger.new, OrdMap.get?_insert, OrdMap.get?_empty] at found
    split_ifs at found <;> cases found <;> exact new_encodes _ now
  | tail _ allowed stepped ih =>
    exact step_encodes (fun _ _ found => ih found) allowed stepped found

private theorem ackFrame_wireLen (encodes : Encodes ackRanges) (ackDelay : Nat) :
    (Frame.ack ackDelay ackRanges none).wireLen ≤ oneRttRoom 1200 maxCidLen maxPktNumLen := by
  have few := (encodes.fits _ encodes.limited).1
  exact (Frame.ackWireLen_le (few.trans (by decide : maxAckRanges ≤ 67 + 1)) (by decide)
    ackDelay).trans (by decide)

private theorem ackFrame_wellFormed (encodes : Encodes ackRanges)
    (filled : ackRanges.isEmpty = false) {ackDelay : Nat} (small : ackDelay ≤ vintMax) :
    (Frame.ack ackDelay ackRanges none).WellFormed :=
  ⟨small, filled, fun _ listed => RangeSet.stop_le_of_mem encodes.small listed,
    fun _ impossible => by cases impossible⟩

def smallNumbers (_ : Acknowledger) : Op → Bool
  | .recvPacket _ packet _ => packet.pktNum ≤ vintMax
  | _ => true

theorem smallNumbers_sound (state : Acknowledger) (op : Op) (passed : smallNumbers state op = true) :
    SmallNumbers state op := by
  cases op with
  | recvPacket spaceId packet now =>
    have small : packet.pktNum ≤ vintMax := of_decide_eq_true passed
    exact small
  | _ => trivial

def ackingServer (ackRanges : RangeSet) : PacketSender :=
  { PacketSender.retiringServer with
    conn :=
      { PacketSender.retiringServer.conn with
        recvPktNumNeedAck := ackRanges
        needSendAck := true
        ackDelay := 7 } }

end Acknowledger

end Connection

end Tquic
