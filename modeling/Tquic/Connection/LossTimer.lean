import Tquic.Connection.AckDetection
import Tquic.Connection.InFlightAccounting

/-! The loss detection timer. It is set from the counters of packets in flight, so that it is armed for
every packet that can be lost as long as the counters are right. -/

set_option autoImplicit false

namespace Tquic.Connection

open Lib Recovery

variable {φ : Type}

namespace Recovery

/-! ## Setting the timer -/

variable {spaces : PacketNumSpaceMap φ} {status : HandshakeStatus}

private theorem ptoLoop_isSome (recovery : Recovery)
    (completed : status.completed = true) {list : List SpaceId}
    (timed : ∀ candidate ∈ list, ∀ space, spaces.get candidate = some space →
      space.ackElicitingInFlight ≠ 0 → space.timeOfLastSentAckElicitingPkt.isSome = true)
    (duration : Duration) (best : Option Instant × SpaceId)
    (due : best.1.isSome = true ∨ ∃ candidate ∈ list, ∃ space,
      spaces.get candidate = some space ∧ space.ackElicitingInFlight ≠ 0) :
    (ptoLoop recovery spaces status duration best list).1.isSome = true := by
  induction list generalizing duration best with
  | nil =>
    rcases due with found | ⟨_, member, _⟩
    · exact found
    · exact nomatch member
  | cons candidate rest ih =>
    have later := fun other member => timed other (List.mem_cons_of_mem _ member)
    -- A space without packets in flight is not the one that is looked for.
    have skip : (∀ space, spaces.get candidate = some space → space.ackElicitingInFlight = 0) →
        best.1.isSome = true ∨ ∃ other ∈ rest, ∃ space,
          spaces.get other = some space ∧ space.ackElicitingInFlight ≠ 0 := by
      intro idle
      refine due.imp_right ?_
      rintro ⟨other, member, space, found, busy⟩
      rcases List.mem_cons.mp member with rfl | further
      · exact absurd (idle space found) busy
      · exact ⟨other, further, space, found, busy⟩
    rw [ptoLoop]
    cases found : spaces.get candidate with
    | none =>
      exact ih later duration best (skip fun space present => nomatch found.symm.trans present)
    | some space =>
      dsimp only
      by_cases idle : space.ackElicitingInFlight = 0
      · rw [if_pos idle]
        refine ih later duration best (skip fun other present => ?_)
        cases found.symm.trans present
        exact idle
      · have confirmed : ¬ (candidate = .data ∧ status.completed = false) := by
          rw [completed]
          exact fun early => nomatch early.2
        rw [if_neg idle, if_neg confirmed]
        generalize (if candidate = SpaceId.data then recovery.ptoWithAckDelay duration
          else duration) = delay
        split
        · refine ih later _ _ (.inl ?_)
          rw [Option.isSome_map]
          exact timed candidate List.mem_cons_self space found idle
        case isFalse sooner =>
          refine ih later _ _ (.inl ?_)
          rw [Bool.or_eq_true, not_or, Option.isNone_iff_eq_none] at sooner
          exact Option.isSome_iff_ne_none.mpr sooner.1

theorem setLossDetectionTimer_isSome (recovery : Recovery) {spaceId : SpaceId} {now : Instant}
    (completed : status.completed = true)
    (timed : ∀ candidate ∈ candidates spaceId, ∀ space, spaces.get candidate = some space →
      space.ackElicitingInFlight ≠ 0 → space.timeOfLastSentAckElicitingPkt.isSome = true)
    (busy : recovery.ackElicitingInFlight ≠ 0) (due : ∃ candidate ∈ candidates spaceId, ∃ space,
      spaces.get candidate = some space ∧ space.ackElicitingInFlight ≠ 0) :
    (recovery.setLossDetectionTimer spaceId spaces status now).lossDetectionTimer.isSome = true := by
  rw [setLossDetectionTimer]
  split
  · rfl
  · rw [if_neg fun idle => busy idle.1]
    rw [getPtoTimeAndSpace]
    dsimp only
    rw [if_neg busy]
    exact ptoLoop_isSome recovery completed timed _ _ (.inr due)

private theorem getLossTimeAndSpace_found (spaceId : SpaceId)
    (initial : (spaces.get .initial).isSome = true) :
    (spaces.get (getLossTimeAndSpace spaceId spaces).2).isSome = true := by
  unfold getLossTimeAndSpace
  refine List.foldlRecOn (motive := fun best : Option Instant × SpaceId =>
    (spaces.get best.2).isSome = true) _ _ initial ?_
  intro best found candidate _
  split
  · exact found
  · split
    case isTrue present _ => exact Option.isSome_of_eq_some present
    case isFalse => exact found

private theorem ptoLoop_found (recovery : Recovery)
    (list : List SpaceId) (duration : Duration) (best : Option Instant × SpaceId)
    (found : (spaces.get best.2).isSome = true) :
    (spaces.get (ptoLoop recovery spaces status duration best list).2).isSome = true := by
  induction list generalizing duration best with
  | nil => exact found
  | cons candidate rest ih =>
    rw [ptoLoop]
    cases present : spaces.get candidate with
    | none => exact ih duration best found
    | some space =>
      dsimp only
      generalize (if candidate = SpaceId.data then recovery.ptoWithAckDelay duration
        else duration) = delay
      have here : (spaces.get candidate).isSome = true := Option.isSome_of_eq_some present
      split_ifs
      · exact ih duration best found
      · exact found
      · exact ih _ _ here
      · exact ih _ _ found

private theorem getPtoTimeAndSpace_found (recovery : Recovery) (spaceId : SpaceId)
    (status : HandshakeStatus) (now : Instant) (initial : (spaces.get .initial).isSome = true)
    (handshake : (spaces.get .handshake).isSome = true) :
    (spaces.get (recovery.getPtoTimeAndSpace spaceId spaces status now).2).isSome = true := by
  unfold getPtoTimeAndSpace
  dsimp only
  split
  · dsimp only
    split
    · exact handshake
    · exact initial
  · exact ptoLoop_found recovery _ _ _ initial

private theorem mem_candidates (spaceId : SpaceId) : spaceId ∈ candidates spaceId := by
  unfold candidates
  split_ifs with own
  · simp
  · rw [not_and_or, not_not, not_not] at own
    rcases own with rfl | rfl <;> simp

/-! ## What the operations make of a space -/

structure Shrinks (before after : PacketNumSpace φ) : Prop where
  numbers : (after.sent.map (·.pktNum)).Sublist (before.sent.map (·.pktNum))
  fewer : after.ackElicitingInFlight ≤ before.ackElicitingInFlight
  sameTime : after.timeOfLastSentAckElicitingPkt = before.timeOfLastSentAckElicitingPkt

theorem Shrinks.of_eq {before after : PacketNumSpace φ} (sent : after.sent = before.sent)
    (own : after.toInFlight = before.toInFlight)
    (sameTime : after.timeOfLastSentAckElicitingPkt = before.timeOfLastSentAckElicitingPkt) :
    Shrinks before after where
  numbers := by rw [sent]
  fewer := by rw [own]
  sameTime := sameTime

theorem Shrinks.trans {first second third : PacketNumSpace φ} (former : Shrinks first second)
    (latter : Shrinks second third) : Shrinks first third where
  numbers := latter.numbers.trans former.numbers
  fewer := latter.fewer.trans former.fewer
  sameTime := latter.sameTime.trans former.sameTime

theorem decreaseAll_le (counters : InFlight) (pkts : List (SentPacket φ)) :
    (counters.decreaseAll pkts).ackElicitingInFlight ≤ counters.ackElicitingInFlight := by
  induction pkts generalizing counters with
  | nil => exact le_refl _
  | cons pkt rest ih =>
    refine (ih (counters.decrease pkt)).trans ?_
    unfold InFlight.decrease
    split_ifs
    · exact Nat.sub_le _ _
    · exact le_refl _
    · exact le_refl _

private theorem detectAckedPackets_shrinks (recovery : Recovery) (ranges : RangeSet)
    (space : PacketNumSpace φ) (now : Instant) :
    Shrinks space (recovery.detectAckedPackets ranges space now).2.2 := by
  obtain ⟨acked, pass, _, _, own, _⟩ :=
    Sender.detectAckedPackets_spec recovery ranges space now
  refine ⟨?_, ?_, rfl⟩
  · rw [pass.map_eq fun pkt => rfl]
  · rw [own]
    exact decreaseAll_le _ acked

theorem detectAndDrain_shrinks (recovery : Recovery) (space : PacketNumSpace φ) (now : Instant) :
    Shrinks space (recovery.detectAndDrain space now).2.2 := by
  obtain ⟨lost, pass, _, own, _⟩ := lossLoop_spec now
    (max (recovery.timeThresh (max recovery.rtt.latestRtt recovery.rtt.smoothedRtt))
      timerGranularity) recovery.pktThresh space.largestAckedPkt
    ⟨recovery.toInFlight, space.toInFlight, space.lost, none, 0, 0⟩ space.sent
  refine ⟨?_, ?_, rfl⟩
  · rw [← pass.map_eq fun pkt => rfl]
    exact (List.dropWhile_sublist _).map _
  · exact (congrArg InFlight.ackElicitingInFlight own).trans_le (decreaseAll_le _ lost)

end Recovery

namespace Sender

/-! ## The spaces of a path -/

/-- A packet number space of a path that sends in the candidates of its own space. -/
structure Tracked (own : SpaceId) (entry : Nat × PacketNumSpace φ) : Prop where
  ascending : Ascending entry.2.sent
  timed : entry.2.ackElicitingInFlight ≠ 0 → entry.2.timeOfLastSentAckElicitingPkt.isSome = true
  home : entry.2.ackElicitingInFlight ≠ 0 → ∃ candidate ∈ candidates own, candidate.key = entry.1

/-- The invariant of the packet number spaces. Those of the handshake always exist. -/
structure Spaces (own : SpaceId) (spaces : PacketNumSpaceMap φ) : Prop where
  tracked : ∀ entry ∈ spaces.spaces, Tracked own entry
  initial : (spaces.get .initial).isSome = true
  handshake : (spaces.get .handshake).isSome = true

variable {own spaceId : SpaceId} {spaces : PacketNumSpaceMap φ} {space after : PacketNumSpace φ}

theorem Tracked.shrinks {key : Nat} (tracked : Tracked own (key, space))
    (shrinks : Shrinks space after) : Tracked own (key, after) where
  ascending := by
    have numbers : (space.sent.map (·.pktNum)).Pairwise (· ≤ ·) :=
      List.pairwise_map.mpr tracked.ascending
    exact List.pairwise_map.mp (numbers.sublist shrinks.numbers)
  timed busy := by
    dsimp only at busy ⊢
    rw [shrinks.sameTime]
    have := shrinks.fewer
    exact tracked.timed (by dsimp only; omega)
  home busy := by
    dsimp only at busy
    have := shrinks.fewer
    exact tracked.home (by dsimp only; omega)

theorem Spaces.get (valid : Spaces own spaces) (found : spaces.get spaceId = some space) :
    Tracked own (spaceId.key, space) := valid.tracked _ (OrdMap.get?_eq_some_iff.mp found)

theorem Tracked.idle {key : Nat} (sent : after.sent = []) (none : after.ackElicitingInFlight = 0) :
    Tracked own (key, after) where
  ascending := by
    dsimp only
    rw [sent]
    exact List.Pairwise.nil
  timed busy := absurd none busy
  home busy := absurd none busy

theorem Spaces.insert (valid : Spaces own spaces) {key : Nat} (nextDataExtId : Nat)
    (tracked : Tracked own (key, after)) :
    Spaces own ⟨spaces.spaces.insert key after, nextDataExtId⟩ := by
  have kept : ∀ other : SpaceId, (spaces.get other).isSome = true →
      ((spaces.spaces.insert key after).get? other.key).isSome = true := by
    intro other present
    rw [OrdMap.get?_insert]
    split_ifs
    · rfl
    · exact present
  refine ⟨?_, kept _ valid.initial, kept _ valid.handshake⟩
  intro entry member
  rcases OrdMap.mem_insert.mp member with rfl | ⟨earlier, _⟩
  · exact tracked
  · exact valid.tracked entry earlier

theorem Spaces.set (valid : Spaces own spaces) (tracked : Tracked own (spaceId.key, after)) :
    Spaces own (spaces.set spaceId after) := valid.insert _ tracked

theorem Spaces.shrinks (valid : Spaces own spaces) (found : spaces.get spaceId = some space)
    (shrinks : Shrinks space after) : Spaces own (spaces.set spaceId after) :=
  valid.set ((valid.get found).shrinks shrinks)

end Sender

/-! ## Runs -/

namespace Sender

def Op.spaceId? : Op φ → Option SpaceId
  | .packetSent _ spaceId _ _ => some spaceId
  | .ackReceived _ _ spaceId _ _ => some spaceId
  | .lossTimeout spaceId _ _ => some spaceId
  | .spaceDiscarded spaceId _ _ => some spaceId
  | _ => none

def Op.status? : Op φ → Option HandshakeStatus
  | .packetSent _ _ status _ => some status
  | .ackReceived _ _ _ status _ => some status
  | .lossTimeout _ status _ => some status
  | .spaceDiscarded _ status _ => some status
  | _ => none

/-- The operation sets the timer anew. -/
def Sets (sender : Sender φ) : Op φ → Prop
  | .packetSent pkt spaceId _ _ => pkt.inFlight = true ∧ (sender.spaces.get spaceId).isSome = true
  | .ackReceived ranges _ spaceId _ _ => ∃ space, sender.spaces.get spaceId = some space ∧
      ∃ pkt ∈ space.sent, pkt.pktNum ∈ ranges ∧ pkt.timeAcked = none
  | .lossTimeout _ _ _ => True
  | .spaceDiscarded spaceId _ _ => (sender.spaces.get spaceId).isSome = true
  | _ => False

variable {own : SpaceId} {sender next : Sender φ} {op : Op φ}

/-- A path sends in the packet number space of its own, and the first path in those of the handshake as
well. The packet numbers of a space ascend. -/
def onPath (own : SpaceId) (sender : Sender φ) (op : Op φ) : Bool :=
  op.spaceId?.all (fun spaceId => decide (candidates spaceId = candidates own)) &&
    match op with
    | .packetSent pkt spaceId _ _ => (sender.spaces.get spaceId).all fun space =>
      space.sent.all fun other => decide (other.pktNum < pkt.pktNum)
    | _ => true

theorem onPath_candidates {spaceId : SpaceId} (path : onPath own sender op = true)
    (named : op.spaceId? = some spaceId) : candidates spaceId = candidates own := by
  have first := (Bool.and_eq_true_iff.mp path).1
  rw [named, Option.all_some] at first
  exact of_decide_eq_true first

theorem Tracked.sent {spaceId : SpaceId} {space : PacketNumSpace φ} {pkt : SentPacket φ}
    {status : HandshakeStatus} {now : Instant}
    (tracked : Tracked own (spaceId.key, space)) (found : sender.spaces.get spaceId = some space)
    (path : onPath own sender (.packetSent pkt spaceId status now) = true)
    {after : PacketNumSpace φ} (sent : after.sent = space.sent ++ [{ pkt with timeSent := now }])
    (count : after.toInFlight = space.increase pkt) (sentAt : after.timeOfLastSentAckElicitingPkt =
      if pkt.inFlight && pkt.ackEliciting then some now else space.timeOfLastSentAckElicitingPkt) :
    Tracked own (spaceId.key, after) where
  ascending := by
    have above := (Bool.and_eq_true_iff.mp path).2
    dsimp only at above
    rw [found, Option.all_some, List.all_eq_true] at above
    rw [Ascending, sent, List.pairwise_append]
    refine ⟨tracked.ascending, List.pairwise_singleton _ _, ?_⟩
    intro other member last only
    rw [List.mem_singleton.mp only]
    exact (of_decide_eq_true (above other member)).le
  timed busy := by
    dsimp only at busy ⊢
    rw [count, InFlight.increase] at busy
    rw [sentAt]
    cases flying : pkt.inFlight <;> cases elicits : pkt.ackEliciting <;>
      simp only [flying, elicits, if_true, Bool.false_eq_true, if_false, Bool.and_self, Bool.and_true,
        Bool.and_false, Option.isSome_some] at busy ⊢
    · exact tracked.timed busy
    · exact tracked.timed busy
    · exact tracked.timed busy
  home _ :=
    ⟨spaceId, onPath_candidates path rfl ▸ mem_candidates spaceId, rfl⟩

/-- Steps on the path keep its spaces tracked. -/
theorem Spaces.step (valid : Spaces own sender.spaces) (path : onPath own sender op = true)
    (stepped : sender.step op = some next) : Spaces own next.spaces := by
  cases op with
  | packetSent pkt spaceId status now =>
    obtain ⟨fresh, same⟩ := Option.ite_none_right_eq_some.mp stepped
    cases same
    dsimp only
    rw [onPacketSent]
    cases found : sender.spaces.get spaceId with
    | none => exact valid
    | some space =>
      dsimp only
      split
      · exact valid.set ((valid.get found).sent found path rfl rfl rfl)
      · exact valid.set ((valid.get found).sent found path rfl rfl rfl)
  | ackReceived ranges ackDelay spaceId status now =>
    obtain ⟨result, received, rfl⟩ := Option.map_eq_some_iff.mp stepped
    rcases onAckReceived_cases received with ⟨_, rfl⟩ |
      ⟨space, largest, acks, found, _, rfl, ends⟩
    · exact valid
    · have updated : Shrinks space (updateLargestAcked space largest) := .of_eq rfl rfl rfl
      have marked := updated.trans (detectAckedPackets_shrinks sender.recovery ranges _ now)
      rcases ends with ⟨_, rfl⟩ | ⟨_, rfl, rfl⟩
      · exact valid.shrinks found marked
      · exact valid.shrinks found (marked.trans (detectAndDrain_shrinks _ _ now))
  | lossTimeout spaceId status now =>
    cases stepped
    dsimp only
    rw [onLossDetectionTimeout]
    dsimp only
    cases found : sender.spaces.get (getLossTimeAndSpace spaceId sender.spaces).2 with
    | none => exact valid
    | some space =>
      dsimp only
      split
      · exact valid.shrinks found (detectAndDrain_shrinks _ _ now)
      · split
        case h_1 => exact valid
        case h_2 probed present => exact valid.shrinks present (.of_eq rfl rfl rfl)
  | spaceDiscarded spaceId status now =>
    cases stepped
    dsimp only
    rw [onPktNumSpaceDiscarded]
    cases found : sender.spaces.get spaceId with
    | none => exact valid
    | some space => exact valid.set (.idle rfl rfl)
  | spaceAdded =>
    cases stepped
    exact valid.insert _ (.idle rfl rfl)
  | ackedProcessed spaceId =>
    obtain ⟨space, found, rfl⟩ := Option.map_eq_some_iff.mp stepped
    exact valid.shrinks found (.of_eq rfl rfl rfl)
  | lostProcessed spaceId =>
    obtain ⟨space, found, rfl⟩ := Option.map_eq_some_iff.mp stepped
    exact valid.shrinks found (.of_eq rfl rfl rfl)

/-- A step sets the timer at its end, or changes nothing that the timer depends on. -/
theorem step_timer (valid : Spaces own sender.spaces) (stepped : sender.step op = some next) :
    (∃ (recovery : Recovery) (spaceId : SpaceId) (status : HandshakeStatus) (now : Instant),
      op.spaceId? = some spaceId ∧ op.status? = some status ∧
      next.recovery = recovery.setLossDetectionTimer spaceId next.spaces status now) ∨
    ¬ Sets sender op ∧
      next.recovery.lossDetectionTimer = sender.recovery.lossDetectionTimer ∧
      next.recovery.ackElicitingInFlight = sender.recovery.ackElicitingInFlight := by
  cases op with
  | packetSent pkt spaceId status now =>
    obtain ⟨fresh, same⟩ := Option.ite_none_right_eq_some.mp stepped
    cases same
    dsimp only
    rw [onPacketSent]
    cases found : sender.spaces.get spaceId with
    | none =>
      refine .inr ⟨fun sets => ?_, rfl, rfl⟩
      have present := sets.2
      rw [found] at present
      cases present
    | some space =>
      dsimp only
      split
      case isTrue => exact .inl ⟨_, spaceId, status, now, rfl, rfl, rfl⟩
      case isFalse idle =>
        refine .inr ⟨fun sets => idle sets.1, rfl, ?_⟩
        dsimp only
        rw [InFlight.increase, if_neg idle]
  | ackReceived ranges ackDelay spaceId status now =>
    obtain ⟨result, received, rfl⟩ := Option.map_eq_some_iff.mp stepped
    rcases onAckReceived_cases received with ⟨missing, rfl⟩ |
      ⟨space, largest, acks, found, _, rfl, ends⟩
    · refine .inr ⟨fun sets => ?_, rfl, rfl⟩
      obtain ⟨space, present, _⟩ := sets
      cases missing.symm.trans present
    · have ascending : Ascending (updateLargestAcked space largest).sent :=
        (valid.get found).ascending
      have reported := (detectAckedPackets_eq sender.recovery ranges now ascending).2
      obtain ⟨acked, _, count, total, _⟩ :=
        detectAckedPackets_spec sender.recovery ranges (updateLargestAcked space largest) now
      rcases ends with ⟨nothing, rfl⟩ | ⟨_, rfl, rfl⟩
      · refine .inr ⟨fun sets => ?_, rfl, ?_⟩
        · obtain ⟨other, present, pkt, member, covered⟩ := sets
          cases found.symm.trans present
          rw [nothing, eq_comm, List.map_eq_nil_iff] at reported
          have chosen : pkt ∈ (updateLargestAcked space largest).sent.filter
              (newlyCovered ranges.iter) :=
            List.mem_filter.mpr ⟨member, newlyCovered_iter.mpr covered⟩
          rw [reported] at chosen
          cases chosen
        · rw [nothing] at count
          rw [List.length_eq_zero_iff.mp count.symm] at total
          exact congrArg InFlight.ackElicitingInFlight total
      · exact .inl ⟨_, spaceId, status, now, rfl, rfl, rfl⟩
  | lossTimeout spaceId status now =>
    cases stepped
    dsimp only
    rw [onLossDetectionTimeout]
    dsimp only
    cases found : sender.spaces.get (getLossTimeAndSpace spaceId sender.spaces).2 with
    | none =>
      have present := getLossTimeAndSpace_found spaceId valid.initial
      rw [found] at present
      cases present
    | some space =>
      dsimp only
      split
      case isTrue => exact .inl ⟨_, spaceId, status, now, rfl, rfl, rfl⟩
      case isFalse =>
        have exists' : (sender.spaces.get (if sender.recovery.ackElicitingInFlight > 0 then
            (sender.recovery.getPtoTimeAndSpace spaceId sender.spaces status now).2
          else if status.derivedHandshakeKeys then .handshake else .initial)).isSome = true := by
          split_ifs
          · exact getPtoTimeAndSpace_found _ _ _ _ valid.initial valid.handshake
          · exact valid.handshake
          · exact valid.initial
        split
        case h_1 missing =>
          rw [missing] at exists'
          cases exists'
        case h_2 => exact .inl ⟨_, spaceId, status, now, rfl, rfl, rfl⟩
  | spaceDiscarded spaceId status now =>
    cases stepped
    dsimp only
    rw [onPktNumSpaceDiscarded]
    cases found : sender.spaces.get spaceId with
    | none =>
      refine .inr ⟨fun sets => ?_, rfl, rfl⟩
      have present : (sender.spaces.get spaceId).isSome = true := sets
      rw [found] at present
      cases present
    | some space => exact .inl ⟨_, spaceId, status, now, rfl, rfl, rfl⟩
  | spaceAdded =>
    cases stepped
    exact .inr ⟨id, rfl, rfl⟩
  | ackedProcessed spaceId =>
    obtain ⟨space, _, rfl⟩ := Option.map_eq_some_iff.mp stepped
    exact .inr ⟨id, rfl, rfl⟩
  | lostProcessed spaceId =>
    obtain ⟨space, _, rfl⟩ := Option.map_eq_some_iff.mp stepped
    exact .inr ⟨id, rfl, rfl⟩

theorem Spaces.new (own : SpaceId) : Spaces own (.new : PacketNumSpaceMap φ) where
  tracked entry member := by
    have fresh := (mem_new member).1
    refine ⟨?_, ?_, ?_⟩ <;> rw [fresh]
    · exact List.Pairwise.nil
    · exact fun busy => absurd rfl busy
    · exact fun busy => absurd rfl busy
  initial := rfl
  handshake := rfl

def Armed (sender : Sender φ) : Prop :=
  sender.recovery.ackElicitingInFlight ≠ 0 → sender.recovery.lossDetectionTimer.isSome = true

theorem Exact.waiting (exact : sender.Exact) (busy : sender.recovery.ackElicitingInFlight ≠ 0) :
    ∃ entry ∈ sender.spaces.spaces, elicitingOutstanding entry.2.sent ≠ 0 := by
  by_contra none
  push Not at none
  refine busy (exact.eliciting.trans (List.sum_eq_zero ?_))
  intro count member
  obtain ⟨entry, present, rfl⟩ := List.mem_map.mp member
  exact none entry present

private theorem armed_of_set {recovery : Recovery} {spaceId : SpaceId} {status : HandshakeStatus}
    {now : Instant} (exact : next.Exact) (valid : Spaces own next.spaces)
    (path : candidates spaceId = candidates own) (completed : status.completed = true)
    (set : next.recovery = recovery.setLossDetectionTimer spaceId next.spaces status now) :
    next.Armed := by
  intro busy
  have counters : next.recovery.toInFlight = recovery.toInFlight := by
    rw [set, setLossDetectionTimer_toInFlight]
  obtain ⟨entry, present, waits⟩ := exact.waiting busy
  have counted : entry.2.ackElicitingInFlight ≠ 0 := by
    rw [(exact.spaces entry present).eliciting]
    exact waits
  obtain ⟨candidate, member, key⟩ := (valid.tracked entry present).home counted
  rw [set]
  refine setLossDetectionTimer_isSome recovery completed ?_ ?_ ?_
  · exact fun other _ space found => (valid.get found).timed
  · rw [← counters]
    exact busy
  · refine ⟨candidate, path ▸ member, entry.2, ?_, counted⟩
    rw [PacketNumSpaceMap.get, key]
    exact OrdMap.get?_eq_some_iff.mpr present

end Sender

/-- The sender of a path, and whether the handshake was completed at its last operation. -/
structure WatchedSender (φ : Type) where
  sender : Sender φ
  completed : Bool

namespace WatchedSender

open Sender

def new (recovery : Recovery) : WatchedSender φ := ⟨.new recovery, false⟩

def step (own : SpaceId) (state : WatchedSender φ) (op : Op φ) : Option (WatchedSender φ) :=
  if onPath own state.sender op then
    (state.sender.step op).map fun sender =>
      { sender, completed := op.status?.elim state.completed (·.completed) }
  else none

/-- No packet is acknowledged after it was declared lost. The first operation after the handshake was
completed finds the timer armed or nothing in flight, or it sets the timer. -/
structure Prompt (state : WatchedSender φ) (op : Op φ) : Prop where
  punctual : NoLateAck state.sender op
  first : ∀ status, op.status? = some status → status.completed = true →
    state.completed = true ∨ Sets state.sender op ∨
      state.sender.recovery.lossDetectionTimer.isSome = true ∨
      ∀ entry ∈ state.sender.spaces.spaces, elicitingOutstanding entry.2.sent = 0

structure Inv (own : SpaceId) (state : WatchedSender φ) : Prop where
  exact : state.sender.Exact
  spaces : Spaces own state.sender.spaces
  armed : state.completed = true → state.sender.Armed

variable {own : SpaceId} {state next : WatchedSender φ} {op : Op φ}

/-- A prompt step leaves the timer armed. -/
theorem Inv.step (inv : Inv own state) (prompt : Prompt state op)
    (stepped : state.step own op = some next) : Inv own next := by
  obtain ⟨path, moved⟩ := Option.ite_none_right_eq_some.mp stepped
  obtain ⟨sender, worked, rfl⟩ := Option.map_eq_some_iff.mp moved
  have exact := exact_step inv.exact prompt.punctual (step_effect state.sender worked)
  have spaces := inv.spaces.step path worked
  refine ⟨exact, spaces, fun completed => ?_⟩
  dsimp only at completed ⊢
  rcases step_timer inv.spaces worked with
    ⟨recovery, spaceId, status, now, named, known, set⟩ | ⟨unset, timer, count⟩
  · rw [known] at completed
    exact armed_of_set exact spaces (onPath_candidates path named) completed set
  · intro busy
    rw [count] at busy
    rw [timer]
    cases known : op.status? with
    | none =>
      rw [known] at completed
      exact inv.armed completed busy
    | some status =>
      rw [known] at completed
      rcases prompt.first status known completed with before | sets | armed | nothing
      · exact inv.armed before busy
      · exact absurd sets unset
      · exact armed
      · obtain ⟨entry, present, waits⟩ := inv.exact.waiting busy
        exact absurd (nothing entry present) waits

/-- Data is sent before the handshake is completed, and the first operation after it, a packet with
nothing but an ACK frame, leaves the timer as it was. -/
example : (exec (step .data)
    (.new (.new 25000000 0 1000000000 333000000 fun rtt => rtt * 9 / 8) : WatchedSender Nat)
    [.packetSent ⟨0, [0], 0, none, none, true, true, true, 100⟩ .data ⟨true, true, false⟩ 0,
      .packetSent ⟨1, [1], 0, none, none, false, false, false, 50⟩ .data ⟨true, true, true⟩ 1]).map
    (fun state => (state.completed, state.sender.recovery.lossDetectionTimer)) = some (true, none) := by
  decide +kernel

end WatchedSender

end Tquic.Connection
