import Tquic.Connection.Recovery
import Mathlib.Data.List.TakeWhile
import Tquic.Lib.Pass
import Tquic.Lib.Transition
import Tquic.RangesProperties

/-! Runs of loss recovery on a path with its packet number spaces, and what each operation
can do: `Effect` lists the packets that leave the outstanding ones and where their frames
go. -/

set_option autoImplicit false

namespace Tquic.Connection

open Lib

variable {φ : Type}

def InFlight.decreaseAll (counters : InFlight) (pkts : List (SentPacket φ)) : InFlight :=
  pkts.foldl decrease counters

def framesOf (pkts : List (SentPacket φ)) : List φ := pkts.flatMap (·.frames)

namespace Recovery

/-! ## The loops over the sent packets -/

theorem setLossDetectionTimer_toInFlight (recovery : Recovery) (spaceId : SpaceId)
    (spaces : PacketNumSpaceMap φ) (status : HandshakeStatus) (now : Instant) :
    (recovery.setLossDetectionTimer spaceId spaces status now).toInFlight = recovery.toInFlight := by
  rw [setLossDetectionTimer]
  split
  · rfl
  · split <;> rfl

def AckScan.ackAll (scan : AckScan φ) (pkts : List (SentPacket φ)) (now : Instant) : AckScan φ :=
  pkts.foldl (fun scan pkt => scan.ack pkt now) scan

theorem AckScan.ackAll_spec (scan : AckScan φ) (pkts : List (SentPacket φ)) (now : Instant) :
    (scan.ackAll pkts now).total = scan.total.decreaseAll pkts ∧
      (scan.ackAll pkts now).own = scan.own.decreaseAll pkts ∧
      (scan.ackAll pkts now).acked = scan.acked ++ framesOf pkts ∧
      (scan.ackAll pkts now).newlyAcked.length = scan.newlyAcked.length + pkts.length := by
  induction pkts generalizing scan with
  | nil => exact ⟨rfl, rfl, (List.append_nil _).symm, rfl⟩
  | cons pkt rest ih =>
    obtain ⟨total, own, acked, count⟩ := ih (scan.ack pkt now)
    refine ⟨total, own, ?_, count.trans ?_⟩
    · rw [framesOf, List.flatMap_cons, ← List.append_assoc]
      exact acked
    · simp only [AckScan.ack, List.length_append, List.length_cons, List.length_nil]
      omega

def Within (ranges : List Range) (number : Nat) : Prop :=
  ∃ range ∈ ranges, range.start ≤ number ∧ number < range.stop

/-- A packet that the ranges of an ACK frame cover is acknowledged for the first time. -/
def Acknowledgeable (covered : Nat → Prop) (pkt : SentPacket φ) : Prop :=
  pkt.timeAcked = none ∧ covered pkt.pktNum

private theorem sentPktLoop_spec (now : Instant) (range : Range) (scan : AckScan φ)
    (sent : List (SentPacket φ)) :
    ∃ passed chosen,
      sent = passed ++ (sentPktLoop now range scan sent).2.1 ∧
      Pass (markAcked now)
        (Acknowledgeable fun number => range.start ≤ number ∧ number < range.stop) passed
        (sentPktLoop now range scan sent).1 chosen ∧
      (sentPktLoop now range scan sent).2.2 = scan.ackAll chosen now := by
  induction sent generalizing scan with
  | nil => exact ⟨[], [], rfl, .nil, rfl⟩
  | cons pkt rest ih =>
    rw [sentPktLoop]
    split
    case isTrue =>
      obtain ⟨passed, chosen, split, pass, result⟩ := ih scan
      exact ⟨pkt :: passed, chosen, congrArg (pkt :: ·) split, .keep pass, result⟩
    case isFalse unseen =>
      split
      case isTrue => exact ⟨[], [], rfl, .nil, rfl⟩
      case isFalse inside =>
        obtain ⟨passed, chosen, split, pass, result⟩ := ih (scan.ack pkt now)
        simp only [Bool.or_eq_true, decide_eq_true_eq, not_or, Option.not_isSome_iff_eq_none]
          at unseen
        refine ⟨pkt :: passed, pkt :: chosen, congrArg (pkt :: ·) split, .mark ?_ pass, result⟩
        exact ⟨unseen.2, by omega, by omega⟩

private theorem rangesLoop_spec (now : Instant) (scan : AckScan φ) (ranges : List Range)
    (sent : List (SentPacket φ)) :
    ∃ chosen,
      Pass (markAcked now) (Acknowledgeable (Within ranges)) sent
        (rangesLoop now scan ranges sent).1 chosen ∧
      (rangesLoop now scan ranges sent).2 = scan.ackAll chosen now := by
  induction ranges generalizing scan sent with
  | nil => exact ⟨[], .refl sent, rfl⟩
  | cons range ranges ih =>
    obtain ⟨passed, chosen, split, pass, middle⟩ := sentPktLoop_spec now range scan sent
    obtain ⟨later, rest, result⟩ :=
      ih (sentPktLoop now range scan sent).2.2 (sentPktLoop now range scan sent).2.1
    have former : Pass (markAcked now) (Acknowledgeable (Within (range :: ranges))) passed
        (sentPktLoop now range scan sent).1 chosen := by
      refine pass.mono fun pkt allowed => ?_
      exact ⟨allowed.1, range, List.mem_cons_self, allowed.2⟩
    have latter := rest.mono (fun pkt allowed => by
      obtain ⟨first, other, member, inside⟩ := allowed
      exact (⟨first, other, List.mem_cons_of_mem _ member, inside⟩ :
        Acknowledgeable (Within (range :: ranges)) pkt))
    refine ⟨chosen ++ later, ?_, ?_⟩
    · have whole := former.append latter
      rw [← split] at whole
      exact whole
    · rw [rangesLoop, result, middle, AckScan.ackAll, AckScan.ackAll, AckScan.ackAll,
        List.foldl_append]

/-- The loop marks some of the outstanding packets as lost and takes them off the counters. -/
theorem lossLoop_spec (now : Instant) (lossDelay : Duration) (pktThresh largestAckedPkt : Nat)
    (scan : LossScan φ) (sent : List (SentPacket φ)) :
    ∃ chosen,
      Pass (markLost now) (fun pkt => pkt.outstanding = true) sent
        (lossLoop now lossDelay pktThresh largestAckedPkt scan sent).1 chosen ∧
      (lossLoop now lossDelay pktThresh largestAckedPkt scan sent).2.total =
        scan.total.decreaseAll chosen ∧
      (lossLoop now lossDelay pktThresh largestAckedPkt scan sent).2.own =
        scan.own.decreaseAll chosen ∧
      (lossLoop now lossDelay pktThresh largestAckedPkt scan sent).2.lost =
        scan.lost ++ framesOf chosen := by
  induction sent generalizing scan with
  | nil => exact ⟨[], .nil, rfl, rfl, (List.append_nil _).symm⟩
  | cons pkt rest ih =>
    rw [lossLoop]
    split
    case isTrue => exact ⟨[], .refl _, rfl, rfl, (List.append_nil _).symm⟩
    case isFalse =>
      split
      case isTrue =>
        obtain ⟨chosen, pass, result⟩ := ih scan
        exact ⟨chosen, .keep pass, result⟩
      case isFalse waiting =>
        split
        case isTrue =>
          obtain ⟨chosen, pass, total, own, lost⟩ := ih (scan.lose pkt)
          refine ⟨pkt :: chosen, .mark (by simpa using waiting) pass, total, own, ?_⟩
          rw [framesOf, List.flatMap_cons, ← List.append_assoc]
          exact lost
        case isFalse =>
          obtain ⟨chosen, pass, result⟩ := ih
            { scan with
              lossTime := some (scan.lossTime.elim (pkt.timeSent + (lossDelay : Int))
                (min · (pkt.timeSent + (lossDelay : Int)))) }
          exact ⟨chosen, .keep pass, result⟩

theorem onAckReceived_cases {recovery : Recovery} {ranges : RangeSet} {ackDelay : Nat}
    {spaceId : SpaceId} {spaces : PacketNumSpaceMap φ} {status : HandshakeStatus} {now : Instant}
    {result : Except Error (Nat × Nat) × Recovery × PacketNumSpaceMap φ}
    (received : recovery.onAckReceived ranges ackDelay spaceId spaces status now = some result) :
    spaces.get spaceId = none ∧ result = (.error .internalError, recovery, spaces) ∨
      ∃ space largest acks, spaces.get spaceId = some space ∧ ranges.max = some largest ∧
        recovery.detectAckedPackets ranges (updateLargestAcked space largest) now = acks ∧
        (acks.1.1 = [] ∧ result = (.ok (0, 0), acks.2.1, spaces.set spaceId acks.2.2) ∨
          ∃ losses,
            (acks.2.1.updateRtt ackDelay acks.1.2).detectAndDrain acks.2.2 now = losses ∧
            result = (.ok losses.1,
              { losses.2.1 with ptoCount := 0 }.setLossDetectionTimer spaceId
                (spaces.set spaceId losses.2.2) status now,
              spaces.set spaceId losses.2.2)) := by
  rw [onAckReceived] at received
  cases found : spaces.get spaceId with
  | none =>
    simp only [found] at received
    exact .inl ⟨rfl, (Option.some.inj received).symm⟩
  | some space =>
    simp only [found] at received
    cases greatest : ranges.max with
    | none =>
      simp only [greatest] at received
      cases received
    | some largest =>
      simp only [greatest] at received
      refine .inr ⟨space, largest, _, rfl, rfl, rfl, ?_⟩
      split at received
      case isTrue empty =>
        exact .inl ⟨List.isEmpty_iff.mp empty, (Option.some.inj received).symm⟩
      case isFalse => exact .inr ⟨_, rfl, (Option.some.inj received).symm⟩

end Recovery

/-! ## Runs -/

open Recovery

/-- The recovery state of a path with the packet number spaces. -/
structure Sender (φ : Type) where
  recovery : Recovery
  spaces : PacketNumSpaceMap φ

namespace Sender

inductive Op (φ : Type) where
  | packetSent (pkt : SentPacket φ) (spaceId : SpaceId) (status : HandshakeStatus) (now : Instant)
  | ackReceived (ranges : RangeSet) (ackDelay : Nat) (spaceId : SpaceId)
      (status : HandshakeStatus) (now : Instant)
  | lossTimeout (spaceId : SpaceId) (status : HandshakeStatus) (now : Instant)
  | spaceDiscarded (spaceId : SpaceId) (status : HandshakeStatus) (now : Instant)
  | spaceAdded
  -- The connection processes the acknowledged or lost frames of a space.
  | ackedProcessed (spaceId : SpaceId)
  | lostProcessed (spaceId : SpaceId)

def new (recovery : Recovery) : Sender φ := ⟨recovery, .new⟩

/-- The connection builds a packet without a time of acknowledgement or loss, and sets
`ack_eliciting` only together with `in_flight`. -/
def built (pkt : SentPacket φ) : Bool :=
  pkt.outstanding && (!pkt.ackEliciting || pkt.inFlight)

def step (sender : Sender φ) : Op φ → Option (Sender φ)
  | .packetSent pkt spaceId status now =>
    if built pkt then
      let result := sender.recovery.onPacketSent pkt spaceId sender.spaces status now
      some ⟨result.1, result.2⟩
    else none
  | .ackReceived ranges ackDelay spaceId status now =>
    (sender.recovery.onAckReceived ranges ackDelay spaceId sender.spaces status now).map
      fun result => ⟨result.2.1, result.2.2⟩
  | .lossTimeout spaceId status now =>
    let result := sender.recovery.onLossDetectionTimeout spaceId sender.spaces status now
    some ⟨result.2.1, result.2.2⟩
  | .spaceDiscarded spaceId status now =>
    let result := sender.recovery.onPktNumSpaceDiscarded spaceId sender.spaces status now
    some ⟨result.1, result.2⟩
  | .spaceAdded => some { sender with spaces := sender.spaces.add.2 }
  | .ackedProcessed spaceId =>
    (sender.spaces.get spaceId).map fun space =>
      { sender with spaces := sender.spaces.set spaceId { space with
          acked := []
          history := { space.history with ackedDone := space.history.ackedDone ++ space.acked } } }
  | .lostProcessed spaceId =>
    (sender.spaces.get spaceId).map fun space =>
      { sender with spaces := sender.spaces.set spaceId { space with
          lost := []
          history := { space.history with lostDone := space.history.lostDone ++ space.lost } } }

def Reachable (guard : Sender φ → Op φ → Prop) (sender : Sender φ) : Prop :=
  ∃ maxAckDelay ptoLinearFactor maxPto initialRtt timeThresh,
    Run step guard (.new (.new maxAckDelay ptoLinearFactor maxPto initialRtt timeThresh)) sender

theorem mem_new {entry : Nat × PacketNumSpace φ}
    (member : entry ∈ (PacketNumSpaceMap.new : PacketNumSpaceMap φ).spaces) :
    entry.2 = .new ∧ entry.1 < 3 := by
  simp only [PacketNumSpaceMap.new, OrdMap.mem_insert, OrdMap.not_mem_empty, false_and, or_false]
    at member
  rcases member with rfl | ⟨rfl | ⟨rfl, _⟩, _⟩
  · exact ⟨rfl, by simp⟩
  · exact ⟨rfl, by simp⟩
  · exact ⟨rfl, by simp⟩

/-! ## Kinds of steps -/

/-- Packets of a space were acknowledged or declared lost, or have left the queue. -/
structure Settles (covered : Nat → Prop) (space after : PacketNumSpace φ)
    (acked lost removed : List (SentPacket φ)) : Prop where
  passes : ∃ now middle,
    Pass (markAcked now) (Acknowledgeable covered) space.sent middle acked ∧
      Pass (markLost now) (fun pkt => pkt.outstanding = true) middle (removed ++ after.sent) lost
  settled : ∀ pkt ∈ removed, pkt.outstanding = false
  ackedFrames : after.acked = space.acked ++ framesOf acked
  lostFrames : after.lost = space.lost ++ framesOf lost
  counters : after.toInFlight = space.toInFlight.decreaseAll (acked ++ lost)
  history : after.history = { space.history with removed := space.history.removed ++ removed }

def Acknowledges (op : Op φ) (spaceId : SpaceId) (number : Nat) : Prop :=
  ∃ ranges ackDelay status now,
    op = .ackReceived ranges ackDelay spaceId status now ∧ number ∈ ranges

inductive Effect (sender : Sender φ) : Op φ → Sender φ → Prop where
  | still {op recovery} (counters : recovery.toInFlight = sender.recovery.toInFlight) :
      Effect sender op ⟨recovery, sender.spaces⟩
  | sent {pkt pkt' spaceId status now space after recovery}
      (found : sender.spaces.get spaceId = some space) (fresh : built pkt = true)
      (same : pkt' = { pkt with timeSent := now }) (sent : after.sent = space.sent ++ [pkt'])
      (own : after.toInFlight = space.increase pkt')
      (total : recovery.toInFlight = sender.recovery.increase pkt')
      (acked : after.acked = space.acked) (lost : after.lost = space.lost)
      (history : after.history =
        { space.history with recorded := space.history.recorded ++ pkt'.frames }) :
      Effect sender (.packetSent pkt spaceId status now) ⟨recovery, sender.spaces.set spaceId after⟩
  | settled {op spaceId space after recovery covered acked lost removed}
      (found : sender.spaces.get spaceId = some space)
      (settles : Settles covered space after acked lost removed)
      (cause : ∀ number, covered number → Acknowledges op spaceId number)
      (total : recovery.toInFlight = sender.recovery.toInFlight.decreaseAll (acked ++ lost)) :
      Effect sender op ⟨recovery, sender.spaces.set spaceId after⟩
  | probed {op spaceId space after recovery copied}
      (found : sender.spaces.get spaceId = some space) (sent : after.sent = space.sent)
      (own : after.toInFlight = space.toInFlight)
      (total : recovery.toInFlight = sender.recovery.toInFlight)
      (acked : after.acked = space.acked) (lost : after.lost = space.lost ++ copied)
      (history : after.history = { space.history with probed := space.history.probed ++ copied }) :
      Effect sender op ⟨recovery, sender.spaces.set spaceId after⟩
  | discarded {spaceId status now space after recovery}
      (found : sender.spaces.get spaceId = some space) (sent : after.sent = [])
      (own : after.toInFlight = .zero)
      (total : recovery.toInFlight =
        removeFromBytesInFlight sender.recovery.toInFlight space.sent) :
      Effect sender (.spaceDiscarded spaceId status now) ⟨recovery, sender.spaces.set spaceId after⟩
  | added : Effect sender .spaceAdded { sender with spaces := sender.spaces.add.2 }
  | ackedProcessed {spaceId space} (found : sender.spaces.get spaceId = some space) :
      Effect sender (.ackedProcessed spaceId)
        { sender with spaces := sender.spaces.set spaceId { space with
            acked := []
            history := { space.history with ackedDone := space.history.ackedDone ++ space.acked } } }
  | lostProcessed {spaceId space} (found : sender.spaces.get spaceId = some space) :
      Effect sender (.lostProcessed spaceId)
        { sender with spaces := sender.spaces.set spaceId { space with
            lost := []
            history := { space.history with lostDone := space.history.lostDone ++ space.lost } } }

variable (sender : Sender φ) {status : HandshakeStatus} {now : Instant} {spaceId : SpaceId}

private theorem onPacketSent_effect {pkt : SentPacket φ} (fresh : built pkt = true) :
    Effect sender (.packetSent pkt spaceId status now)
      ⟨(sender.recovery.onPacketSent pkt spaceId sender.spaces status now).1,
        (sender.recovery.onPacketSent pkt spaceId sender.spaces status now).2⟩ := by
  rw [onPacketSent]
  cases found : sender.spaces.get spaceId with
  | none => exact .still rfl
  | some space =>
    simp only
    split
    · exact .sent found fresh rfl rfl rfl (setLossDetectionTimer_toInFlight _ _ _ _ _) rfl rfl rfl
    · exact .sent found fresh rfl rfl rfl rfl rfl rfl rfl

theorem detectAndDrain_settles {covered : Nat → Prop} (recovery : Recovery)
    (space : PacketNumSpace φ) {middle : PacketNumSpace φ} {acked : List (SentPacket φ)}
    (pass : Pass (markAcked now) (Acknowledgeable covered) space.sent middle.sent acked)
    (ackedFrames : middle.acked = space.acked ++ framesOf acked) (unlost : middle.lost = space.lost)
    (own : middle.toInFlight = space.toInFlight.decreaseAll acked)
    (history : middle.history = space.history) :
    ∃ lost removed,
      Settles covered space (recovery.detectAndDrain middle now).2.2 acked lost removed ∧
      (recovery.detectAndDrain middle now).2.1.toInFlight =
        recovery.toInFlight.decreaseAll lost := by
  obtain ⟨lost, declared, total, fewer, frames⟩ := lossLoop_spec now
    (max (recovery.timeThresh (max recovery.rtt.latestRtt recovery.rtt.smoothedRtt))
      timerGranularity) recovery.pktThresh middle.largestAckedPkt
    ⟨recovery.toInFlight, middle.toInFlight, middle.lost, none, 0, 0⟩ middle.sent
  refine ⟨lost, (recovery.detectLostPackets middle now).2.2.sent.takeWhile
      (expired now (recovery.detectLostPackets middle now).2.1.rtt.smoothedRtt),
    ⟨⟨now, middle.sent, pass, ?_⟩, ?_, ackedFrames, ?_, ?_, ?_⟩, total⟩
  · rw [detectAndDrain, drainSentPackets, List.takeWhile_append_dropWhile]
    exact declared
  · intro pkt member
    have past := List.mem_takeWhile_imp member
    rw [expired] at past
    simpa using (Bool.and_eq_true_iff.mp past).1
  · exact frames.trans (by rw [unlost])
  · refine fewer.trans ?_
    simp only [own, InFlight.decreaseAll, List.foldl_append]
  · simp only [detectAndDrain, drainSentPackets, detectLostPackets, history]

theorem updateRtt_toInFlight (recovery : Recovery) (ackDelay : Nat) (sample : Option Duration) :
    (recovery.updateRtt ackDelay sample).toInFlight = recovery.toInFlight := by
  cases sample with
  | none => rfl
  | some sample =>
    rw [updateRtt]
    split <;> rfl

/-- The packets that an ACK frame covers are marked and taken off the counters. -/
theorem detectAckedPackets_spec (recovery : Recovery) (ranges : RangeSet)
    (space : PacketNumSpace φ) (now : Instant) :
    ∃ acked,
      Pass (markAcked now) (Acknowledgeable (· ∈ ranges)) space.sent
        (recovery.detectAckedPackets ranges space now).2.2.sent acked ∧
      (recovery.detectAckedPackets ranges space now).1.1.length = acked.length ∧
      (recovery.detectAckedPackets ranges space now).2.1.toInFlight =
        recovery.toInFlight.decreaseAll acked ∧
      (recovery.detectAckedPackets ranges space now).2.2.toInFlight =
        space.toInFlight.decreaseAll acked ∧
      (recovery.detectAckedPackets ranges space now).2.2.acked = space.acked ++ framesOf acked ∧
      (recovery.detectAckedPackets ranges space now).2.2.lost = space.lost ∧
      (recovery.detectAckedPackets ranges space now).2.2.history = space.history := by
  obtain ⟨acked, pass, result⟩ := rangesLoop_spec now
    ⟨recovery.toInFlight, space.toInFlight, space.acked, [], 0, now, false⟩ ranges.iter space.sent
  obtain ⟨total, own, frames, count⟩ := AckScan.ackAll_spec
    ⟨recovery.toInFlight, space.toInFlight, space.acked, [], 0, now, false⟩ acked now
  rw [← result] at total own frames count
  refine ⟨acked, pass.mono fun pkt allowed => ⟨allowed.1, ?_⟩, ?_, total, own, frames, rfl, rfl⟩
  · exact RangeSet.mem_iff_range.mpr allowed.2
  · exact count.trans (Nat.zero_add _)

private theorem onAckReceived_effect {ranges : RangeSet} {ackDelay : Nat}
    {result : Except Error (Nat × Nat) × Recovery × PacketNumSpaceMap φ}
    (received : sender.recovery.onAckReceived ranges ackDelay spaceId sender.spaces status now =
      some result) :
    Effect sender (.ackReceived ranges ackDelay spaceId status now) ⟨result.2.1, result.2.2⟩ := by
  have cause : ∀ number, number ∈ ranges →
      Acknowledges (.ackReceived ranges ackDelay spaceId status now : Op φ) spaceId number :=
    fun number member => ⟨ranges, ackDelay, status, now, rfl, member⟩
  rcases onAckReceived_cases received with ⟨_, rfl⟩ |
    ⟨space, largest, acks, found, _, scanned, ends⟩
  · exact .still rfl
  · obtain ⟨acked, pass, count, total, own, ackedFrames, unlost, history⟩ :=
      detectAckedPackets_spec sender.recovery ranges (updateLargestAcked space largest) now
    rw [scanned] at pass count total own ackedFrames unlost history
    rcases ends with ⟨empty, rfl⟩ | ⟨_, rfl, rfl⟩
    · rw [empty] at count
      obtain rfl : acked = [] := List.length_eq_zero_iff.mp count.symm
      have settles : Settles (· ∈ ranges) space acks.2.2 [] [] [] :=
        ⟨⟨now, acks.2.2.sent, pass, .refl _⟩, by simp, ackedFrames,
          unlost.trans (List.append_nil _).symm, own, history.trans (by simp [updateLargestAcked])⟩
      exact .settled found settles cause total
    · obtain ⟨lost, removed, settles, fewer⟩ := detectAndDrain_settles
        (acks.2.1.updateRtt ackDelay acks.1.2) space pass ackedFrames unlost own history
      refine .settled found settles cause ?_
      rw [setLossDetectionTimer_toInFlight, InFlight.decreaseAll, List.foldl_append]
      exact fewer.trans (by rw [updateRtt_toInFlight, total]; rfl)

private theorem onLossDetectionTimeout_effect :
    Effect sender (.lossTimeout spaceId status now)
      ⟨(sender.recovery.onLossDetectionTimeout spaceId sender.spaces status now).2.1,
        (sender.recovery.onLossDetectionTimeout spaceId sender.spaces status now).2.2⟩ := by
  rw [onLossDetectionTimeout]
  cases found : sender.spaces.get (getLossTimeAndSpace spaceId sender.spaces).2 with
  | none => exact .still rfl
  | some space =>
    simp only
    split
    case isTrue =>
      have nothing : Pass (markAcked now) (Acknowledgeable fun _ => False) space.sent space.sent [] :=
        .refl space.sent
      obtain ⟨lost, removed, settles, fewer⟩ := detectAndDrain_settles sender.recovery space
        nothing (List.append_nil _).symm rfl rfl rfl
      refine .settled found settles (fun _ none => none.elim) ?_
      rw [setLossDetectionTimer_toInFlight]
      exact fewer
    case isFalse =>
      split
      case h_1 => exact .still rfl
      case h_2 probed present =>
        exact .probed present rfl rfl (setLossDetectionTimer_toInFlight _ _ _ _ _) rfl rfl rfl

private theorem onPktNumSpaceDiscarded_effect :
    Effect sender (.spaceDiscarded spaceId status now)
      ⟨(sender.recovery.onPktNumSpaceDiscarded spaceId sender.spaces status now).1,
        (sender.recovery.onPktNumSpaceDiscarded spaceId sender.spaces status now).2⟩ := by
  rw [onPktNumSpaceDiscarded]
  cases found : sender.spaces.get spaceId with
  | none => exact .still rfl
  | some space => exact .discarded found rfl rfl (setLossDetectionTimer_toInFlight _ _ _ _ _)

theorem step_effect {op : Op φ} {next : Sender φ} (stepped : sender.step op = some next) :
    Effect sender op next := by
  cases op with
  | packetSent pkt spaceId status now =>
    obtain ⟨fresh, same⟩ := Option.ite_none_right_eq_some.mp stepped
    cases same
    exact onPacketSent_effect sender fresh
  | ackReceived ranges ackDelay spaceId status now =>
    obtain ⟨result, received, rfl⟩ := Option.map_eq_some_iff.mp stepped
    exact onAckReceived_effect sender received
  | lossTimeout spaceId status now =>
    cases stepped
    exact onLossDetectionTimeout_effect sender
  | spaceDiscarded spaceId status now =>
    cases stepped
    exact onPktNumSpaceDiscarded_effect sender
  | spaceAdded =>
    cases stepped
    exact .added
  | ackedProcessed spaceId =>
    obtain ⟨space, found, rfl⟩ := Option.map_eq_some_iff.mp stepped
    exact .ackedProcessed found
  | lostProcessed spaceId =>
    obtain ⟨space, found, rfl⟩ := Option.map_eq_some_iff.mp stepped
    exact .lostProcessed found

end Sender

end Tquic.Connection
