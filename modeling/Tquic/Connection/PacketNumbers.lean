import Tquic.Connection.RecoveryRun

/-! The largest acknowledged packet number of each packet number space, over runs in which
the paths of a connection send packets and receive arbitrary ACK frames. -/

set_option autoImplicit false

namespace Tquic.Connection

open Lib

variable {φ : Type}

/-! ## What recovery does to the largest acknowledged number -/

namespace Sender

/-- How a space came to its largest acknowledged number in one step: it had it before, or the
space is new, or an ACK frame named it. -/
def LargestFrom (sender : Sender φ) (op : Op φ) (key largest : Nat) : Prop :=
  largest = u64Max ∨ ∃ space, sender.spaces.spaces.get? key = some space ∧
    (largest = space.largestAckedPkt ∨
      ∃ ranges ackDelay spaceId status now named,
        op = .ackReceived ranges ackDelay spaceId status now ∧ spaceId.key = key ∧
          ranges.max = some named ∧
          largest = (Recovery.updateLargestAcked space named).largestAckedPkt)

variable {space : PacketNumSpace φ}

theorem LargestFrom.unchanged {sender : Sender φ} {op : Op φ} {key : Nat}
    (found : sender.spaces.spaces.get? key = some space) :
    sender.LargestFrom op key space.largestAckedPkt :=
  .inr ⟨space, found, .inl rfl⟩

theorem LargestFrom.set {sender : Sender φ} {op : Op φ} {spaceId : SpaceId}
    {after : PacketNumSpace φ} (changed : sender.LargestFrom op spaceId.key after.largestAckedPkt)
    {key : Nat} (found : (sender.spaces.set spaceId after).spaces.get? key = some space) :
    sender.LargestFrom op key space.largestAckedPkt := by
  rw [PacketNumSpaceMap.set, OrdMap.get?_insert] at found
  split_ifs at found with same
  · cases found
    exact same ▸ changed
  · exact .unchanged found

/-- The largest acknowledged number stays, or an ACK frame for the space names it. -/
theorem step_largest {sender next : Sender φ} {op : Op φ} (stepped : sender.step op = some next)
    {key : Nat} (found : next.spaces.spaces.get? key = some space) :
    sender.LargestFrom op key space.largestAckedPkt := by
  cases op with
  | packetSent pkt spaceId status now =>
    obtain ⟨_, same⟩ := Option.ite_none_right_eq_some.mp stepped
    cases same
    dsimp only at found
    unfold Recovery.onPacketSent at found
    cases present : sender.spaces.get spaceId with
    | none =>
      rw [present] at found
      exact .unchanged found
    | some old =>
      rw [present] at found
      dsimp only at found
      have kept : sender.LargestFrom (.packetSent pkt spaceId status now) spaceId.key
          old.largestAckedPkt := .unchanged present
      split at found <;> refine LargestFrom.set ?_ found <;> exact kept
  | ackReceived ranges ackDelay spaceId status now =>
    obtain ⟨result, received, rfl⟩ := Option.map_eq_some_iff.mp stepped
    rcases Recovery.onAckReceived_cases received with ⟨_, rfl⟩ |
      ⟨old, named, acks, present, greatest, rfl, ends⟩
    · exact .unchanged found
    · have moved : sender.LargestFrom (.ackReceived ranges ackDelay spaceId status now)
          spaceId.key (Recovery.updateLargestAcked old named).largestAckedPkt :=
        .inr ⟨old, present, .inr ⟨_, _, _, _, _, named, rfl, rfl, greatest, rfl⟩⟩
      rcases ends with ⟨_, rfl⟩ | ⟨_, rfl, rfl⟩
      · refine LargestFrom.set ?_ found
        exact moved
      · refine LargestFrom.set ?_ found
        exact moved
  | lossTimeout spaceId status now =>
    cases stepped
    dsimp only at found
    unfold Recovery.onLossDetectionTimeout at found
    dsimp only at found
    split at found
    case h_1 => exact .unchanged found
    case h_2 old present =>
      have kept : sender.LargestFrom (.lossTimeout spaceId status now)
          (SpaceId.key _) old.largestAckedPkt := .unchanged present
      split at found
      · refine LargestFrom.set ?_ found
        exact kept
      · split at found
        case h_1 => exact .unchanged found
        case h_2 probed present =>
          have kept : sender.LargestFrom (.lossTimeout spaceId status now)
              (SpaceId.key _) probed.largestAckedPkt := .unchanged present
          refine LargestFrom.set ?_ found
          exact kept
  | spaceDiscarded spaceId status now =>
    cases stepped
    dsimp only at found
    unfold Recovery.onPktNumSpaceDiscarded at found
    cases present : sender.spaces.get spaceId with
    | none =>
      rw [present] at found
      exact .unchanged found
    | some old =>
      rw [present] at found
      have kept : sender.LargestFrom (.spaceDiscarded spaceId status now) spaceId.key
          old.largestAckedPkt := .unchanged present
      refine LargestFrom.set ?_ found
      exact kept
  | spaceAdded =>
    cases stepped
    dsimp only [PacketNumSpaceMap.add] at found
    rw [OrdMap.get?_insert] at found
    split_ifs at found
    · cases found
      exact .inl rfl
    · exact .unchanged found
  | ackedProcessed spaceId =>
    obtain ⟨old, present, rfl⟩ := Option.map_eq_some_iff.mp stepped
    have kept : sender.LargestFrom (.ackedProcessed spaceId) spaceId.key old.largestAckedPkt :=
      .unchanged present
    refine LargestFrom.set ?_ found
    exact kept
  | lostProcessed spaceId =>
    obtain ⟨old, present, rfl⟩ := Option.map_eq_some_iff.mp stepped
    have kept : sender.LargestFrom (.lostProcessed spaceId) spaceId.key old.largestAckedPkt :=
      .unchanged present
    refine LargestFrom.set ?_ found
    exact kept

end Sender

/-! ## Runs -/

/-- The paths of a connection, each with its own recovery, over the packet number spaces that
they share. Spaces are told apart by their keys. -/
structure PacketNumbers (φ : Type) where
  recoveries : List Recovery
  spaces : PacketNumSpaceMap φ
  nextPktNum : Nat → Nat
  -- The numbers of the packets that were sent, of each space.
  sent : Nat → List Nat

namespace PacketNumbers

inductive Op (φ : Type) where
  | send (path : Nat) (pkt : SentPacket φ) (spaceId : SpaceId) (status : HandshakeStatus)
      (now : Instant)
  -- What else happens to the recovery of a path.
  | recover (path : Nat) (op : Sender.Op φ)
  | addPath (maxAckDelay : Duration) (ptoLinearFactor : Nat) (maxPto initialRtt : Duration)
      (timeThresh : Duration → Duration)

def start (maxAckDelay : Duration) (ptoLinearFactor : Nat) (maxPto initialRtt : Duration)
    (timeThresh : Duration → Duration) : PacketNumbers φ :=
  { recoveries := [.new maxAckDelay ptoLinearFactor maxPto initialRtt timeThresh]
    spaces := .new
    nextPktNum := fun _ => 0
    sent := fun _ => [] }

def onPath (state : PacketNumbers φ) (path : Nat) (op : Sender.Op φ) : Option (PacketNumbers φ) :=
  state.recoveries[path]?.bind fun recovery =>
    (Sender.step ⟨recovery, state.spaces⟩ op).map fun sender =>
      { state with
        recoveries := state.recoveries.set path sender.recovery, spaces := sender.spaces }

def step (state : PacketNumbers φ) : Op φ → Option (PacketNumbers φ)
  | .send path pkt spaceId status now =>
    if (state.spaces.get spaceId).isNone then none
    else
      let pktNum := state.nextPktNum spaceId.key
      (state.onPath path (.packetSent { pkt with pktNum } spaceId status now)).map fun sent =>
        { sent with
          nextPktNum := Function.update state.nextPktNum spaceId.key (pktNum + 1)
          sent := Function.update state.sent spaceId.key (pktNum :: state.sent spaceId.key) }
  | .recover _ (.packetSent _ _ _ _) => none
  | .recover path op => state.onPath path op
  | .addPath maxAckDelay ptoLinearFactor maxPto initialRtt timeThresh =>
    some { state with
      recoveries := state.recoveries ++
        [.new maxAckDelay ptoLinearFactor maxPto initialRtt timeThresh] }

def AcksSent (state : PacketNumbers φ) : Op φ → Prop
  | .recover _ (.ackReceived ranges _ spaceId _ _) =>
    ∀ largest, ranges.max = some largest → largest < state.nextPktNum spaceId.key
  | _ => True

def acksSent (state : PacketNumbers φ) : Op φ → Bool
  | .recover _ (.ackReceived ranges _ spaceId _ _) =>
    ranges.max.all fun largest => largest < state.nextPktNum spaceId.key
  | _ => true

theorem acksSent_sound (state : PacketNumbers φ) (op : Op φ) (passed : acksSent state op = true) :
    AcksSent state op := by
  cases op with
  | recover path op =>
    cases op with
    | ackReceived ranges ackDelay spaceId status now =>
      intro largest greatest
      rw [acksSent, greatest] at passed
      exact of_decide_eq_true passed
    | _ => trivial
  | _ => trivial

/-- Once a packet of a space was acknowledged, the largest acknowledged number of the space is
the number of a packet that was sent, and smaller than the next one. -/
def Sound (state : PacketNumbers φ) : Prop :=
  ∀ spaceId space, state.spaces.get spaceId = some space → space.largestAckedPkt ≠ u64Max →
    space.largestAckedPkt ∈ state.sent spaceId.key ∧
      space.largestAckedPkt < state.nextPktNum spaceId.key

structure Consistent (state : PacketNumbers φ) : Prop where
  numbers : ∀ key number, number ∈ state.sent key ↔ number < state.nextPktNum key
  largest : ∀ key space, state.spaces.spaces.get? key = some space →
    space.largestAckedPkt = u64Max ∨ space.largestAckedPkt < state.nextPktNum key

theorem Consistent.sound {state : PacketNumbers φ} (consistent : Consistent state) :
    Sound state := by
  intro spaceId space found set
  have below := (consistent.largest spaceId.key space found).resolve_left set
  exact ⟨(consistent.numbers _ _).mpr below, below⟩

/-- The recovery of a path takes no number. -/
theorem Consistent.onPath {state next : PacketNumbers φ} (consistent : Consistent state)
    {path : Nat} {op : Sender.Op φ} (acks : ∀ ranges ackDelay spaceId status now named,
      op = .ackReceived ranges ackDelay spaceId status now → ranges.max = some named →
        named < state.nextPktNum spaceId.key)
    (stepped : state.onPath path op = some next) :
    Consistent next ∧ next.nextPktNum = state.nextPktNum ∧ next.sent = state.sent := by
  obtain ⟨recovery, _, moved⟩ := Option.bind_eq_some_iff.mp stepped
  obtain ⟨sender, performed, rfl⟩ := Option.map_eq_some_iff.mp moved
  refine ⟨⟨consistent.numbers, ?_⟩, rfl, rfl⟩
  intro key space found
  rcases Sender.step_largest performed found with unset | ⟨old, present, kept | acked⟩
  · exact .inl unset
  · rw [kept]
    exact consistent.largest key old present
  · obtain ⟨ranges, ackDelay, spaceId, status, now, named, rfl, rfl, greatest, equal⟩ := acked
    have sent := acks _ _ _ _ _ named rfl greatest
    rw [equal]
    unfold Recovery.updateLargestAcked
    dsimp only
    split_ifs with unset
    · exact .inr sent
    · have below := (consistent.largest spaceId.key old present).resolve_left unset
      exact .inr (max_lt below sent)

/-- While ACK frames name only numbers that were sent, those of a space have no gap. -/
theorem step_consistent {state next : PacketNumbers φ} {op : Op φ} (consistent : Consistent state)
    (acks : AcksSent state op) (stepped : step state op = some next) : Consistent next := by
  cases op with
  | send path pkt spaceId status now =>
    obtain ⟨_, moved⟩ := Option.ite_none_left_eq_some.mp stepped
    obtain ⟨sent, performed, rfl⟩ := Option.map_eq_some_iff.mp moved
    obtain ⟨kept, next, history⟩ := consistent.onPath
      (fun _ _ _ _ _ _ impossible => by cases impossible) performed
    constructor
    · intro key number
      dsimp only
      rw [Function.update_apply, Function.update_apply]
      split_ifs with own
      · rw [List.mem_cons, consistent.numbers]
        omega
      · exact consistent.numbers key number
    · intro key space found
      refine (kept.largest key space found).imp_right fun below => ?_
      rw [next] at below
      dsimp only
      rw [Function.update_apply]
      split_ifs with own
      · rw [own] at below
        omega
      · exact below
  | recover path op =>
    cases op with
    | packetSent => cases stepped
    | ackReceived ranges ackDelay spaceId status now =>
      refine (consistent.onPath ?_ stepped).1
      rintro _ _ _ _ _ named ⟨⟩ greatest
      exact acks named greatest
    | _ =>
      exact (consistent.onPath (fun _ _ _ _ _ _ impossible => by cases impossible) stepped).1
  | addPath =>
    cases stepped
    exact ⟨consistent.numbers, consistent.largest⟩

/-- Acknowledged packets were sent, in every run in which no ACK frame acknowledges a packet
that was not sent yet. -/
theorem acked_packets_sent (maxAckDelay : Duration) (ptoLinearFactor : Nat)
    (maxPto initialRtt : Duration) (timeThresh : Duration → Duration) (state : PacketNumbers φ)
    (run : Run step AcksSent
      (start maxAckDelay ptoLinearFactor maxPto initialRtt timeThresh) state) :
    Sound state := by
  refine Consistent.sound (run.invariant
    (fun _ _ _ consistent acks stepped => step_consistent consistent acks stepped) ⟨?_, ?_⟩)
  · intro key number
    simp [start]
  · intro key space found
    have fresh : space = .new := (Sender.mem_new (OrdMap.get?_eq_some_iff.mp found)).1
    rw [fresh]
    exact .inl rfl

/-- The first packet is sent, and the peer acknowledges number 9. -/
theorem unsent_packet_acked :
    ¬ ∀ state : PacketNumbers Nat,
      Run step anyStep (start 25000000 0 1000000000 333000000 (fun rtt => rtt * 9 / 8)) state →
        Sound state := by
  intro always
  have executed : (exec step
      (start 25000000 0 1000000000 333000000 (fun rtt => rtt * 9 / 8) : PacketNumbers Nat)
      [.send 0 ⟨0, [7], 0, none, none, true, true, true, 100⟩ .data ⟨true, true, true⟩ 0,
        .recover 0 (.ackReceived (RangeSet.default.insert ⟨9, 10⟩) 0 .data ⟨true, true, true⟩
          50000000)]).any
      (fun state => (state.spaces.get .data).any fun space =>
        space.largestAckedPkt = 9 ∧ state.nextPktNum 2 = 1) = true := by
    decide +kernel
  obtain ⟨state, run, inside⟩ := (Option.any_eq_true _ _).mp executed
  obtain ⟨space, found, facts⟩ := (Option.any_eq_true _ _).mp inside
  obtain ⟨largest, next⟩ := of_decide_eq_true facts
  have sent := (always state (.of_exec run) .data space found (by rw [largest]; decide)).2
  change _ < state.nextPktNum 2 at sent
  rw [largest, next] at sent
  exact absurd sent (by decide)

/-- Two packets are sent on two paths, and the peer acknowledges the second one. -/
theorem acked_packets_sent_second :
    ∃ (state : PacketNumbers Nat) (space : PacketNumSpace Nat),
      state.spaces.get .data = some space ∧ space.largestAckedPkt = 1 ∧ Sound state := by
  have executed : (exec (checked acksSent step)
      (start 25000000 0 1000000000 333000000 (fun rtt => rtt * 9 / 8) : PacketNumbers Nat)
      [.addPath 25000000 0 1000000000 333000000 (fun rtt => rtt * 9 / 8),
        .send 0 ⟨0, [7], 0, none, none, true, true, true, 100⟩ .data ⟨true, true, true⟩ 0,
        .send 1 ⟨0, [8], 0, none, none, true, true, true, 100⟩ .data ⟨true, true, true⟩ 0,
        .recover 1 (.ackReceived (RangeSet.default.insert ⟨1, 2⟩) 0 .data ⟨true, true, true⟩
          50000000)]).any
      (fun state => (state.spaces.get .data).any fun space => space.largestAckedPkt = 1) =
        true := by
    decide +kernel
  obtain ⟨state, run, inside⟩ := (Option.any_eq_true _ _).mp executed
  obtain ⟨space, found, largest⟩ := (Option.any_eq_true _ _).mp inside
  exact ⟨state, space, found, of_decide_eq_true largest,
    acked_packets_sent 25000000 0 1000000000 333000000 (fun rtt => rtt * 9 / 8) state
      (.of_checked acksSent_sound (.of_exec run))⟩

end PacketNumbers

end Tquic.Connection
