import Tquic.Connection.RecoveryRun

/-! Where loss recovery gets the frames from that it gives back, and which packets it takes for
acknowledged. -/

set_option autoImplicit false

namespace Tquic.Connection

open Lib Recovery

namespace Sender

variable {φ : Type} {sender next : Sender φ} {op : Op φ} {key : Nat}
  {space after : PacketNumSpace φ}

def known (space : PacketNumSpace φ) : List (SentPacket φ) := space.sent ++ space.history.removed

/-- The packet was known before, with its frames unless it gave them away, and is acknowledged for a
reason. -/
structure Descends (covered : Nat → Prop) (old pkt : SentPacket φ) : Prop where
  pktNum : pkt.pktNum = old.pktNum
  frames : pkt.frames = [] ∨ pkt.frames = old.frames
  acked : pkt.timeAcked.isSome = true → old.timeAcked.isSome = true ∨ covered pkt.pktNum

/-- What a space has after a step comes from what it had before. -/
structure Traces (covered : Nat → Prop) (fresh : SentPacket φ → Prop)
    (space after : PacketNumSpace φ) : Prop where
  packets : ∀ pkt ∈ known after, (∃ old ∈ known space, Descends covered old pkt) ∨ fresh pkt
  acked : ∀ frame ∈ after.acked, frame ∈ space.acked ∨
    ∃ pkt ∈ known space, covered pkt.pktNum ∧ frame ∈ pkt.frames
  lost : ∀ frame ∈ after.lost, frame ∈ space.lost ∨ ∃ pkt ∈ known space, frame ∈ pkt.frames

theorem Descends.refl (covered : Nat → Prop) (pkt : SentPacket φ) : Descends covered pkt pkt :=
  ⟨rfl, .inr rfl, .inl⟩

theorem Traces.mono {covered wider : Nat → Prop} {fresh : SentPacket φ → Prop}
    (traces : Traces covered fresh space after)
    (implied : ∀ number, covered number → wider number) : Traces wider fresh space after where
  packets pkt member := (traces.packets pkt member).imp_left fun ⟨old, found, descends⟩ =>
    ⟨old, found, descends.pktNum, descends.frames,
      fun acked => (descends.acked acked).imp_right (implied _)⟩
  acked frame member := (traces.acked frame member).imp_right fun ⟨pkt, found, covered, held⟩ =>
    ⟨pkt, found, implied _ covered, held⟩
  lost := traces.lost

theorem Traces.refl (covered : Nat → Prop) (fresh : SentPacket φ → Prop)
    (space : PacketNumSpace φ) : Traces covered fresh space space :=
  ⟨fun pkt member => .inl ⟨pkt, member, .refl _ pkt⟩, fun _ => .inl, fun _ => .inl⟩

theorem mem_framesOf {frame : φ} {pkts : List (SentPacket φ)} :
    frame ∈ framesOf pkts ↔ ∃ pkt ∈ pkts, frame ∈ pkt.frames := List.mem_flatMap

theorem Settles.traces {covered : Nat → Prop} {acked lost removed : List (SentPacket φ)}
    (settles : Settles covered space after acked lost removed) (fresh : SentPacket φ → Prop) :
    Traces covered fresh space after := by
  obtain ⟨now, middle, ackPass, lossPass⟩ := settles.passes
  have between : ∀ pkt ∈ middle, ∃ old ∈ space.sent, Descends covered old pkt := by
    intro pkt member
    rcases ackPass.mem_after member with earlier | ⟨old, chosen, rfl⟩
    · exact ⟨pkt, earlier, .refl _ pkt⟩
    · obtain ⟨earlier, _, inside⟩ := ackPass.chosen_eligible chosen
      exact ⟨old, earlier, rfl, .inl rfl, fun _ => .inr inside⟩
  have declared : ∀ pkt ∈ removed ++ after.sent, ∃ old ∈ space.sent, Descends covered old pkt := by
    intro pkt member
    rcases lossPass.mem_after member with earlier | ⟨old, chosen, rfl⟩
    · exact between pkt earlier
    · obtain ⟨first, found, descends⟩ := between old (lossPass.chosen_eligible chosen).1
      exact ⟨first, found, descends.pktNum, .inl rfl, descends.acked⟩
  constructor
  case packets =>
    intro pkt member
    have whole : pkt ∈ removed ++ after.sent ∨ pkt ∈ space.history.removed := by
      rw [known, settles.history] at member
      simp only [List.mem_append] at member ⊢
      tauto
    rcases whole with moved | gone
    · obtain ⟨old, found, descends⟩ := declared pkt moved
      exact .inl ⟨old, List.mem_append_left _ found, descends⟩
    · exact .inl ⟨pkt, List.mem_append_right _ gone, .refl _ pkt⟩
  case acked =>
    intro frame member
    rw [settles.ackedFrames, List.mem_append, mem_framesOf] at member
    refine member.imp_right fun ⟨pkt, chosen, held⟩ => ?_
    obtain ⟨earlier, _, inside⟩ := ackPass.chosen_eligible chosen
    exact ⟨pkt, List.mem_append_left _ earlier, inside, held⟩
  case lost =>
    intro frame member
    rw [settles.lostFrames, List.mem_append, mem_framesOf] at member
    refine member.imp_right fun ⟨pkt, chosen, held⟩ => ?_
    obtain ⟨old, found, descends⟩ := between pkt (lossPass.chosen_eligible chosen).1
    rcases descends.frames with none | same
    · rw [none] at held
      cases held
    · exact ⟨old, List.mem_append_left _ found, same ▸ held⟩

private theorem onAckReceived_settles {ranges : RangeSet} {ackDelay : Nat} {spaceId : SpaceId}
    {status : HandshakeStatus} {now : Instant}
    (stepped : sender.step (.ackReceived ranges ackDelay spaceId status now) = some next) :
    next.spaces = sender.spaces ∨ ∃ space after acked lost removed,
      sender.spaces.get spaceId = some space ∧
      Settles (· ∈ ranges) space after acked lost removed ∧
      next.spaces = sender.spaces.set spaceId after := by
  obtain ⟨result, received, rfl⟩ := Option.map_eq_some_iff.mp stepped
  rcases onAckReceived_cases received with ⟨_, rfl⟩ |
    ⟨space, largest, acks, found, _, scanned, ends⟩
  · exact .inl rfl
  · obtain ⟨acked, pass, count, _, own, ackedFrames, unlost, history⟩ :=
      detectAckedPackets_spec sender.recovery ranges (updateLargestAcked space largest) now
    rw [scanned] at pass count own ackedFrames unlost history
    rcases ends with ⟨empty, rfl⟩ | ⟨_, rfl, rfl⟩
    · rw [empty] at count
      obtain rfl : acked = [] := List.length_eq_zero_iff.mp count.symm
      exact .inr ⟨space, acks.2.2, [], [], [], found, ⟨⟨now, acks.2.2.sent, pass, .refl _⟩, by simp,
        ackedFrames, unlost.trans (List.append_nil _).symm, own,
        history.trans (by simp [updateLargestAcked])⟩, rfl⟩
    · obtain ⟨lost, removed, settles, _⟩ := detectAndDrain_settles
        (acks.2.1.updateRtt ackDelay acks.1.2) space pass ackedFrames unlost own history
      exact .inr ⟨space, _, acked, lost, removed, found, settles, rfl⟩

/-- The step is an ACK frame for the space that covers the number. -/
def AckedBy (op : Op φ) (key number : Nat) : Prop :=
  ∃ spaceId, spaceId.key = key ∧ Acknowledges op spaceId number

/-- The step sends the packet in the space. -/
def SentBy (op : Op φ) (key : Nat) (pkt : SentPacket φ) : Prop :=
  ∃ built spaceId status now, op = .packetSent built spaceId status now ∧ spaceId.key = key ∧
    pkt = { built with timeSent := now }

theorem set_traces {spaceId : SpaceId} {space changed : PacketNumSpace φ}
    (found : sender.spaces.get spaceId = some space)
    (moved : next.spaces = sender.spaces.set spaceId changed)
    (traces : spaceId.key = key → Traces (AckedBy op key) (SentBy op key) space changed)
    (present : next.spaces.spaces.get? key = some after) :
    ∃ space, sender.spaces.spaces.get? key = some space ∧
      Traces (AckedBy op key) (SentBy op key) space after := by
  rw [moved, PacketNumSpaceMap.set, OrdMap.get?_insert] at present
  split_ifs at present with same
  · cases present
    exact ⟨space, same ▸ found, traces same.symm⟩
  · exact ⟨after, present, .refl _ _ after⟩

private theorem same_traces (same : next.spaces = sender.spaces)
    (present : next.spaces.spaces.get? key = some after) :
    ∃ space, sender.spaces.spaces.get? key = some space ∧
      Traces (AckedBy op key) (SentBy op key) space after :=
  ⟨after, same ▸ present, .refl _ _ after⟩

theorem mem_probeFrames {frame : φ} {probes : Nat} (copied : frame ∈ probeFrames space probes) :
    ∃ pkt ∈ known space, frame ∈ pkt.frames := by
  obtain ⟨pkt, chosen, held⟩ := List.mem_flatMap.mp copied
  exact ⟨pkt, List.mem_append_left _ (List.mem_filter.mp (List.mem_of_mem_take chosen)).1, held⟩

private theorem lossTimeout_traces {spaceId : SpaceId} {status : HandshakeStatus} {now : Instant}
    (stepped : sender.step (.lossTimeout spaceId status now) = some next)
    (present : next.spaces.spaces.get? key = some after) :
    ∃ space, sender.spaces.spaces.get? key = some space ∧
      Traces (AckedBy op key) (SentBy op key) space after := by
  cases stepped
  simp only [onLossDetectionTimeout] at present
  cases found : sender.spaces.get (getLossTimeAndSpace spaceId sender.spaces).2 with
  | none =>
    simp only [found] at present
    exact ⟨after, present, .refl _ _ after⟩
  | some space =>
    simp only [found] at present
    split at present
    case isTrue =>
      have nothing : Pass (markAcked now) (Acknowledgeable (AckedBy op key)) space.sent
          space.sent [] := .refl space.sent
      obtain ⟨lost, removed, settles, _⟩ := detectAndDrain_settles sender.recovery space
        nothing (List.append_nil _).symm rfl rfl rfl
      exact @set_traces _ sender ⟨sender.recovery, _⟩ _ _ _ _ _ _ found rfl
        (fun _ => settles.traces _) present
    case isFalse =>
      split at present
      case h_1 => exact ⟨after, present, .refl _ _ after⟩
      case h_2 probed held =>
        refine @set_traces _ sender ⟨sender.recovery, _⟩ _ _ _ _ _ _ held rfl (fun _ => ?_) present
        refine ⟨fun pkt member => .inl ⟨pkt, member, .refl _ pkt⟩, fun _ => .inl, ?_⟩
        intro frame member
        exact (List.mem_append.mp member).imp_right mem_probeFrames

/-- Where the packets and frames of a space come from in one step. -/
theorem step_traces (stepped : sender.step op = some next)
    (present : next.spaces.spaces.get? key = some after) :
    after = .new ∨ ∃ space, sender.spaces.spaces.get? key = some space ∧
      Traces (AckedBy op key) (SentBy op key) space after := by
  cases op with
  | packetSent pkt spaceId status now =>
    obtain ⟨_, moved⟩ := Option.ite_none_right_eq_some.mp stepped
    cases moved
    refine .inr ?_
    simp only [onPacketSent] at present
    cases found : sender.spaces.get spaceId with
    | none =>
      simp only [found] at present
      exact ⟨after, present, .refl _ _ after⟩
    | some space =>
      simp only [found] at present
      rw [apply_ite Prod.snd, ite_self] at present
      refine @set_traces _ sender ⟨sender.recovery, _⟩ _ _ _ _ _ _ found rfl (fun same => ?_) present
      refine ⟨fun other member => ?_, fun _ => .inl, fun _ => .inl⟩
      simp only [known, List.append_assoc, List.mem_append, List.mem_singleton] at member
      rcases member with old | rfl | gone
      · exact .inl ⟨other, List.mem_append_left _ old, .refl _ other⟩
      · exact .inr ⟨pkt, spaceId, status, now, rfl, same, rfl⟩
      · exact .inl ⟨other, List.mem_append_right _ gone, .refl _ other⟩
  | ackReceived ranges ackDelay spaceId status now =>
    refine .inr ?_
    rcases onAckReceived_settles stepped with
      same | ⟨space, changed, acked, lost, removed, found, settles, moved⟩
    · exact same_traces same present
    · refine set_traces found moved (fun same => ?_) present
      exact (settles.traces _).mono fun number member =>
        ⟨spaceId, same, ranges, ackDelay, status, now, rfl, member⟩
  | lossTimeout spaceId status now => exact .inr (lossTimeout_traces stepped present)
  | spaceDiscarded spaceId status now =>
    cases stepped
    refine .inr ?_
    simp only [onPktNumSpaceDiscarded] at present
    cases found : sender.spaces.get spaceId with
    | none =>
      simp only [found] at present
      exact ⟨after, present, .refl _ _ after⟩
    | some space =>
      simp only [found] at present
      refine @set_traces _ sender ⟨sender.recovery, _⟩ _ _ _ _ _ _ found rfl (fun _ => ?_) present
      exact ⟨fun pkt member => .inl ⟨pkt, List.mem_append_right _ member, .refl _ pkt⟩,
        by simp, by simp⟩
  | spaceAdded =>
    cases stepped
    simp only [PacketNumSpaceMap.add, OrdMap.get?_insert] at present
    split_ifs at present
    · cases present
      exact .inl rfl
    · exact .inr ⟨after, present, .refl _ _ after⟩
  | ackedProcessed spaceId =>
    obtain ⟨space, found, rfl⟩ := Option.map_eq_some_iff.mp stepped
    refine .inr (set_traces found rfl (fun _ => ?_) present)
    exact ⟨fun pkt member => .inl ⟨pkt, member, .refl _ pkt⟩, by simp, fun _ => .inl⟩
  | lostProcessed spaceId =>
    obtain ⟨space, found, rfl⟩ := Option.map_eq_some_iff.mp stepped
    refine .inr (set_traces found rfl (fun _ => ?_) present)
    exact ⟨fun pkt member => .inl ⟨pkt, member, .refl _ pkt⟩, fun _ => .inl, by simp⟩

end Sender

end Tquic.Connection
