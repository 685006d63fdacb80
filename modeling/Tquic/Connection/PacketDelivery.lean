import Tquic.Connection.AckedNumbers
import Tquic.Connection.PacketLink
import Tquic.Connection.RecoveryTraces

/-! Streams in packets behave as streams whose frames travel alone: what loss recovery takes for
acknowledged was processed by the other end, and nothing is processed twice. -/

set_option autoImplicit false

namespace Tquic.Connection

open Lib

/-! ## Several frames at once -/

namespace StreamLink

variable {link next : StreamLink} {frames : List RangeBuf}

/-- The frames that the ends know of only become more. -/
structure Grown (before after : StreamLink) : Prop where
  run : Run step anyStep before after
  sent : ∀ frame ∈ before.sent, frame ∈ after.sent
  flight : ∀ frame ∈ before.flight, frame ∈ after.flight
  delivered : ∀ frame ∈ before.delivered, frame ∈ after.delivered

namespace Grown

theorem refl (link : StreamLink) : Grown link link := ⟨.refl, fun _ => id, fun _ => id, fun _ => id⟩

theorem trans {first second third : StreamLink} (former : Grown first second)
    (latter : Grown second third) : Grown first third where
  run := former.run.trans latter.run
  sent frame member := latter.sent frame (former.sent frame member)
  flight frame member := latter.flight frame (former.flight frame member)
  delivered frame member := latter.delivered frame (former.delivered frame member)

end Grown

theorem Linked.grown (linked : link.Linked) (grown : Grown link next) : next.Linked :=
  grown.run.invariant (fun _ _ _ linked _ stepped => linked.step stepped) linked

private theorem Linked.transmit_grown (linked : link.Linked) {outLen : Nat}
    (transmitted : link.transmit outLen = some next) :
    Grown link next ∧ ∀ frame ∈ next.sent.take 1, frame ∈ next.flight := by
  obtain ⟨data, after, outcome, _, _⟩ := linked.coherent.read outLen
  have stepped : link.step (.transmit outLen) = some next := transmitted
  simp only [StreamLink.transmit, outcome, Option.ite_none_left_eq_some, Option.some.injEq]
    at transmitted
  obtain ⟨_, rfl⟩ := transmitted
  refine ⟨⟨.single _ stepped, fun _ => List.mem_cons_of_mem _, fun _ => List.mem_cons_of_mem _,
    fun _ => id⟩, fun frame member => ?_⟩
  obtain rfl := List.mem_singleton.mp member
  exact List.mem_cons_self

private theorem Linked.transmitAll_grown {outLens : List Nat} (linked : link.Linked)
    (transmitted : PacketLink.transmitAll outLens link = some (next, frames)) :
    Grown link next ∧ ∀ frame ∈ frames, frame ∈ next.flight := by
  induction outLens generalizing link frames with
  | nil =>
    cases transmitted
    exact ⟨.refl _, List.forall_mem_nil _⟩
  | cons outLen rest ih =>
    rw [PacketLink.transmitAll] at transmitted
    cases first : link.transmit outLen with
    | none => simp [first] at transmitted
    | some middle =>
      simp only [first, Option.map_eq_some_iff, Prod.mk.injEq, Prod.exists] at transmitted
      obtain ⟨final, written, later, rfl, rfl⟩ := transmitted
      obtain ⟨grown, carried⟩ := linked.transmit_grown first
      obtain ⟨more, others⟩ := ih (linked.grown grown) later
      refine ⟨grown.trans more, fun frame member => ?_⟩
      rcases List.mem_append.mp member with own | other
      · exact more.flight frame (carried frame own)
      · exact others frame other

private theorem Linked.deliverAll_grown (linked : link.Linked)
    (carried : ∀ frame ∈ frames, frame ∈ link.flight) :
    Grown link (frames.foldl StreamLink.deliver link) ∧
      ∀ frame ∈ frames, frame ∈ (frames.foldl StreamLink.deliver link).delivered := by
  induction frames generalizing link with
  | nil => exact ⟨.refl link, List.forall_mem_nil _⟩
  | cons frame rest ih =>
    have first := carried frame List.mem_cons_self
    obtain ⟨recv, same, _⟩ := linked.delivered_eq first
    have stepped : link.step (.deliver frame) = some (link.deliver frame) := if_pos first
    have grown : Grown link (link.deliver frame) := by
      refine ⟨.single _ stepped, ?_, ?_, ?_⟩
      all_goals rw [same]
      · exact fun _ => id
      · exact fun _ => id
      · exact fun _ => List.mem_cons_of_mem _
    have processed : frame ∈ (link.deliver frame).delivered := by
      rw [same]
      exact List.mem_cons_self
    obtain ⟨more, others⟩ := ih (linked.grown grown) fun other member =>
      grown.flight other (carried other (List.mem_cons_of_mem _ member))
    refine ⟨grown.trans more, fun other member => ?_⟩
    rcases List.mem_cons.mp member with rfl | later
    · exact more.delivered other processed
    · exact others other later

private theorem stream_grown {op : PacketLink.StreamOp}
    (stepped : link.step op.toOp = some next) : Grown link next := by
  have kept : next.sent = link.sent ∧ next.flight = link.flight ∧ next.delivered = link.delivered := by
    cases op with
    | write data fin =>
      cases stepped
      rw [StreamLink.write]
      split
      · exact ⟨rfl, rfl, rfl⟩
      · rw [noteSendable]
        split_ifs <;> exact ⟨rfl, rfl, rfl⟩
    | read outLen =>
      cases stepped
      rw [StreamLink.read]
      split <;> exact ⟨rfl, rfl, rfl⟩
    | dropLimit limit =>
      cases stepped
      exact ⟨rfl, rfl, rfl⟩
    | announce | tune | deliverLimit | ackLimit | loseLimit =>
      obtain ⟨_, moved⟩ := Option.ite_none_right_eq_some.mp stepped
      cases moved
      exact ⟨rfl, rfl, rfl⟩
  exact ⟨.single _ stepped, fun _ => kept.1 ▸ id, fun _ => kept.2.1 ▸ id, fun _ => kept.2.2 ▸ id⟩

private theorem ackAll_grown (sent : ∀ frame ∈ frames, frame ∈ link.sent)
    (processed : ∀ frame ∈ frames, frame ∈ link.delivered) :
    Grown link (frames.foldl StreamLink.ack link) := by
  induction frames generalizing link with
  | nil => exact .refl link
  | cons frame rest ih =>
    have stepped : link.step (.ack frame) = some (link.ack frame) :=
      if_pos ⟨sent frame List.mem_cons_self, processed frame List.mem_cons_self⟩
    have grown : Grown link (link.ack frame) :=
      ⟨.single _ stepped, fun _ => id, fun _ => id, fun _ => id⟩
    exact grown.trans (@ih (link.ack frame) (fun other member => sent other (List.mem_cons_of_mem _ member))
      fun other member => processed other (List.mem_cons_of_mem _ member))

private theorem loseAll_grown (sent : ∀ frame ∈ frames, frame ∈ link.sent) :
    Grown link (frames.foldl StreamLink.lose link) := by
  induction frames generalizing link with
  | nil => exact .refl link
  | cons frame rest ih =>
    have stepped : link.step (.lose frame) = some (link.lose frame) :=
      if_pos (sent frame List.mem_cons_self)
    have grown : Grown link (link.lose frame) := by
      refine ⟨.single _ stepped, ?_, ?_, ?_⟩
      all_goals
        rw [StreamLink.lose, noteSendable]
        split_ifs <;> exact fun _ => id
    exact grown.trans (ih fun other member =>
      grown.sent other (sent other (List.mem_cons_of_mem _ member)))

end StreamLink

namespace PacketLink

variable {state next : PacketLink}

def Seen (state : PacketLink) (key number : Nat) : Prop :=
  ∃ packet ∈ state.processed, packet.spaceId.key = key ∧ packet.pktNum = number

/-- What loss recovery holds in a space. -/
structure SpaceTraced (state : PacketLink) (key : Nat) (space : PacketNumSpace RangeBuf) : Prop where
  frames : ∀ pkt ∈ Sender.known space, pkt.frames = [] ∨ ∃ packet ∈ state.built,
    packet.spaceId.key = key ∧ packet.pktNum = pkt.pktNum ∧ packet.frames = pkt.frames
  acks : ∀ pkt ∈ Sender.known space, pkt.timeAcked.isSome = true → state.Seen key pkt.pktNum
  acked : ∀ frame ∈ space.acked, frame ∈ state.link.delivered
  lost : ∀ frame ∈ space.lost, frame ∈ state.link.sent

/-- What holds of the packets of a link that began as `start`. -/
structure Traced (start : StreamLink) (state : PacketLink) : Prop where
  path : Run StreamLink.step anyStep start state.link
  linked : state.link.Linked
  built : ∀ packet ∈ state.built,
    packet.pktNum < 2 ^ 62 ∧ ∀ frame ∈ packet.frames, frame ∈ state.link.flight
  -- No number is used twice in a space.
  unique : ∀ left ∈ state.built, ∀ right ∈ state.built,
    left.spaceId.key = right.spaceId.key → left.pktNum = right.pktNum → left = right
  wire : ∀ packet ∈ state.wire, packet ∈ state.built
  processed : ∀ packet ∈ state.processed,
    packet ∈ state.built ∧ ∀ frame ∈ packet.frames, frame ∈ state.link.delivered
  once : state.processed.Nodup
  sender : ∀ key space, state.sender.spaces.spaces.get? key = some space → state.SpaceTraced key space
  noted : ∀ key space, state.receiver.spaces.get? key = some space → space.Noted (state.Seen key)
  numbered : state.receiver.Numbered
  keys : ∀ packet ∈ state.processed, packet.spaceId.key < state.receiver.nextDataExtId

/-- Packets and frames only become more. -/
structure Extends (before after : PacketLink) : Prop where
  link : StreamLink.Grown before.link after.link
  built : ∀ packet ∈ before.built, packet ∈ after.built
  processed : ∀ packet ∈ before.processed, packet ∈ after.processed

theorem Seen.mono {key number : Nat} (seen : state.Seen key number)
    (more : ∀ packet ∈ state.processed, packet ∈ next.processed) : next.Seen key number :=
  have ⟨packet, member, inside⟩ := seen
  ⟨packet, more packet member, inside⟩

theorem SpaceTraced.extend {key : Nat} {space : PacketNumSpace RangeBuf}
    (traced : state.SpaceTraced key space) (more : Extends state next) :
    next.SpaceTraced key space where
  frames pkt member := (traced.frames pkt member).imp_right fun ⟨packet, found, same⟩ =>
    ⟨packet, more.built packet found, same⟩
  acks pkt member acked := (traced.acks pkt member acked).mono more.processed
  acked frame member := more.link.delivered frame (traced.acked frame member)
  lost frame member := more.link.sent frame (traced.lost frame member)

namespace Traced

variable {start : StreamLink}

/-- Two ends that have sent nothing. -/
theorem initial {window maxWindow : Nat} (fits : window ≤ maxWindow) (recovery : Recovery)
    (ackElicitingThreshold ackDelayExponent : Nat) (now : Instant) :
    Traced (.new window maxWindow) (new window maxWindow recovery
      (.new ackElicitingThreshold ackDelayExponent now)) where
  path := .refl
  linked := .initial fits
  built := by simp [new]
  unique := by simp [new]
  wire := by simp [new]
  processed := by simp [new]
  once := .nil
  sender key space found := by
    obtain ⟨rfl, _⟩ := Sender.mem_new (OrdMap.get?_eq_some_iff.mp found)
    exact ⟨by simp [Sender.known, PacketNumSpace.new], by simp [Sender.known, PacketNumSpace.new],
      by simp [PacketNumSpace.new], by simp [PacketNumSpace.new]⟩
  noted key space found := by
    simp only [new, Acknowledger.new, OrdMap.get?_insert, OrdMap.get?_empty] at found
    split_ifs at found <;> cases found <;> exact .new _ _ (by simp [Seen, new])
  numbered key space found := by
    simp only [new, Acknowledger.new, OrdMap.get?_insert, OrdMap.get?_empty] at found
    simp only [new, Acknowledger.new]
    split_ifs at found <;> omega
  keys := by simp [new]

/-- Only the stream moves on. -/
theorem stream (traced : Traced start state) {link : StreamLink}
    (grown : StreamLink.Grown state.link link) : Traced start { state with link } := by
  have more : Extends state { state with link } := ⟨grown, fun _ => id, fun _ => id⟩
  constructor
  case path => exact traced.path.trans grown.run
  case linked => exact traced.linked.grown grown
  case built =>
    exact fun packet member => ⟨(traced.built packet member).1,
      fun frame held => grown.flight frame ((traced.built packet member).2 frame held)⟩
  case unique => exact traced.unique
  case wire => exact traced.wire
  case processed =>
    exact fun packet member => ⟨(traced.processed packet member).1,
      fun frame held => grown.delivered frame ((traced.processed packet member).2 frame held)⟩
  case once => exact traced.once
  case sender => exact fun key space found => (traced.sender key space found).extend more
  case noted => exact traced.noted
  case numbered => exact traced.numbered
  case keys => exact traced.keys

/-- A step of loss recovery keeps what is known of its spaces. What it newly takes for acknowledged
has to be in packets that were seen, and what it sends in packets that were built. -/
theorem recovers (traced : Traced start state) {op : Sender.Op RangeBuf} {sender : Sender RangeBuf}
    (stepped : state.sender.step op = some sender)
    (seen : ∀ key number, Sender.AckedBy op key number → state.Seen key number)
    (fresh : ∀ key pkt, Sender.SentBy op key pkt → pkt.timeAcked = none ∧
      ∃ packet ∈ state.built, packet.spaceId.key = key ∧ packet.pktNum = pkt.pktNum ∧
        packet.frames = pkt.frames) :
    Traced start { state with sender } := by
  refine { traced with sender := fun key after present => ?_ }
  rcases Sender.step_traces stepped present with rfl | ⟨space, found, traces⟩
  · exact ⟨by simp [Sender.known, PacketNumSpace.new], by simp [Sender.known, PacketNumSpace.new],
      by simp [PacketNumSpace.new], by simp [PacketNumSpace.new]⟩
  have before := traced.sender key space found
  constructor
  case frames =>
    intro pkt member
    rcases traces.packets pkt member with ⟨old, known, descends⟩ | sent
    · rcases descends.frames with none | same
      · exact .inl none
      · rw [descends.pktNum, same]
        exact before.frames old known
    · exact .inr (fresh key pkt sent).2
  case acks =>
    intro pkt member acked
    rcases traces.packets pkt member with ⟨old, known, descends⟩ | sent
    · rcases descends.acked acked with earlier | now
      · rw [descends.pktNum]
        exact before.acks old known earlier
      · exact seen key _ now
    · rw [(fresh key pkt sent).1] at acked
      cases acked
  case acked =>
    intro frame member
    rcases traces.acked frame member with old | ⟨pkt, known, covered, held⟩
    · exact before.acked frame old
    · -- The packet that holds the frame is the one that was processed under its number.
      obtain ⟨packet, done, key', number⟩ := seen key _ covered
      rcases before.frames pkt known with none | ⟨built, found, ownKey, ownNumber, frames⟩
      · rw [none] at held
        cases held
      · obtain ⟨present, delivered⟩ := traced.processed packet done
        obtain rfl := traced.unique built found packet present (ownKey.trans key'.symm)
          (ownNumber.trans number.symm)
        exact delivered frame (frames ▸ held)
  case lost =>
    intro frame member
    rcases traces.lost frame member with old | ⟨pkt, known, held⟩
    · exact before.lost frame old
    · rcases before.frames pkt known with none | ⟨built, found, _, _, frames⟩
      · rw [none] at held
        cases held
      · exact traced.linked.flight frame ((traced.built built found).2 frame (frames ▸ held))

theorem quiet (traced : Traced start state) {op : Sender.Op RangeBuf} {sender : Sender RangeBuf}
    (stepped : state.sender.step op = some sender)
    (noAck : ∀ ranges delay spaceId status now, op ≠ .ackReceived ranges delay spaceId status now)
    (noPacket : ∀ pkt spaceId status now, op ≠ .packetSent pkt spaceId status now) :
    Traced start { state with sender } :=
  traced.recovers stepped
    (fun _ _ ⟨_, _, _, _, _, _, same, _⟩ => absurd same (noAck _ _ _ _ _))
    (fun _ _ ⟨_, _, _, _, same, _⟩ => absurd same (noPacket _ _ _ _))

private theorem build (traced : Traced start state) {packet : Packet}
    (unused : state.unused packet.spaceId packet.pktNum = true) (small : packet.pktNum < 2 ^ 62)
    (carried : ∀ frame ∈ packet.frames, frame ∈ state.link.flight) :
    Traced start { state with built := packet :: state.built, wire := packet :: state.wire } := by
  have more : Extends state
      { state with built := packet :: state.built, wire := packet :: state.wire } :=
    ⟨.refl _, fun _ => List.mem_cons_of_mem _, fun _ => id⟩
  have fresh : ∀ other ∈ state.built, other.spaceId.key = packet.spaceId.key →
      other.pktNum ≠ packet.pktNum := by
    intro other member key
    have lower := List.all_eq_true.mp unused other member
    simp only [ne_eq, decide_not, Bool.or_eq_true, Bool.not_eq_true', decide_eq_false_iff_not,
      decide_eq_true_eq] at lower
    have := lower.resolve_left (fun different => different key)
    omega
  refine { traced with built := ?_, unique := ?_, wire := ?_, processed := ?_, sender := ?_ }
  · intro other member
    rcases List.mem_cons.mp member with rfl | old
    · exact ⟨small, carried⟩
    · exact traced.built other old
  · intro left first right second key number
    rcases List.mem_cons.mp first with rfl | former <;>
      rcases List.mem_cons.mp second with rfl | latter
    · rfl
    · exact absurd number.symm (fresh right latter key.symm)
    · exact absurd number (fresh left former key)
    · exact traced.unique left former right latter key number
  · intro other member
    rcases List.mem_cons.mp member with rfl | old
    · exact List.mem_cons_self
    · exact List.mem_cons_of_mem _ (traced.wire other old)
  · exact fun other member => ⟨List.mem_cons_of_mem _ (traced.processed other member).1,
      (traced.processed other member).2⟩
  · exact fun key space found => (traced.sender key space found).extend more

/-- The frames of a packet have just been transmitted. -/
theorem sendPacket (traced : Traced start state) {pkt : SentPacket RangeBuf} {outLens : List Nat}
    {spaceId : SpaceId} {status : HandshakeStatus} {now : Instant}
    (sent : state.sendPacket pkt outLens spaceId status now = some next) : Traced start next := by
  obtain ⟨checked, sent⟩ := Option.ite_none_right_eq_some.mp sent
  rw [Bool.and_eq_true, decide_eq_true_iff] at checked
  cases transmitted : transmitAll outLens state.link with
  | none => simp [transmitted] at sent
  | some written =>
    obtain ⟨link, frames⟩ := written
    simp only [transmitted, Option.map_eq_some_iff] at sent
    obtain ⟨sender, stepped, rfl⟩ := sent
    obtain ⟨grown, carried⟩ := traced.linked.transmitAll_grown transmitted
    have built := @build _ _ (traced.stream grown) ⟨spaceId, pkt.pktNum, frames⟩ checked.1
      checked.2 carried
    refine built.recovers stepped ?_ ?_
    · rintro key number ⟨_, _, _, _, _, _, same, _⟩
      cases same
    · rintro key other ⟨_, _, _, _, same, rfl, rfl⟩
      cases same
      obtain ⟨fresh, _⟩ := Option.ite_none_right_eq_some.mp stepped
      simp only [Sender.built, SentPacket.outstanding, Bool.and_eq_true, Option.isNone_iff_eq_none]
        at fresh
      exact ⟨fresh.1.1, _, List.mem_cons_self, rfl, rfl, rfl⟩

/-- A packet that arrives again is dropped; a new one delivers its frames. -/
theorem recvPacket (traced : Traced start state) {packet : Packet} (carried : packet ∈ state.wire)
    (ackEliciting probing : Bool) (now : Instant) :
    Traced start (state.recvPacket packet ackEliciting probing now) := by
  rw [PacketLink.recvPacket]
  split_ifs with accepted
  case neg => exact traced
  have known := traced.wire packet carried
  obtain ⟨small, frames⟩ := traced.built packet known
  obtain ⟨grown, delivered⟩ := traced.linked.deliverAll_grown frames
  have middle := traced.stream grown
  have unseen : ¬ state.Seen packet.spaceId.key packet.pktNum := by
    intro seen
    rw [Acknowledger.accepts, Option.any_eq_true] at accepted
    obtain ⟨space, found, missing⟩ := accepted
    rw [(traced.noted _ space found).duplicates _ seen] at missing
    cases missing
  have sound : (packet.frames.foldl StreamLink.deliver state.link).failure.isSome = false := by
    rw [middle.linked.failure]
    rfl
  simp only [sound, Bool.false_eq_true, if_false]
  refine { middle with
    processed := ?_, once := ?_, sender := ?_, noted := ?_, numbered := ?_, keys := ?_ }
  · intro other member
    rcases List.mem_cons.mp member with rfl | old
    · exact ⟨known, delivered⟩
    · exact middle.processed other old
  · exact List.nodup_cons.mpr ⟨fun again => unseen ⟨packet, again, rfl, rfl⟩, traced.once⟩
  · exact fun key space found => (middle.sender key space found).extend
      ⟨.refl _, fun _ => id, fun _ => List.mem_cons_of_mem _⟩
  · intro key after present
    have noted : ∀ {seen : Nat → Prop}, after.Noted seen → (∀ number, seen number ↔
        packet.spaceId.key = key ∧ packet.pktNum = number ∨ state.Seen key number) →
        after.Noted (Seen { state with processed := packet :: state.processed } key) := by
      intro seen noted same
      refine noted.imp fun number => ?_
      rw [same, Seen, Seen]
      simp only [List.mem_cons, exists_eq_or_imp]
    obtain ⟨space, found, becomes⟩ := Acknowledger.recvPacket_spaces present
    have before := traced.noted key space found
    cases becomes with
    | kept spared => cases (show false = true from spared.symm.trans accepted)
    | processed _ other =>
      refine noted before.processAckedFrames fun number => (or_iff_right fun own => ?_).symm
      exact other own.1.symm
    | received _ same =>
      refine noted (before.processAckedFrames.receive _ small _ _ _) fun number => ?_
      simp only [same, true_and]
      exact or_congr_left eq_comm
  · exact traced.numbered.recvPacket _ _ _
  · intro other member
    simp only
    rw [Acknowledger.recvPacket_nextDataExtId]
    rcases List.mem_cons.mp member with rfl | old
    · rw [Acknowledger.accepts, Option.any_eq_true] at accepted
      obtain ⟨space, found, _⟩ := accepted
      exact traced.numbered _ space found
    · exact traced.keys other old

/-- The receiving end works on without a new packet. -/
theorem receiver (traced : Traced start state) {op : Acknowledger.Op} {receiver : Acknowledger}
    (inner : op.Inner) (stepped : state.receiver.step op = some receiver) :
    Traced start { state with receiver } := by
  have grown := Acknowledger.step_nextDataExtId stepped
  refine { traced with
    sender := fun key space found =>
      (traced.sender key space found).extend ⟨.refl _, fun _ => id, fun _ => id⟩
    noted := ?_, numbered := traced.numbered.step stepped, keys := ?_ }
  · intro key after present
    rcases Acknowledger.step_spaces stepped present with ⟨now, rfl, rfl, rfl⟩ | ⟨space, found, becomes⟩
    · refine .new _ now fun number seen => ?_
      obtain ⟨packet, done, key, _⟩ := seen
      exact absurd (traced.keys packet done) (by rw [key]; exact lt_irrefl _)
    · exact becomes.noted inner (traced.noted key space found)
  · intro packet done
    have := traced.keys packet done
    simp only
    rcases grown with same | ⟨_, _, more⟩ <;> omega

/-- Every step of the packets takes the frames along a run of their own. -/
theorem step (traced : Traced start state) {op : Op} (stepped : state.step op = some next) :
    Traced start next := by
  cases op with
  | stream op =>
    simp only [PacketLink.step, Option.map_eq_some_iff] at stepped
    obtain ⟨link, moved, rfl⟩ := stepped
    exact traced.stream (StreamLink.stream_grown moved)
  | sendPacket pkt outLens spaceId status now => exact traced.sendPacket stepped
  | recvPacket packet ackEliciting probing now =>
    obtain ⟨carried, moved⟩ := Option.ite_none_right_eq_some.mp stepped
    cases moved
    exact traced.recvPacket carried ackEliciting probing now
  | dropPacket packet =>
    cases stepped
    exact { traced with
      sender := fun key space found =>
        (traced.sender key space found).extend ⟨.refl _, fun _ => id, fun _ => id⟩
      wire := fun other member => traced.wire other (List.mem_of_mem_erase member) }
  | receiver op =>
    cases op with
    | recvPacket => cases stepped
    | _ =>
      simp only [PacketLink.step, Option.map_eq_some_iff] at stepped
      obtain ⟨receiver, moved, rfl⟩ := stepped
      exact traced.receiver (by exact trivial) moved
  | recvAck spaceId ackDelay ackRanges ecnCounts delay status now =>
    obtain ⟨written, moved⟩ := Option.ite_none_right_eq_some.mp stepped
    obtain ⟨sender, recovered, rfl⟩ := Option.map_eq_some_iff.mp moved
    refine traced.recovers recovered ?_ ?_
    · rintro key number ⟨other, rfl, _, _, _, _, same, member⟩
      cases same
      rw [acknowledges, Option.any_eq_true] at written
      obtain ⟨space, found, wrote⟩ := written
      exact (traced.noted _ space found).written _ _ _ (of_decide_eq_true wrote) number member
    · rintro key pkt ⟨_, _, _, _, same, _⟩
      cases same
  | lossTimeout spaceId status now =>
    simp only [PacketLink.step, Option.map_eq_some_iff] at stepped
    obtain ⟨sender, recovered, rfl⟩ := stepped
    exact traced.quiet recovered (by simp) (by simp)
  | spaceDiscarded spaceId status now =>
    simp only [PacketLink.step, Option.map_eq_some_iff] at stepped
    obtain ⟨sender, recovered, rfl⟩ := stepped
    exact traced.quiet recovered (by simp) (by simp)
  | spaceAdded =>
    simp only [PacketLink.step, Option.map_eq_some_iff] at stepped
    obtain ⟨sender, recovered, rfl⟩ := stepped
    exact traced.quiet recovered (by simp) (by simp)
  | processAcked spaceId =>
    simp only [PacketLink.step] at stepped
    split at stepped
    · cases stepped
    case h_2 space found =>
      obtain ⟨sender, recovered, rfl⟩ := Option.map_eq_some_iff.mp stepped
      have acked := (traced.sender _ space found).acked
      have grown := StreamLink.ackAll_grown
        (fun frame member => traced.linked.delivered frame (acked frame member)) acked
      exact (traced.stream grown).quiet recovered (by simp) (by simp)
  | processLost spaceId =>
    simp only [PacketLink.step] at stepped
    split at stepped
    · cases stepped
    case h_2 space found =>
      obtain ⟨sender, recovered, rfl⟩ := Option.map_eq_some_iff.mp stepped
      have grown := StreamLink.loseAll_grown (traced.sender _ space found).lost
      exact (traced.stream grown).quiet recovered (by simp) (by simp)

theorem run {window maxWindow : Nat} (fits : window ≤ maxWindow) {recovery : Recovery}
    {ackElicitingThreshold ackDelayExponent : Nat} {now : Instant}
    (run : Run PacketLink.step anyStep (new window maxWindow recovery
      (.new ackElicitingThreshold ackDelayExponent now)) state) :
    Traced (.new window maxWindow) state :=
  run.invariant (fun _ _ _ traced _ stepped => traced.step stepped) (initial fits _ _ _ _)

end Traced

section Run

variable {window maxWindow : Nat} {recovery : Recovery}
  {ackElicitingThreshold ackDelayExponent : Nat} {now : Instant}

/-- A packet is lost, another one arrives twice and is acknowledged. -/
def exchange : List Op :=
  let pkt : Nat → SentPacket RangeBuf := fun pktNum =>
    { pktNum, frames := [], timeSent := 0, timeAcked := none, timeLost := none, ackEliciting := true,
      inFlight := true, hasData := true, sentSize := 40 }
  let status : HandshakeStatus := ⟨true, true, true⟩
  let second : Packet := ⟨.data, 1, [⟨[3], 2, true⟩]⟩
  [.stream (.write [1, 2, 3] true), .sendPacket (pkt 0) [2] .data status 0,
    .sendPacket (pkt 1) [9] .data status 1, .dropPacket ⟨.data, 0, [⟨[1, 2], 0, false⟩]⟩,
    .recvPacket second true false 5, .recvPacket second true false 6,
    .receiver (.writeAckFrame .data false true 100 7),
    .recvAck .data 0 ((RangeSet.new (some maxAckRanges)).addElem 1) none 0 status 9]

/-- What loss recovery takes for acknowledged was processed by the other end, and no packet number
is processed twice. -/
theorem acknowledged_once_processed (fits : window ≤ maxWindow)
    (run : Run step anyStep (new window maxWindow recovery
      (.new ackElicitingThreshold ackDelayExponent now)) state) :
    (∀ spaceId space, state.sender.spaces.get spaceId = some space →
      (∀ pkt ∈ space.sent ++ space.history.removed, pkt.timeAcked.isSome = true →
        ∃ packet ∈ state.processed, packet.spaceId.key = spaceId.key ∧ packet.pktNum = pkt.pktNum) ∧
      ∀ frame ∈ space.acked, frame ∈ state.link.delivered) ∧
    state.processed.Pairwise fun later earlier =>
      later.spaceId.key = earlier.spaceId.key → later.pktNum ≠ earlier.pktNum := by
  have traced := Traced.run fits run
  constructor
  · intro spaceId space found
    have known := traced.sender _ space found
    exact ⟨known.acks, known.acked⟩
  · refine traced.once.imp_of_mem fun {later earlier} first second different key number => different ?_
    exact traced.unique later (traced.processed later first).1 earlier
      (traced.processed earlier second).1 key number

theorem acknowledged_once_processed_exchange :
    ∃ state, exec step (new 8 8 (.new 25 0 1000 10 (· * 9 / 8)) (.new 1 3 0)) exchange = some state ∧
      ∃ space, state.sender.spaces.get .data = some space ∧ space.acked = [⟨[3], 2, true⟩] ∧
        ⟨[3], 2, true⟩ ∈ state.link.delivered := by
  have ran : (exec step (new 8 8 (.new 25 0 1000 10 (· * 9 / 8)) (.new 1 3 0)) exchange).any
      (fun state => (state.sender.spaces.get .data).any (·.acked = [⟨[3], 2, true⟩])) = true := by
    decide +kernel
  obtain ⟨state, executed, acked⟩ := (Option.any_eq_true _ _).mp ran
  obtain ⟨space, found, acked⟩ := (Option.any_eq_true _ _).mp acked
  have acked := of_decide_eq_true acked
  have known := (acknowledged_once_processed (le_refl 8) (.of_exec executed)).1 .data space found
  exact ⟨state, executed, space, found, acked, known.2 _ (acked ▸ List.mem_singleton_self _)⟩

end Run

end PacketLink

end Tquic.Connection
