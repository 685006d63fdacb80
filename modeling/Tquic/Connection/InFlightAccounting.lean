import Tquic.Connection.RecoveryRun

/-! The counters of bytes and packets in flight. They are exact as long as no packet is
acknowledged after it was declared lost: such a packet was taken off the counters when it
was lost, and its acknowledgement takes it off once more. -/

set_option autoImplicit false

namespace Tquic.Connection

open Lib Recovery

variable {φ : Type}

namespace SentPacket

def bytes (pkt : SentPacket φ) : Nat :=
  if pkt.inFlight && pkt.outstanding then pkt.sentSize else 0

def eliciting (pkt : SentPacket φ) : Nat :=
  if pkt.ackEliciting && pkt.outstanding then 1 else 0

end SentPacket

/-- Sizes of the packets in flight that are neither acknowledged nor declared lost. -/
def bytesOutstanding (sent : List (SentPacket φ)) : Nat := (sent.map (·.bytes)).sum

/-- Number of the ack-eliciting packets that are neither acknowledged nor declared lost. -/
def elicitingOutstanding (sent : List (SentPacket φ)) : Nat := (sent.map (·.eliciting)).sum

/-- A packet counts now with exactly what `decrease` subtracts for it. -/
structure Chargeable (pkt : SentPacket φ) : Prop where
  bytes : pkt.bytes = if pkt.inFlight then pkt.sentSize else 0
  eliciting : pkt.eliciting = if pkt.inFlight && pkt.ackEliciting then 1 else 0

theorem Chargeable.of_outstanding {pkt : SentPacket φ} (waiting : pkt.outstanding = true)
    (built : pkt.ackEliciting = true → pkt.inFlight = true) : Chargeable pkt := by
  constructor
  · simp [SentPacket.bytes, waiting]
  · rw [SentPacket.eliciting, waiting, Bool.and_true]
    cases elicits : pkt.ackEliciting with
    | false => simp
    | true => simp [built elicits]

private theorem Chargeable.of_not_inFlight {pkt : SentPacket φ} (idle : pkt.inFlight = false)
    (built : pkt.ackEliciting = true → pkt.inFlight = true) : Chargeable pkt := by
  have quiet : pkt.ackEliciting = false := by
    by_contra elicits
    rw [built (by simpa using elicits)] at idle
    cases idle
  constructor
  · simp [SentPacket.bytes, idle]
  · simp [SentPacket.eliciting, quiet]

namespace InFlight

theorem decrease_chargeable {pkt : SentPacket φ} (counters : InFlight)
    (chargeable : Chargeable pkt) :
    (counters.decrease pkt).bytesInFlight = counters.bytesInFlight - pkt.bytes ∧
      (counters.decrease pkt).ackElicitingInFlight =
        counters.ackElicitingInFlight - pkt.eliciting := by
  rw [chargeable.bytes, chargeable.eliciting, decrease]
  cases pkt.inFlight <;> cases pkt.ackEliciting <;> simp

theorem decreaseAll_chargeable {pkts : List (SentPacket φ)} (counters : InFlight)
    (chargeable : ∀ pkt ∈ pkts, Chargeable pkt) :
    (counters.decreaseAll pkts).bytesInFlight = counters.bytesInFlight - bytesOutstanding pkts ∧
      (counters.decreaseAll pkts).ackElicitingInFlight =
        counters.ackElicitingInFlight - elicitingOutstanding pkts := by
  induction pkts generalizing counters with
  | nil => exact ⟨rfl, rfl⟩
  | cons pkt rest ih =>
    obtain ⟨bytes, eliciting⟩ := ih (counters.decrease pkt) fun other member =>
      chargeable other (List.mem_cons_of_mem _ member)
    have first := decrease_chargeable counters (chargeable pkt List.mem_cons_self)
    rw [first.1] at bytes
    rw [first.2] at eliciting
    simp only [bytesOutstanding, elicitingOutstanding, List.map_cons, List.sum_cons] at *
    constructor
    · refine bytes.trans ?_
      omega
    · refine eliciting.trans ?_
      omega

theorem increase_chargeable {pkt : SentPacket φ} (counters : InFlight)
    (chargeable : Chargeable pkt) :
    (counters.increase pkt).bytesInFlight = counters.bytesInFlight + pkt.bytes ∧
      (counters.increase pkt).ackElicitingInFlight =
        counters.ackElicitingInFlight + pkt.eliciting := by
  rw [chargeable.bytes, chargeable.eliciting, increase]
  cases pkt.inFlight <;> cases pkt.ackEliciting <;> simp

end InFlight

namespace Sender

structure Counted (space : PacketNumSpace φ) : Prop where
  bytes : space.bytesInFlight = bytesOutstanding space.sent
  eliciting : space.ackElicitingInFlight = elicitingOutstanding space.sent
  built : ∀ pkt ∈ space.sent, pkt.ackEliciting = true → pkt.inFlight = true

/-- The counters of the path are the sums over all spaces. -/
structure Exact (sender : Sender φ) : Prop where
  spaces : ∀ entry ∈ sender.spaces.spaces, Counted entry.2
  bytes : sender.recovery.bytesInFlight =
    sender.spaces.spaces.total fun entry => bytesOutstanding entry.2.sent
  eliciting : sender.recovery.ackElicitingInFlight =
    sender.spaces.spaces.total fun entry => elicitingOutstanding entry.2.sent
  keys : ∀ entry ∈ sender.spaces.spaces, entry.1 < sender.spaces.nextDataExtId

variable {sender : Sender φ} {spaceId : SpaceId}

theorem Exact.get {space : PacketNumSpace φ}
    (exact : sender.Exact) (found : sender.spaces.get spaceId = some space) : Counted space :=
  exact.spaces _ (OrdMap.get?_eq_some_iff.mp found)

theorem Exact.share {space : PacketNumSpace φ}
    (exact : sender.Exact) (found : sender.spaces.get spaceId = some space) :
    bytesOutstanding space.sent ≤ sender.recovery.bytesInFlight ∧
      elicitingOutstanding space.sent ≤ sender.recovery.ackElicitingInFlight := by
  have bytes := OrdMap.total_erase (fun entry => bytesOutstanding entry.2.sent) found
  have eliciting := OrdMap.total_erase (fun entry => elicitingOutstanding entry.2.sent) found
  rw [exact.bytes, exact.eliciting]
  simp only at bytes eliciting
  omega

variable {space after : PacketNumSpace φ}

/-- The counters of the path may change with the packets of a space. -/
theorem Exact.update {recovery : Recovery} (exact : sender.Exact)
    (found : sender.spaces.get spaceId = some space) (counted : Counted after)
    (bytes : recovery.bytesInFlight + bytesOutstanding space.sent =
      sender.recovery.bytesInFlight + bytesOutstanding after.sent)
    (eliciting : recovery.ackElicitingInFlight + elicitingOutstanding space.sent =
      sender.recovery.ackElicitingInFlight + elicitingOutstanding after.sent) :
    Exact ⟨recovery, sender.spaces.set spaceId after⟩ := by
  have allBytes := OrdMap.total_insert (fun entry => bytesOutstanding entry.2.sent) after found
  have allEliciting :=
    OrdMap.total_insert (fun entry => elicitingOutstanding entry.2.sent) after found
  simp only at allBytes allEliciting
  constructor
  case spaces =>
    intro entry member
    rcases OrdMap.mem_insert.mp member with rfl | ⟨earlier, _⟩
    · exact counted
    · exact exact.spaces entry earlier
  case bytes =>
    rw [exact.bytes] at bytes
    simp only [PacketNumSpaceMap.set]
    omega
  case eliciting =>
    rw [exact.eliciting] at eliciting
    simp only [PacketNumSpaceMap.set]
    omega
  case keys =>
    intro entry member
    rcases OrdMap.mem_insert.mp member with rfl | ⟨earlier, _⟩
    · exact exact.keys (spaceId.key, space) (OrdMap.get?_eq_some_iff.mp found)
    · exact exact.keys entry earlier

theorem Exact.same {recovery : Recovery} (exact : sender.Exact)
    (found : sender.spaces.get spaceId = some space) (sent : after.sent = space.sent)
    (own : after.toInFlight = space.toInFlight)
    (total : recovery.toInFlight = sender.recovery.toInFlight) :
    Exact ⟨recovery, sender.spaces.set spaceId after⟩ := by
  obtain ⟨bytes, eliciting, built⟩ := exact.get found
  refine exact.update found ⟨?_, ?_, ?_⟩ ?_ ?_
  · rw [own, sent, bytes]
  · rw [own, sent, eliciting]
  · rw [sent]
    exact built
  · rw [total, sent]
  · rw [total, sent]

/-- An ACK frame covers no packet in flight that was declared lost. -/
def NoLateAck (sender : Sender φ) : Op φ → Prop
  | .ackReceived ranges _ spaceId _ _ => ∀ space, sender.spaces.get spaceId = some space →
      ∀ pkt ∈ space.sent, pkt.timeLost.isSome = true → pkt.timeAcked = none →
        pkt.inFlight = true → pkt.pktNum ∉ ranges
  | _ => True

/-- A check that no packet in the queue was declared lost when an ACK frame comes. -/
def noneLost (sender : Sender φ) : Op φ → Bool
  | .ackReceived _ _ spaceId _ _ => (sender.spaces.get spaceId).all fun space =>
    space.sent.all fun pkt => pkt.timeLost.isNone
  | _ => true

theorem noneLost_sound {op : Op φ} (passed : noneLost sender op = true) : NoLateAck sender op := by
  cases op with
  | ackReceived ranges ackDelay spaceId status now =>
    intro space found pkt member late
    simp only [noneLost, found, Option.all_some] at passed
    rw [Option.isNone_iff_eq_none.mp (List.all_eq_true.mp passed pkt member)] at late
    cases late
  | _ => trivial

section Marked

private theorem markAcked_uncounted (now : Instant) (pkt : SentPacket φ) :
    (markAcked now pkt).bytes = 0 ∧ (markAcked now pkt).eliciting = 0 := by
  constructor <;> simp [markAcked, SentPacket.bytes, SentPacket.eliciting, SentPacket.outstanding]

private theorem markLost_uncounted (now : Instant) (pkt : SentPacket φ) :
    (markLost now pkt).bytes = 0 ∧ (markLost now pkt).eliciting = 0 := by
  constructor <;> simp [markLost, SentPacket.bytes, SentPacket.eliciting, SentPacket.outstanding]

theorem pass_uncounted {mark : SentPacket φ → SentPacket φ} {eligible : SentPacket φ → Prop}
    {before after chosen : List (SentPacket φ)} (pass : Pass mark eligible before after chosen)
    (uncounted : ∀ pkt, (mark pkt).bytes = 0 ∧ (mark pkt).eliciting = 0) :
    bytesOutstanding before = bytesOutstanding after + bytesOutstanding chosen ∧
      elicitingOutstanding before = elicitingOutstanding after + elicitingOutstanding chosen := by
  constructor
  · exact pass.sum_split fun pkt _ => by rw [(uncounted pkt).1, Nat.zero_add]
  · exact pass.sum_split fun pkt _ => by rw [(uncounted pkt).2, Nat.zero_add]

theorem outstanding_append (left right : List (SentPacket φ)) :
    bytesOutstanding (left ++ right) = bytesOutstanding left + bytesOutstanding right ∧
      elicitingOutstanding (left ++ right) =
        elicitingOutstanding left + elicitingOutstanding right := by
  simp [bytesOutstanding, elicitingOutstanding]

private theorem outstanding_settled {pkts : List (SentPacket φ)}
    (settled : ∀ pkt ∈ pkts, pkt.outstanding = false) :
    bytesOutstanding pkts = 0 ∧ elicitingOutstanding pkts = 0 := by
  constructor
  · apply List.sum_eq_zero
    intro amount member
    obtain ⟨pkt, present, rfl⟩ := List.mem_map.mp member
    simp [SentPacket.bytes, settled pkt present]
  · apply List.sum_eq_zero
    intro amount member
    obtain ⟨pkt, present, rfl⟩ := List.mem_map.mp member
    simp [SentPacket.eliciting, settled pkt present]

end Marked

/-- Packets that are settled in time take what they counted for with them. -/
theorem Settles.counted {covered : Nat → Prop} {acked lost removed : List (SentPacket φ)}
    (settles : Settles covered space after acked lost removed) (counted : Counted space)
    (punctual : ∀ pkt ∈ acked, pkt.outstanding = true ∨ pkt.inFlight = false) :
    Counted after ∧ (∀ pkt ∈ acked ++ lost, Chargeable pkt) ∧
      bytesOutstanding space.sent = bytesOutstanding after.sent + bytesOutstanding (acked ++ lost) ∧
      elicitingOutstanding space.sent =
        elicitingOutstanding after.sent + elicitingOutstanding (acked ++ lost) := by
  obtain ⟨now, middle, ackPass, lossPass⟩ := settles.passes
  have former := pass_uncounted ackPass (markAcked_uncounted now)
  have latter := pass_uncounted lossPass (markLost_uncounted now)
  have gone := outstanding_settled settles.settled
  have split := outstanding_append removed after.sent
  have both := outstanding_append acked lost
  have built : ∀ pkt ∈ middle, pkt.ackEliciting = true → pkt.inFlight = true := by
    intro pkt member
    rcases ackPass.mem_after member with earlier | ⟨old, chosen, rfl⟩
    · exact counted.built pkt earlier
    · exact counted.built old (ackPass.chosen_eligible chosen).1
  have chargeable : ∀ pkt ∈ acked ++ lost, Chargeable pkt := by
    intro pkt member
    rcases List.mem_append.mp member with first | second
    · have own := counted.built pkt (ackPass.chosen_eligible first).1
      rcases punctual pkt first with waiting | idle
      · exact .of_outstanding waiting own
      · exact .of_not_inFlight idle own
    · obtain ⟨present, waiting⟩ := lossPass.chosen_eligible second
      exact .of_outstanding waiting (built pkt present)
  obtain ⟨bytes, eliciting⟩ := InFlight.decreaseAll_chargeable space.toInFlight chargeable
  rw [← settles.counters, counted.bytes] at bytes
  rw [← settles.counters, counted.eliciting] at eliciting
  refine ⟨⟨by omega, by omega, ?_⟩, chargeable, by omega, by omega⟩
  intro pkt member
  rcases lossPass.mem_after (List.mem_append_right removed member) with earlier | ⟨old, chosen, rfl⟩
  · exact built pkt earlier
  · exact built old (lossPass.chosen_eligible chosen).1

theorem removeFromBytesInFlight_spec {sent : List (SentPacket φ)} (counters : InFlight)
    (built : ∀ pkt ∈ sent, pkt.ackEliciting = true → pkt.inFlight = true) :
    (removeFromBytesInFlight counters sent).bytesInFlight =
        counters.bytesInFlight - bytesOutstanding sent ∧
      (removeFromBytesInFlight counters sent).ackElicitingInFlight =
        counters.ackElicitingInFlight - elicitingOutstanding sent := by
  induction sent generalizing counters with
  | nil => exact ⟨rfl, rfl⟩
  | cons pkt rest ih =>
    have later := fun counters => ih counters fun other member =>
      built other (List.mem_cons_of_mem _ member)
    simp only [removeFromBytesInFlight, bytesOutstanding, elicitingOutstanding, List.map_cons,
      List.sum_cons, List.foldl_cons] at later ⊢
    cases waiting : pkt.outstanding with
    | true =>
      have first := counters.decrease_chargeable
        (.of_outstanding waiting (built pkt List.mem_cons_self))
      have rest := later (counters.decrease pkt)
      simp only [if_true]
      omega
    | false =>
      have idle : pkt.bytes = 0 ∧ pkt.eliciting = 0 := by
        simp [SentPacket.bytes, SentPacket.eliciting, waiting]
      have rest := later counters
      simp only [Bool.false_eq_true, if_false]
      omega

/-- Only a late acknowledgement takes a packet off the counters twice. -/
theorem exact_step {sender next : Sender φ} {op : Op φ} (exact : sender.Exact)
    (punctual : NoLateAck sender op) (effect : Effect sender op next) : next.Exact := by
  cases effect with
  | still counters =>
    refine ⟨exact.spaces, ?_, ?_, exact.keys⟩
    · rw [counters, exact.bytes]
    · rw [counters, exact.eliciting]
  | @sent pkt pkt' spaceId status now space after recovery found fresh same sent own total _ _ _ =>
    obtain ⟨bytes, eliciting, built⟩ := exact.get found
    obtain ⟨waiting, kind⟩ := Bool.and_eq_true_iff.mp fresh
    have elicits : pkt'.ackEliciting = true → pkt'.inFlight = true := by
      rw [same]
      intro elicits
      have flagged : pkt.ackEliciting = true := elicits
      simpa [flagged] using kind
    have chargeable : Chargeable pkt' := .of_outstanding (by rw [same]; exact waiting) elicits
    have more := space.increase_chargeable chargeable
    have grown := sender.recovery.increase_chargeable chargeable
    have split := outstanding_append space.sent [pkt']
    have alone : bytesOutstanding [pkt'] = pkt'.bytes ∧ elicitingOutstanding [pkt'] =
      pkt'.eliciting := ⟨rfl, rfl⟩
    rw [← sent] at split
    rw [← own] at more
    rw [← total] at grown
    refine exact.update found ⟨by omega, by omega, ?_⟩ (by omega) (by omega)
    intro other member
    rw [sent, List.mem_append, List.mem_singleton] at member
    rcases member with earlier | rfl
    · exact built other earlier
    · exact elicits
  | @settled op spaceId space after recovery covered acked lost removed found settles cause total =>
    have timely : ∀ pkt ∈ acked, pkt.outstanding = true ∨ pkt.inFlight = false := by
      intro pkt member
      obtain ⟨_, _, ackPass, _⟩ := settles.passes
      obtain ⟨present, unacked, inside⟩ := ackPass.chosen_eligible member
      obtain ⟨ranges, ackDelay, status, now, rfl, acknowledged⟩ := cause _ inside
      cases lost : pkt.timeLost with
      | none => exact .inl (by simp [SentPacket.outstanding, unacked, lost])
      | some time =>
        right
        by_contra busy
        exact punctual space found pkt present (by rw [lost]; rfl) unacked
          (by simpa using busy) acknowledged
    obtain ⟨counted, chargeable, bytes, eliciting⟩ := settles.counted (exact.get found) timely
    have less := InFlight.decreaseAll_chargeable sender.recovery.toInFlight chargeable
    rw [← total] at less
    have share := exact.share found
    exact exact.update found counted (by omega) (by omega)
  | probed found sent own total _ _ _ => exact exact.same found sent own total
  | @discarded spaceId status now space after recovery found sent own total =>
    obtain ⟨_, _, built⟩ := exact.get found
    have less := removeFromBytesInFlight_spec sender.recovery.toInFlight built
    rw [← total] at less
    have share := exact.share found
    have empty : bytesOutstanding after.sent = 0 ∧ elicitingOutstanding after.sent = 0 := by
      rw [sent]
      exact ⟨rfl, rfl⟩
    refine exact.update found ⟨?_, ?_, ?_⟩ (by omega) (by omega)
    · rw [own, empty.1]
      rfl
    · rw [own, empty.2]
      rfl
    · simp [sent]
  | added =>
    have unused : sender.spaces.spaces.get? sender.spaces.nextDataExtId = none :=
      OrdMap.get?_eq_none_iff.mpr fun entry member => (exact.keys entry member).ne
    constructor
    case spaces =>
      intro entry member
      rcases OrdMap.mem_insert.mp member with rfl | ⟨earlier, _⟩
      · exact ⟨rfl, rfl, by simp [PacketNumSpace.new]⟩
      · exact exact.spaces entry earlier
    case bytes =>
      refine exact.bytes.trans (Eq.symm ?_)
      exact OrdMap.total_insert_fresh (fun entry => bytesOutstanding entry.2.sent) .new unused
    case eliciting =>
      refine exact.eliciting.trans (Eq.symm ?_)
      exact OrdMap.total_insert_fresh (fun entry => elicitingOutstanding entry.2.sent) .new unused
    case keys =>
      intro entry member
      rcases OrdMap.mem_insert.mp member with rfl | ⟨earlier, _⟩
      · exact Nat.lt_succ_self _
      · exact (exact.keys entry earlier).trans (Nat.lt_succ_self _)
  | ackedProcessed found => exact exact.same found rfl rfl rfl
  | lostProcessed found => exact exact.same found rfl rfl rfl

theorem Exact.new (maxAckDelay : Duration) (ptoLinearFactor : Nat) (maxPto initialRtt : Duration)
    (timeThresh : Duration → Duration) :
    Exact (.new (.new maxAckDelay ptoLinearFactor maxPto initialRtt timeThresh) : Sender φ) := by
  refine ⟨?_, rfl, rfl, ?_⟩
  · intro entry member
    rw [(mem_new member).1]
    exact ⟨rfl, rfl, by simp [PacketNumSpace.new]⟩
  · exact fun entry member => (mem_new member).2

/-- The counters of the path and of every space are exact in every run in which no packet in
flight is acknowledged after it was declared lost. -/
theorem in_flight_exact (sender : Sender φ) (reached : Reachable NoLateAck sender) :
    sender.recovery.bytesInFlight =
        sender.spaces.spaces.total (fun entry => bytesOutstanding entry.2.sent) ∧
      sender.recovery.ackElicitingInFlight =
        sender.spaces.spaces.total (fun entry => elicitingOutstanding entry.2.sent) ∧
      ∀ spaceId space, sender.spaces.get spaceId = some space →
        space.bytesInFlight = bytesOutstanding space.sent ∧
        space.ackElicitingInFlight = elicitingOutstanding space.sent := by
  obtain ⟨_, _, _, _, _, run⟩ := reached
  have exact : sender.Exact := by
    exact run.invariant (fun before op after exact allowed stepped =>
      exact_step exact allowed (step_effect before stepped)) (.new _ _ _ _ _)
  refine ⟨exact.bytes, exact.eliciting, fun spaceId space found => ?_⟩
  have counted := exact.get found
  exact ⟨counted.bytes, counted.eliciting⟩

/-- Five packets of 100 bytes are sent and the last one is acknowledged, so that the first two
are declared lost. -/
theorem in_flight_exact_reordered :
    ∃ sender : Sender Nat, Reachable NoLateAck sender ∧
      sender.spaces.spaces.total (fun entry => bytesOutstanding entry.2.sent) = 200 ∧
      sender.spaces.spaces.total (fun entry => elicitingOutstanding entry.2.sent) = 2 := by
  have executed : (exec (checked noneLost step)
      (.new (.new 25000000 0 1000000000 333000000 (fun rtt => rtt * 9 / 8)))
      (((List.range 5).map fun number =>
        .packetSent ⟨number, [number], 0, none, none, true, true, true, 100⟩ .data ⟨true, true, true⟩
          number) ++
        [.ackReceived (RangeSet.default.insert ⟨4, 5⟩) 0 .data ⟨true, true, true⟩ 50000000])).map
      (fun sender => (sender.recovery.bytesInFlight, sender.recovery.ackElicitingInFlight)) =
      some (200, 2) := by
    decide +kernel
  obtain ⟨sender, run, same⟩ := Option.map_eq_some_iff.mp executed
  obtain ⟨bytes, eliciting⟩ := Prod.mk.inj same
  have reached : Reachable NoLateAck sender :=
    ⟨_, _, _, _, _, .of_checked (fun _ _ => noneLost_sound) (.of_exec run)⟩
  have result := in_flight_exact sender reached
  exact ⟨sender, reached, result.1 ▸ bytes, result.2.1 ▸ eliciting⟩

/-- The acknowledgement of a packet that was declared lost takes the packet off the counters
for the second time. -/
theorem in_flight_late_ack :
    (exec step
      (.new (.new 25000000 0 1000000000 333000000 (fun rtt => rtt * 9 / 8)) : Sender Nat)
      (((List.range 5).map fun number =>
        .packetSent ⟨number, [number], 0, none, none, true, true, true, 100⟩ .data ⟨true, true, true⟩
          number) ++
        [.ackReceived (RangeSet.default.insert ⟨4, 5⟩) 0 .data ⟨true, true, true⟩ 50000000,
          .ackReceived (RangeSet.default.insert ⟨0, 1⟩) 0 .data ⟨true, true, true⟩ 50000001])).map
      (fun sender =>
        ((sender.recovery.bytesInFlight,
          sender.spaces.spaces.total fun entry => bytesOutstanding entry.2.sent),
        (sender.recovery.ackElicitingInFlight,
          sender.spaces.spaces.total fun entry => elicitingOutstanding entry.2.sent))) =
      some ((100, 200), (1, 2)) := by
  decide +kernel

end Sender

end Tquic.Connection
