import Tquic.Connection.Acknowledgements

/-! When an ACK frame becomes due, after `try_schedule_ack_frame` of `connection.rs`. The largest
number is updated before it is compared, so that the packet that leaves a gap is not noticed. -/

set_option autoImplicit false

namespace Tquic.Connection

open Lib

/-- The spaces, with the numbers of the ack-eliciting packets that each has received. The code keeps
only the largest. -/
structure AckScheduler where
  acks : Acknowledger
  received : Nat → List Nat

namespace AckScheduler

def new (ackElicitingThreshold ackDelayExponent : Nat) (now : Instant) : AckScheduler :=
  { acks := .new ackElicitingThreshold ackDelayExponent now, received := fun _ => [] }

def record (state : AckScheduler) : Acknowledger.Op → Nat → List Nat
  | .recvPacket spaceId packet _ =>
    if state.acks.accepts spaceId packet.pktNum && packet.ackEliciting then
      Function.update state.received spaceId.key (packet.pktNum :: state.received spaceId.key)
    else state.received
  | .addSpace _ => Function.update state.received state.acks.nextDataExtId []
  | _ => state.received

def step (state : AckScheduler) (op : Acknowledger.Op) : Option AckScheduler :=
  (state.acks.step op).map fun acks => { acks, received := state.record op }

/-- The packet comes after one with a larger number. -/
def Late (received : List Nat) (pktNum : Nat) : Prop := ∃ previous ∈ received, pktNum < previous

/-- Numbers are missing between the packet and the largest before it. -/
def Gap (received : List Nat) (pktNum : Nat) : Prop :=
  ∃ largest ∈ received, (∀ previous ∈ received, previous ≤ largest) ∧ largest + 1 < pktNum

/-- A packet out of order is acknowledged at once, every other one within the delay that was
advertised to the peer, given in milliseconds. -/
def Follows (received : List Nat) (pktNum localMaxAckDelay : Nat) (now : Instant)
    (after : AckSpace) : Prop :=
  (Late received pktNum ∨ Gap received pktNum → after.needSendAck = true) ∧
    (after.needSendAck = false →
      ∃ timer, after.ackTimer = some timer ∧ timer ≤ now + millis localMaxAckDelay)

/-- When the timer that is armed, or will be, expires early enough. -/
def InTime (peerMaxAckDelay localMaxAckDelay : Nat) (now : Instant) : Option Instant → Prop
  | some timer => timer ≤ now + millis localMaxAckDelay
  | none => peerMaxAckDelay ≤ localMaxAckDelay

/-- An acknowledgement is due already, or becomes due for another reason than the gap, or there is
neither a gap nor a reason to arm the timer for too long. -/
def Prompt (state : Acknowledger) (received : List Nat) (pktNum localMaxAckDelay : Nat)
    (now : Instant) (before : AckSpace) : Prop :=
  before.needSendAck = true ∨
    before.ackElicitingPktsSinceLastSentAck + 1 ≥ state.ackElicitingThreshold ∨
    Late received pktNum ∨
    ¬ Gap received pktNum ∧ InTime state.maxAckDelay localMaxAckDelay now before.ackTimer

/-! ## The largest number -/

def Largest (received : List Nat) (space : AckSpace) : Prop :=
  ∀ value, Late received value ↔ value < space.largestRxAckElicitingPktNum

theorem largest_new (id : SpaceId) (now : Instant) : Largest [] (.new id now) := by
  intro value
  constructor
  · rintro ⟨_, impossible, _⟩
    cases impossible
  · exact fun impossible => absurd impossible (Nat.not_lt_zero value)

theorem Largest.cons {received : List Nat} {space : AckSpace} (largest : Largest received space)
    {pktNum : Nat} {after : AckSpace}
    (raised : after.largestRxAckElicitingPktNum = max space.largestRxAckElicitingPktNum pktNum) :
    Largest (pktNum :: received) after := by
  intro value
  have before := largest value
  unfold Late at before ⊢
  rw [List.exists_mem_cons_iff, before, raised]
  exact or_comm.trans lt_max_iff.symm

def Sound (state : AckScheduler) : Prop :=
  ∀ key space, state.acks.spaces.get? key = some space → Largest (state.received key) space

theorem new_sound (ackElicitingThreshold ackDelayExponent : Nat) (now : Instant) :
    (new ackElicitingThreshold ackDelayExponent now).Sound := by
  intro key space found
  simp only [new, Acknowledger.new, OrdMap.get?_insert, OrdMap.get?_empty] at found
  split_ifs at found <;> cases found <;> exact largest_new _ now

variable {state next : AckScheduler} {op : Acknowledger.Op} {key : Nat} {space after : AckSpace}

theorem Largest.of_eq {received : List Nat} (largest : Largest received space)
    (same : after.largestRxAckElicitingPktNum = space.largestRxAckElicitingPktNum) :
    Largest received after := by
  intro value
  rw [same]
  exact largest value

private theorem becomes_received {spaceId : SpaceId} {packet : AckPacket} {now : Instant}
    (largest : Largest (state.received key) space)
    (accepted : state.acks.accepts spaceId packet.pktNum = true) (same : key = spaceId.key) :
    Largest (state.record (.recvPacket spaceId packet now) key)
      ((space.processAckedFrames.recordPacket packet).trySchedule packet.pktNum packet.ackEliciting
        state.acks.ackElicitingThreshold (millis state.acks.maxAckDelay) now) := by
  obtain ⟨_, processed⟩ := space.processAckedFrames_eq
  obtain ⟨_, _, _, scheduled⟩ := (space.processAckedFrames.recordPacket packet).trySchedule_eq
    packet.pktNum packet.ackEliciting state.acks.ackElicitingThreshold
    (millis state.acks.maxAckDelay) now
  subst same
  rw [scheduled, processed]
  simp only [record, accepted, Bool.true_and]
  cases eliciting : packet.ackEliciting with
  | true =>
    simp only [if_true, Function.update_self]
    exact largest.cons (if_pos eliciting)
  | false =>
    simp only [Bool.false_eq_true, if_false]
    refine largest.of_eq (if_neg ?_)
    rw [eliciting]
    decide

private theorem becomes_largest (becomes : state.acks.Becomes key space op after)
    (largest : Largest (state.received key) space) : Largest (state.record op key) after := by
  cases becomes with
  | @kept op spares =>
    unfold record
    split
    · next spaceId packet now =>
      have refused : state.acks.accepts spaceId packet.pktNum = false := spares
      rw [refused, Bool.false_and, if_neg Bool.false_ne_true]
      exact largest
    · rw [Function.update_of_ne spares]
      exact largest
    · exact largest
  | @processed spaceId packet now accepted other =>
    obtain ⟨_, processed⟩ := space.processAckedFrames_eq
    rw [processed]
    simp only [record]
    split_ifs
    · rw [Function.update_of_ne other]
      exact largest.of_eq rfl
    · exact largest.of_eq rfl
  | received accepted same => exact becomes_received largest accepted same
  | processedLost =>
    obtain ⟨_, lost⟩ := space.processLostFrames_eq
    rw [lost]
    exact largest.of_eq rfl
  | wrote written =>
    obtain ⟨_, _, _, rfl⟩ := AckSpace.tryWriteAckFrame_eq written
    exact largest.of_eq rfl
  | @expired now =>
    obtain ⟨_, _, expired⟩ := space.onAckTimeout_eq now
    rw [expired]
    exact largest.of_eq rfl
  | _ => exact largest.of_eq rfl

theorem step_sound (sound : state.Sound) (stepped : state.step op = some next) : next.Sound := by
  obtain ⟨acks, moved, rfl⟩ := Option.map_eq_some_iff.mp stepped
  intro key after present
  obtain ⟨now, rfl, rfl, rfl⟩ | ⟨space, found, becomes⟩ := Acknowledger.step_spaces moved present
  · simp only [record, Function.update_self]
    exact largest_new _ now
  · exact becomes_largest becomes (sound key space found)

/-! ## The decision -/

private theorem recvPacket_get {acks : Acknowledger} {spaceId : SpaceId} {packet : AckPacket}
    (now : Instant) (found : acks.get spaceId = some space)
    (fresh : space.recvPktNumWin.contains packet.pktNum = false) :
    (acks.recvPacket spaceId packet now).get spaceId =
      some ((space.processAckedFrames.recordPacket packet).trySchedule packet.pktNum
        packet.ackEliciting acks.ackElicitingThreshold (millis acks.maxAckDelay) now) := by
  have accepted : acks.accepts spaceId packet.pktNum = true := by
    rw [Acknowledger.accepts, found, Option.any_some, fresh]
    rfl
  have processed : acks.tryProcessAckedFrames.get spaceId = some space.processAckedFrames := by
    have own : acks.spaces.get? spaceId.key = some space := found
    rw [Acknowledger.get, Acknowledger.tryProcessAckedFrames, OrdMap.get?_mapValues, own]
    rfl
  rw [Acknowledger.recvPacket, if_pos accepted]
  dsimp only
  rw [processed]
  exact OrdMap.get?_insert_self _ _ _

/-- A packet after which no acknowledgement is due must be in order. -/
theorem follows_iff_of_waiting {received : List Nat} {pktNum localMaxAckDelay : Nat}
    {now : Instant} (waits : after.needSendAck = false) :
    Follows received pktNum localMaxAckDelay now after ↔
      ¬ (Late received pktNum ∨ Gap received pktNum) ∧
        ∃ timer, after.ackTimer = some timer ∧ timer ≤ now + millis localMaxAckDelay := by
  unfold Follows
  refine and_congr (imp_congr_right fun _ => ?_) ⟨fun armed => armed waits, fun armed _ => armed⟩
  rw [waits]
  exact ⟨Bool.noConfusion, False.elim⟩

private theorem prompt_iff_of_waiting {acks : Acknowledger} {received : List Nat}
    {pktNum localMaxAckDelay : Nat} {now : Instant} (idle : ¬ space.needSendAck = true)
    (few : ¬ space.ackElicitingPktsSinceLastSentAck + 1 ≥ acks.ackElicitingThreshold)
    (next : ¬ Late received pktNum) :
    Prompt acks received pktNum localMaxAckDelay now space ↔
      ¬ Gap received pktNum ∧ InTime acks.maxAckDelay localMaxAckDelay now space.ackTimer := by
  unfold Prompt
  rw [or_iff_right idle, or_iff_right few, or_iff_right next]

private theorem inTime_iff (peerMaxAckDelay localMaxAckDelay : Nat) (now : Instant)
    (timer : Option Instant) :
    InTime peerMaxAckDelay localMaxAckDelay now timer ↔
      timer.getD (now + millis peerMaxAckDelay) ≤ now + millis localMaxAckDelay := by
  cases timer with
  | some timer => exact Iff.rfl
  | none =>
    unfold InTime millis
    rw [Option.getD_none, Int.add_le_add_iff_left, Int.ofNat_le]
    omega

private theorem trySchedule_iff {acks : Acknowledger} {received : List Nat} {packet : AckPacket}
    (largest : Largest received space) (eliciting : packet.ackEliciting = true)
    (early : space.id ≠ .initial ∧ space.id ≠ .handshake) (localMaxAckDelay : Nat) (now : Instant) :
    Follows received packet.pktNum localMaxAckDelay now
        ((space.recordPacket packet).trySchedule packet.pktNum packet.ackEliciting
          acks.ackElicitingThreshold (millis acks.maxAckDelay) now) ↔
      Prompt acks received packet.pktNum localMaxAckDelay now space := by
  have late := largest packet.pktNum
  have raised : (space.recordPacket packet).largestRxAckElicitingPktNum =
      max space.largestRxAckElicitingPktNum packet.pktNum := if_pos eliciting
  have immediate : ∀ {after : AckSpace}, after.needSendAck = true →
      Follows received packet.pktNum localMaxAckDelay now after := fun due =>
    ⟨fun _ => due, fun waits => absurd (due.symm.trans waits) Bool.noConfusion⟩
  unfold AckSpace.trySchedule
  rw [raised, eliciting]
  dsimp only
  split_ifs with silent due handshake many reordered idle
  · cases silent
  · exact iff_of_true (immediate due) (.inl due)
  · exact absurd handshake (not_or.mpr early)
  · exact iff_of_true (immediate rfl) (.inr (.inl many))
  · refine iff_of_true (immediate rfl) (.inr (.inr (.inl ?_)))
    rw [late]
    omega
  all_goals
    have next : ¬ Late received packet.pktNum := by
      rw [late]
      omega
    have prompt := @prompt_iff_of_waiting space acks received packet.pktNum localMaxAckDelay now
      due many next
    rw [inTime_iff] at prompt
    refine (follows_iff_of_waiting ?_).trans (.trans ?_ prompt.symm)
    · exact Bool.eq_false_iff.mpr due
    rw [not_or, and_iff_right next]
    refine and_congr_right fun _ => ?_
  · have unarmed : space.ackTimer = none := Option.isNone_iff_eq_none.mp idle
    rw [unarmed, Option.getD_none]
    simp only [Option.some.injEq, exists_eq_left']
  · obtain ⟨timer, armed⟩ : ∃ timer, space.ackTimer = some timer :=
      Option.ne_none_iff_exists'.mp (mt Option.isNone_iff_eq_none.mpr idle)
    have kept : (space.recordPacket packet).ackTimer = some timer := armed
    rw [kept, armed, Option.getD_some]
    simp only [Option.some.injEq, exists_eq_left']

/-- After every run, a packet that asks for an acknowledgement in 0-RTT or 1-RTT is acknowledged as
the rule says exactly if the acknowledgement is due for another reason than a gap, or if there is no
gap and the delay that the peer advertised for itself does not make the timer late. -/
theorem follows_iff_prompt {ackElicitingThreshold ackDelayExponent : Nat} {start : Instant}
    (run : Run step anyStep (new ackElicitingThreshold ackDelayExponent start) state)
    {spaceId : SpaceId} (found : state.acks.get spaceId = some space)
    (early : space.id ≠ .initial ∧ space.id ≠ .handshake) {packet : AckPacket}
    (fresh : space.recvPktNumWin.contains packet.pktNum = false)
    (eliciting : packet.ackEliciting = true) (localMaxAckDelay : Nat) (now : Instant) :
    ∃ next after, state.step (.recvPacket spaceId packet now) = some next ∧
      next.acks.get spaceId = some after ∧
      (Follows (state.received spaceId.key) packet.pktNum localMaxAckDelay now after ↔
        Prompt state.acks (state.received spaceId.key) packet.pktNum localMaxAckDelay now
          space) := by
  have sound : state.Sound := run.invariant (fun _ _ _ sound _ stepped => step_sound sound stepped)
    (new_sound _ _ _)
  refine ⟨_, _, rfl, recvPacket_get now found fresh, ?_⟩
  obtain ⟨_, processed⟩ := space.processAckedFrames_eq
  have own : Largest (state.received spaceId.key) space.processAckedFrames :=
    (sound _ _ found).of_eq (by rw [processed])
  have exactly := @trySchedule_iff _ state.acks _ _ own eliciting (by rwa [processed])
    localMaxAckDelay now
  rw [processed] at exactly ⊢
  exact exactly

/-- With the default threshold, packet 0 has been acknowledged when packet 1 arrives. -/
theorem follows_iff_prompt_next :
    ∃ state space next after, Run step anyStep (new 2 3 0) state ∧
      state.acks.get .data = some space ∧
      state.step (.recvPacket .data ⟨1, true, false, 40000000⟩ 40000000) = some next ∧
      next.acks.get .data = some after ∧
      (Follows (state.received 2) 1 25 40000000 after ↔
        Prompt state.acks (state.received 2) 1 25 40000000 space) := by
  have executed : (exec step (new 2 3 0)
      [.recvPacket .data ⟨0, true, false, 0⟩ 0, .ackTimeout 30000000,
        .writeAckFrame .data false true 1000 30000000]).any (fun state =>
          (state.acks.get .data).any fun space =>
            decide (space.id ≠ .initial ∧ space.id ≠ .handshake) &&
              !space.recvPktNumWin.contains 1) = true := by
    decide +kernel
  obtain ⟨state, steps, checked⟩ := (Option.any_eq_true _ _).mp executed
  obtain ⟨space, found, checked⟩ := (Option.any_eq_true _ _).mp checked
  obtain ⟨early, fresh⟩ := Bool.and_eq_true_iff.mp checked
  have run : Run step anyStep (new 2 3 0) state := .of_exec steps
  have fresh : space.recvPktNumWin.contains (AckPacket.mk 1 true false 40000000).pktNum = false :=
    by simpa using fresh
  obtain ⟨next, after, stepped, present, exactly⟩ := follows_iff_prompt run found
    (of_decide_eq_true early) fresh rfl 25 40000000
  exact ⟨state, space, next, after, run, found, stepped, present, exactly⟩

/-- Packet 0 has been acknowledged when packet 5 arrives, and nothing is sent at once. -/
theorem gap_not_acknowledged :
    ¬ ∀ state, Run step anyStep (new 2 3 0) state → ∀ spaceId space packet now,
      state.acks.get spaceId = some space → space.id ≠ .initial ∧ space.id ≠ .handshake →
      space.recvPktNumWin.contains packet.pktNum = false → packet.ackEliciting = true →
      ∀ next after, state.step (.recvPacket spaceId packet now) = some next →
        next.acks.get spaceId = some after →
        Follows (state.received spaceId.key) packet.pktNum 25 now after := by
  have executed : (exec step (new 2 3 0)
      [.recvPacket .data ⟨0, true, false, 0⟩ 0, .ackTimeout 30000000,
        .writeAckFrame .data false true 1000 30000000]).any (fun state =>
          (state.acks.get .data).any fun space =>
            decide (space.id ≠ .initial ∧ space.id ≠ .handshake) &&
              (!space.recvPktNumWin.contains 5 && (decide (state.received 2 = [0]) &&
                ((state.acks.recvPacket .data ⟨5, true, false, 40000000⟩ 40000000).get .data).any
                  fun after => !after.needSendAck))) = true := by
    decide +kernel
  intro follows
  obtain ⟨state, steps, checked⟩ := (Option.any_eq_true _ _).mp executed
  obtain ⟨space, found, checked⟩ := (Option.any_eq_true _ _).mp checked
  obtain ⟨early, checked⟩ := Bool.and_eq_true_iff.mp checked
  obtain ⟨fresh, checked⟩ := Bool.and_eq_true_iff.mp checked
  obtain ⟨received, checked⟩ := Bool.and_eq_true_iff.mp checked
  obtain ⟨after, present, waits⟩ := (Option.any_eq_true _ _).mp checked
  have received : state.received 2 = [0] := of_decide_eq_true received
  have due := (follows state (.of_exec steps) .data space ⟨5, true, false, 40000000⟩ 40000000 found
    (of_decide_eq_true early) (by simpa using fresh) rfl _ after rfl present).1
  have gap : Gap (state.received 2) 5 := by
    rw [received]
    exact ⟨0, .head _, by decide, by decide⟩
  rw [due (.inr gap)] at waits
  cases waits

end AckScheduler

end Tquic.Connection
