import Mathlib.Data.Rat.Floor
import Tquic.CongestionControl.Cubic
import Tquic.Lib.Transition

/-! When the delivery rate estimator and Cubic divide by zero. Both guard a division by whole
microseconds with a test of the nanoseconds. -/

set_option autoImplicit false

namespace Tquic.CongestionControl

open Lib

universe u

/-! ## The delivery rate -/

/-- A sample is ready and took some time, but less than a microsecond as far as 64 bits tell. -/
def DeliveryRateEstimator.Unmeasurable (estimator : DeliveryRateEstimator) : Prop :=
  estimator.rateSample.priorTime ≠ none ∧ estimator.longerElapsed ≠ 0 ∧
    asMicros estimator.longerElapsed % 2 ^ 64 = 0

theorem DeliveryRateEstimator.generateRateSample_isSome {estimator : DeliveryRateEstimator} :
    estimator.generateRateSample.isSome = true ↔ ¬ estimator.Unmeasurable := by
  have interval : estimator.leaveAppLimited.measure.rateSample.interval =
      estimator.longerElapsed := by
    rw [measure_interval, leaveAppLimited_rateSample, longerElapsed]
  unfold generateRateSample Unmeasurable
  dsimp only
  rw [leaveAppLimited_rateSample, interval]
  split_ifs with undelivered instant
  · simp [Option.isNone_iff_eq_none.mp undelivered]
  · simp [instant]
  · have ready : estimator.rateSample.priorTime ≠ none := by simpa using undelivered
    rw [Option.isSome_map, divide_isSome, and_iff_right ready, and_iff_right instant]

def RateState.DividesByZero (state : RateState) : RateOp → Prop
  | .generate => state.estimator.Unmeasurable
  | _ => False

theorem RateState.step_isSome (state : RateState) (op : RateOp) :
    (state.step op).isSome = true ↔ ¬ state.DividesByZero op := by
  cases op with
  | send => simp [RateState.step, RateState.DividesByZero]
  | ack index timeAcked =>
      simp only [RateState.step, RateState.DividesByZero, not_false_iff, iff_true]
      split <;> rfl
  | generate =>
      rw [RateState.DividesByZero, ← DeliveryRateEstimator.generateRateSample_isSome,
        RateState.step, Option.isSome_map]
  | setAppLimited => simp [RateState.step, RateState.DividesByZero]

/-! ## Cubic -/

section Cubic

variable {K : Type u}

private theorem Cubic.addIncrement_isSome (cubic : Cubic K) (cwnd : Nat) :
    (cubic.addIncrement cwnd).isSome = true := by
  rw [Cubic.addIncrement, Option.isSome_map, divide_isSome]
  exact cubic.config.datagrams.ne'

theorem Cubic.updatePacingRate_isSome (cubic : Cubic K) {rtt : Connection.RttEstimator}
    (sampled : rtt.smoothedRtt ≠ 0) :
    (cubic.updatePacingRate rtt).isSome = true ↔ 1000 ≤ rtt.smoothedRtt := by
  rw [Cubic.updatePacingRate, if_neg sampled, Option.isSome_map, divide_isSome, asMicros]
  unfold Duration
  omega

variable [Field K] [LinearOrder K] [FloorSemiring K]

private theorem Cubic.avoidCongestion_isSome (cubic : Cubic K) (ackedBytes : Nat) (now : Instant)
    (rtt : Connection.RttEstimator) : (cubic.avoidCongestion ackedBytes now rtt).isSome = true :=
  Cubic.addIncrement_isSome _ _

/-- The acknowledgements that leave the window alone. -/
def Cubic.Skips (cubic : Cubic K) (packet : SentPacket) (appLimited : Bool)
    (rtt : Connection.RttEstimator) : Prop :=
  appLimited = true ∨ cubic.inRecovery packet.timeSent = true ∨ rtt.smoothedRtt = 0

private theorem Cubic.onAck_isSome {cubic : Cubic K} {packet : SentPacket} {now : Instant}
    {appLimited : Bool} {rtt : Connection.RttEstimator} {bytesInFlight : Nat} :
    (cubic.onAck packet now appLimited rtt bytesInFlight).isSome = true ↔
      cubic.Skips packet appLimited rtt ∨ 1000 ≤ rtt.smoothedRtt := by
  have same : (cubic.countAcked packet.sentSize bytesInFlight).inRecovery packet.timeSent =
      cubic.inRecovery packet.timeSent := rfl
  unfold Cubic.onAck
  dsimp only
  rw [same]
  by_cases skipped : (appLimited || cubic.inRecovery packet.timeSent ||
      decide (rtt.smoothedRtt = 0)) = true
  · have skips : cubic.Skips packet appLimited rtt := by
      simpa [Cubic.Skips, or_assoc] using skipped
    rw [if_pos skipped]
    simp [skips]
  · have passes : ¬ cubic.Skips packet appLimited rtt := by
      simpa [Cubic.Skips, or_assoc] using skipped
    have sampled : rtt.smoothedRtt ≠ 0 := fun zero => passes (.inr (.inr zero))
    rw [if_neg skipped, or_iff_right passes]
    split_ifs
    · exact Cubic.updatePacingRate_isSome _ sampled
    · obtain ⟨grown, avoided⟩ := Option.isSome_iff_exists.mp
        (Cubic.avoidCongestion_isSome (cubic.countAcked packet.sentSize bytesInFlight)
          packet.sentSize now rtt)
      rw [avoided]
      exact Cubic.updatePacingRate_isSome grown sampled

def CubicState.DividesByZero (state : CubicState K) : CubicOp → Prop
  | .ack packet _ appLimited _ =>
      ¬ state.cubic.Skips packet appLimited state.rtt ∧ state.rtt.smoothedRtt < 1000
  | _ => False

theorem CubicState.step_isSome (cbrt : K → K) (state : CubicState K) (op : CubicOp) :
    (state.step cbrt op).isSome = true ↔ ¬ state.DividesByZero op := by
  cases op with
  | ack packet now appLimited bytesInFlight =>
      rw [CubicState.DividesByZero, CubicState.step, Option.isSome_map, Cubic.onAck_isSome,
        not_and_or, not_not, not_lt]
  | _ => simp [CubicState.step, CubicState.DividesByZero]

end Cubic

/-! ## Runs -/

/-- A run of the estimator divides by zero exactly where it generates a sample of an interval that
is not zero and has no whole microsecond; a run of Cubic with the RTT estimator of its path, where
it takes up an acknowledgement while the smoothed RTT is below a microsecond. -/
theorem rate_divisions_iff {K : Type u} [Field K] [LinearOrder K] [FloorSemiring K] :
    (∀ (now : Instant) (ops : List RateOp),
      Along RateState.move (fun state op => (state.step op).isSome = true) (.new now) ops ↔
        Along RateState.move (fun state op => ¬ state.DividesByZero op) (.new now) ops) ∧
      ∀ (cbrt : K → K) (config : CubicConfig K) (initialRtt : Duration) (ops : List CubicOp),
        Along (CubicState.move cbrt) (fun state op => (state.step cbrt op).isSome = true)
            (.new config initialRtt) ops ↔
          Along (CubicState.move cbrt) (fun state op => ¬ state.DividesByZero op)
            (.new config initialRtt) ops := by
  refine ⟨fun now ops => ?_, fun cbrt config initialRtt ops => ?_⟩
  · exact @along_iff _ _ _ _ _ (fun _ => True) ops (fun state op _ _ => state.step_isSome op)
      (fun _ _ _ _ _ => trivial) _ trivial
  · exact @along_iff _ _ _ _ _ (fun _ => True) ops (fun state op _ _ => state.step_isSome cbrt op)
      (fun _ _ _ _ _ => trivial) _ trivial

/-- A packet is acknowledged 500 ns after it was sent. -/
def fastAck : List RateOp := [.send 0 1200 0 0 0, .ack 0 500, .generate]

def defaultRecovery : RecoveryConfig where
  maxDatagramSize := 1200
  minCongestionWindow := 2
  initialCongestionWindow := 10
  slowStartThresh := u64Max
  initialRtt := defaultInitialRtt
  datagrams := Nat.le_refl _

def fastPath : List CubicOp :=
  let packet : SentPacket :=
    { pktNum := 0, timeSent := 0, timeAcked := some 500, sentSize := 1200
      rateSampleState := .default }
  [.sent packet 0, .rttSample 0 500, .ack packet 500 false 0]

/-- Both divisions are reached with a divisor of zero. -/
theorem rate_divisions_by_zero :
    (¬ ∀ (now : Instant) (ops : List RateOp),
      Along RateState.move (fun state op => (state.step op).isSome = true) (.new now) ops) ∧
    ¬ ∀ (cbrt : ℚ → ℚ) (config : CubicConfig ℚ) (initialRtt : Duration) (ops : List CubicOp),
      Along (CubicState.move cbrt) (fun state op => (state.step cbrt op).isSome = true)
        (.new config initialRtt) ops := by
  refine ⟨fun never => ?_, fun never => ?_⟩
  · obtain ⟨-, -, generated, -⟩ := never 0 fastAck
    exact absurd generated (by decide)
  · obtain ⟨-, -, acked, -⟩ := never id (.from defaultRecovery) defaultInitialRtt fastPath
    exact absurd acked (by decide)

/-! ## Clocks of whole microseconds -/

/-- A time that a clock of whole microseconds shows. -/
def Tick (time : Instant) : Prop := ∃ micros : Nat, micros < 2 ^ 64 ∧ time = 1000 * micros

def WholeMicros (duration : Duration) : Prop :=
  ∃ micros : Nat, micros < 2 ^ 64 ∧ duration = 1000 * micros

theorem Tick.wholeMicros {later earlier : Instant} (laterTick : Tick later)
    (earlierTick : Tick earlier) : WholeMicros (saturatingDurationSince later earlier) := by
  obtain ⟨laterMicros, small, rfl⟩ := laterTick
  obtain ⟨earlierMicros, -, rfl⟩ := earlierTick
  refine ⟨laterMicros - earlierMicros, by omega, ?_⟩
  unfold saturatingDurationSince Instant Duration
  omega

theorem WholeMicros.max {left right : Duration} (leftWhole : WholeMicros left)
    (rightWhole : WholeMicros right) : WholeMicros (max left right) := by
  rcases max_choice left right with same | same <;> rw [same] <;> assumption

theorem WholeMicros.measurable {duration : Duration} (whole : WholeMicros duration)
    (nonzero : duration ≠ 0) : asMicros duration % 2 ^ 64 ≠ 0 := by
  obtain ⟨micros, small, rfl⟩ := whole
  rw [asMicros, Nat.mul_div_cancel_left micros (by decide), Nat.mod_eq_of_lt small]
  rintro rfl
  exact nonzero rfl

structure SentPacket.Ticking (packet : SentPacket) : Prop where
  timeSent : Tick packet.timeSent
  firstSentTime : ∀ time, packet.rateSampleState.firstSentTime = some time → Tick time
  deliveredTime : ∀ time, packet.rateSampleState.deliveredTime = some time → Tick time

/-- Every time that the estimator knows is one that the clock showed. -/
structure DeliveryRateEstimator.Ticking (estimator : DeliveryRateEstimator) : Prop where
  deliveredTime : Tick estimator.deliveredTime
  firstSentTime : Tick estimator.firstSentTime
  sendElapsed : WholeMicros estimator.rateSample.sendElapsed
  ackElapsed : WholeMicros estimator.rateSample.ackElapsed

namespace DeliveryRateEstimator.Ticking

variable {estimator : DeliveryRateEstimator}

theorem new {now : Instant} (tick : Tick now) : (DeliveryRateEstimator.new now).Ticking where
  deliveredTime := tick
  firstSentTime := tick
  sendElapsed := ⟨0, by decide, rfl⟩
  ackElapsed := ⟨0, by decide, rfl⟩

section

variable (ticking : estimator.Ticking)

include ticking

theorem onPacketSent {packet : SentPacket}
    (tick : Tick packet.timeSent) (bytesInFlight bytesLost : Nat) :
    (estimator.onPacketSent packet bytesInFlight bytesLost).1.Ticking ∧
      (estimator.onPacketSent packet bytesInFlight bytesLost).2.Ticking := by
  obtain ⟨deliveredTime, firstSentTime, sendElapsed, ackElapsed⟩ := ticking
  unfold DeliveryRateEstimator.onPacketSent
  split_ifs
  · exact ⟨⟨tick, tick, sendElapsed, ackElapsed⟩,
      ⟨tick, fun _ same => Option.some.inj same ▸ tick, fun _ same => Option.some.inj same ▸ tick⟩⟩
  · exact ⟨⟨deliveredTime, firstSentTime, sendElapsed, ackElapsed⟩,
      ⟨tick, fun _ same => Option.some.inj same ▸ firstSentTime,
        fun _ same => Option.some.inj same ▸ deliveredTime⟩⟩

theorem noteNewest {packet : SentPacket}
    (tick : Tick packet.timeSent) : (estimator.noteNewest packet).Ticking := by
  obtain ⟨deliveredTime, firstSentTime, sendElapsed, ackElapsed⟩ := ticking
  unfold DeliveryRateEstimator.noteNewest
  split_ifs
  · exact ⟨deliveredTime, tick, sendElapsed, ackElapsed⟩
  · exact ⟨deliveredTime, firstSentTime, sendElapsed, ackElapsed⟩

theorem updateRateSample {packet : SentPacket}
    (packetTicking : packet.Ticking) (acked : ∀ time, packet.timeAcked = some time → Tick time) :
    (estimator.updateRateSample packet).1.Ticking ∧
      (estimator.updateRateSample packet).2.Ticking := by
  unfold DeliveryRateEstimator.updateRateSample
  split
  · rename_i priorTime timeAcked prior now
    have counted : DeliveryRateEstimator.Ticking
        { estimator with
          delivered := min (estimator.delivered + packet.sentSize) u64Max
          deliveredTime := timeAcked } :=
      ⟨acked timeAcked now, ticking.firstSentTime, ticking.sendElapsed, ticking.ackElapsed⟩
    have noted := counted.noteNewest packetTicking.timeSent
    refine ⟨⟨noted.deliveredTime, noted.firstSentTime, ?_, ?_⟩, packetTicking.timeSent,
      packetTicking.firstSentTime, by simp⟩
    · refine packetTicking.timeSent.wholeMicros ?_
      cases first : packet.rateSampleState.firstSentTime with
      | none => exact packetTicking.timeSent
      | some time => exact packetTicking.firstSentTime time first
    · exact noted.deliveredTime.wholeMicros (packetTicking.deliveredTime priorTime prior)
  · exact ⟨ticking, packetTicking⟩

theorem leaveAppLimited : estimator.leaveAppLimited.Ticking := by
  obtain ⟨deliveredTime, firstSentTime, sendElapsed, ackElapsed⟩ := ticking
  unfold DeliveryRateEstimator.leaveAppLimited
  split_ifs <;> exact ⟨deliveredTime, firstSentTime, sendElapsed, ackElapsed⟩

theorem generateRateSample {next : DeliveryRateEstimator}
    (generated : estimator.generateRateSample = some next) : next.Ticking := by
  have left := ticking.leaveAppLimited
  have measured : estimator.leaveAppLimited.measure.Ticking :=
    ⟨left.deliveredTime, left.firstSentTime, left.sendElapsed, left.ackElapsed⟩
  unfold DeliveryRateEstimator.generateRateSample at generated
  dsimp only at generated
  split_ifs at generated
  · exact Option.some.inj generated ▸ left
  · exact Option.some.inj generated ▸ measured
  · obtain ⟨rate, -, rfl⟩ := Option.map_eq_some_iff.mp generated
    exact ⟨measured.deliveredTime, measured.firstSentTime, measured.sendElapsed,
      measured.ackElapsed⟩

private theorem not_unmeasurable : ¬ estimator.Unmeasurable := by
  rintro ⟨-, nonzero, zero⟩
  exact (ticking.sendElapsed.max ticking.ackElapsed).measurable nonzero zero

end

end DeliveryRateEstimator.Ticking

structure RateState.Ticking (state : RateState) : Prop where
  estimator : state.estimator.Ticking
  packets : ∀ packet ∈ state.packets, packet.Ticking

/-- The operation takes its times from the clock. -/
def RateOp.Ticking : RateOp → Prop
  | .send _ _ timeSent _ _ => Tick timeSent
  | .ack _ timeAcked => Tick timeAcked
  | .generate => True
  | .setAppLimited _ => True

/-- Times are whole microseconds in every state of a run over such times. -/
theorem RateState.Ticking.step {state next : RateState} (ticking : state.Ticking) {op : RateOp}
    (times : op.Ticking) (stepped : state.step op = some next) : next.Ticking := by
  cases op with
  | send pktNum sentSize timeSent bytesInFlight bytesLost =>
      cases stepped
      let packet : SentPacket :=
        { pktNum, timeSent, timeAcked := none, sentSize, rateSampleState := .default }
      have tick : Tick packet.timeSent := times
      obtain ⟨sent, noted⟩ := ticking.estimator.onPacketSent tick bytesInFlight bytesLost
      refine ⟨sent, fun packet found => ?_⟩
      rcases List.mem_append.mp found with earlier | last
      · exact ticking.packets packet earlier
      · exact List.mem_singleton.mp last ▸ noted
  | ack index timeAcked =>
      simp only [RateState.step] at stepped
      split at stepped
      · exact Option.some.inj stepped ▸ ticking
      · rename_i packet found
        have known := ticking.packets packet (List.mem_of_getElem? found)
        have acked : SentPacket.Ticking { packet with timeAcked := some timeAcked } :=
          ⟨known.timeSent, known.firstSentTime, known.deliveredTime⟩
        obtain ⟨updated, marked⟩ := ticking.estimator.updateRateSample acked
          fun time same => Option.some.inj same ▸ times
        cases stepped
        refine ⟨updated, fun other member => ?_⟩
        rcases List.mem_or_eq_of_mem_set member with earlier | replaced
        · exact ticking.packets other earlier
        · exact replaced ▸ marked
  | generate =>
      obtain ⟨generated, same, rfl⟩ := Option.map_eq_some_iff.mp stepped
      exact ⟨ticking.estimator.generateRateSample same, ticking.packets⟩
  | setAppLimited isAppLimited =>
      cases stepped
      obtain ⟨deliveredTime, firstSentTime, sendElapsed, ackElapsed⟩ := ticking.estimator
      exact ⟨⟨deliveredTime, firstSentTime, sendElapsed, ackElapsed⟩, ticking.packets⟩

theorem RateState.whole_micros_safe {now : Instant} (tick : Tick now) {ops : List RateOp}
    (times : ∀ op ∈ ops, op.Ticking) :
    Along RateState.move (fun state op => (state.step op).isSome = true) (.new now) ops := by
  have start : (RateState.new now).Ticking := ⟨.new tick, fun _ found => nomatch found⟩
  refine along_of_invariant (fun state op _ ticking => ?_) (fun state op found ticking => ?_) start
  · rw [RateState.step_isSome]
    cases op with
    | generate => exact ticking.estimator.not_unmeasurable
    | _ => exact not_false
  · unfold RateState.move
    cases stepped : state.step op with
    | none => exact ticking
    | some next => exact ticking.step (times op found) stepped

/-- The packet of `fastAck` takes a microsecond. -/
theorem RateState.whole_micros_safe_ack :
    Along RateState.move (fun state op => (state.step op).isSome = true) (.new 0)
      [.send 0 1200 0 0 0, .ack 0 1000, .generate] := by
  refine RateState.whole_micros_safe ⟨0, by decide, rfl⟩ fun op member => ?_
  simp only [List.mem_cons, List.not_mem_nil, or_false] at member
  rcases member with rfl | rfl | rfl
  · exact ⟨0, by decide, rfl⟩
  · exact ⟨1, by decide, rfl⟩
  · trivial

/-! ## Samples of a microsecond or more -/

section SlowPath

variable {K : Type u} [Field K] [LinearOrder K] [FloorSemiring K]

/-- No estimate of the path is below a microsecond. -/
def Slow (rtt : Connection.RttEstimator) : Prop := 1000 ≤ rtt.minRtt ∧ 1000 ≤ rtt.smoothedRtt

theorem Slow.trySetInitRtt {rtt : Connection.RttEstimator} (slow : Slow rtt) {initRtt : Duration}
    (long : 1000 ≤ initRtt) : Slow (rtt.trySetInitRtt initRtt) := by
  unfold Connection.RttEstimator.trySetInitRtt
  split_ifs
  · exact slow
  · exact ⟨long, long⟩

theorem Slow.update {rtt : Connection.RttEstimator} (slow : Slow rtt) (ackDelay : Duration)
    {sample : Duration} (long : 1000 ≤ sample) : Slow (rtt.update ackDelay sample) := by
  obtain ⟨minimum, smoothed⟩ := slow
  unfold Connection.RttEstimator.update
  cases average : rtt.smoothed with
  | none => exact ⟨long, long⟩
  | some old =>
      have oldLong : 1000 ≤ old := by
        simpa [Connection.RttEstimator.smoothedRtt, average] using smoothed
      refine ⟨le_min minimum long, ?_⟩
      -- the delay is subtracted only down to the minimum
      change 1000 ≤ (7 * old + _) / 8
      split_ifs
      · unfold Duration at *
        omega
      · unfold Duration at *
        omega

/-- The operation brings no RTT below a microsecond. -/
def CubicOp.Slow : CubicOp → Prop
  | .initRtt rtt => 1000 ≤ rtt
  | .rttSample _ sample => 1000 ≤ sample
  | _ => True

theorem CubicState.slow_path_safe (cbrt : K → K) (config : CubicConfig K) {initialRtt : Duration}
    (long : 1000 ≤ initialRtt) {ops : List CubicOp} (slow : ∀ op ∈ ops, op.Slow) :
    Along (CubicState.move cbrt) (fun state op => (state.step cbrt op).isSome = true)
      (.new config initialRtt) ops := by
  have start : Slow (CubicState.new config initialRtt).rtt := ⟨long, long⟩
  have gives : ∀ state : CubicState K, ∀ op ∈ ops, Slow state.rtt →
      (state.step cbrt op).isSome = true := by
    intro state op _ estimates
    rw [CubicState.step_isSome]
    cases op with
    | ack => exact fun divides => absurd estimates.2 (Nat.not_le_of_lt divides.2)
    | _ => exact not_false
  have kept : ∀ state : CubicState K, ∀ op ∈ ops, Slow state.rtt →
      Slow (state.move cbrt op).rtt := by
    intro state op found estimates
    have slowOp := slow op found
    cases op with
    | initRtt initRtt => exact estimates.trySetInitRtt slowOp
    | rttSample ackDelay sample => exact estimates.update ackDelay slowOp
    | ack packet now appLimited bytesInFlight =>
        rw [CubicState.move, CubicState.step]
        cases state.cubic.onAck packet now appLimited state.rtt bytesInFlight <;> exact estimates
    | _ => exact estimates
  exact along_of_invariant gives kept start

/-- The packet of `fastPath`, with a sample of a microsecond. -/
theorem CubicState.slow_path_safe_ack :
    Along (CubicState.move id) (fun state op => (state.step id op).isSome = true)
      (.new (CubicConfig.from defaultRecovery : CubicConfig ℚ) defaultInitialRtt)
      [.rttSample 0 1000, .ack ⟨0, 0, some 1000, 1200, .default⟩ 1000 false 0] := by
  refine CubicState.slow_path_safe id _ (by decide) fun op member => ?_
  simp only [List.mem_cons, List.not_mem_nil, or_false] at member
  rcases member with rfl | rfl
  · exact le_refl 1000
  · trivial

end SlowPath

end Tquic.CongestionControl
