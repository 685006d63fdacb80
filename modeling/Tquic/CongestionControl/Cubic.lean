import Mathlib.Algebra.Order.Field.Basic
import Mathlib.Algebra.Order.Floor.Defs
import Tquic.CongestionControl.DeliveryRate
import Tquic.Connection.Rtt

/-! The Cubic congestion controller, after `congestion_control/cubic.rs` and
`congestion_control/hystart_plus_plus.rs`. Numbers of type `f64` are those of an ordered field, so
that their arithmetic is exact; the cubic root is a parameter. -/

set_option autoImplicit false

namespace Tquic.CongestionControl

open Connection (RttEstimator)

universe u

/-! ## HyStart++ -/

/-- Lower bound of the delay increase sensitivity. -/
def minRttThresh : Duration := 4000000

/-- Upper bound of the delay increase sensitivity. -/
def maxRttThresh : Duration := 16000000

/-- A fraction of RTT to compute the delay threshold. -/
def minRttDivisor : Nat := 8

/-- The least sample counts in one round. -/
def nRttSample : Nat := 8

/-- A divisor factor to make slow start less aggressive. -/
def cssGrowthDivisor : Nat := 4

/-- The max lasting rounds in Conservative Slow Start. -/
def cssRounds : Nat := 5

/-- The max congestion window growth in MSS. -/
def hystartL : Nat := 64

inductive HystartPhase where
  | inStandardSlowStart
  | inConservativeSlowStart
  | exited
  deriving DecidableEq, Repr

structure HystartPlusPlus where
  enabled : Bool
  phase : HystartPhase
  lastRoundMinRtt : Duration
  currentRoundMinRtt : Duration
  rttSampleCount : Nat
  lastSentPktNum : Nat
  maxAckedPacketNum : Nat
  -- The end packet number of the current round.
  windowEnd : Nat
  cssRoundCount : Nat
  cssBaselineMinRtt : Duration
  deriving DecidableEq, Repr

namespace HystartPlusPlus

def new (enabled : Bool) : HystartPlusPlus where
  enabled := enabled
  phase := .inStandardSlowStart
  lastRoundMinRtt := durationMax
  currentRoundMinRtt := durationMax
  rttSampleCount := 0
  lastSentPktNum := 0
  maxAckedPacketNum := 0
  windowEnd := 0
  cssRoundCount := 0
  cssBaselineMinRtt := durationMax

def hasExited (hystart : HystartPlusPlus) : Bool := hystart.phase = .exited

def onSent (hystart : HystartPlusPlus) (pktNum : Nat) : HystartPlusPlus :=
  { hystart with lastSentPktNum := pktNum }

def onAck (hystart : HystartPlusPlus) (pktNum : Nat) (rtt : Duration) : HystartPlusPlus :=
  if !hystart.enabled && !hystart.hasExited then hystart
  else
    let hystart :=
      { hystart with
        maxAckedPacketNum := max pktNum hystart.maxAckedPacketNum
        currentRoundMinRtt := min hystart.currentRoundMinRtt rtt
        rttSampleCount := hystart.rttSampleCount + 1 }
    match hystart.phase with
    | .inStandardSlowStart =>
        let rttThresh :=
          max minRttThresh (min (hystart.lastRoundMinRtt / minRttDivisor) maxRttThresh)
        if nRttSample ≤ hystart.rttSampleCount ∧ hystart.currentRoundMinRtt ≠ durationMax ∧
            hystart.lastRoundMinRtt ≠ durationMax ∧
            min (hystart.lastRoundMinRtt + rttThresh) durationMax ≤ hystart.currentRoundMinRtt then
          { hystart with
            cssBaselineMinRtt := hystart.currentRoundMinRtt
            phase := .inConservativeSlowStart }
        else hystart
    | .inConservativeSlowStart =>
        if nRttSample ≤ hystart.rttSampleCount ∧
            hystart.currentRoundMinRtt < hystart.cssBaselineMinRtt then
          -- Slow start exit was spurious, resume standard slow start.
          { hystart with
            cssBaselineMinRtt := durationMax
            phase := .inStandardSlowStart
            cssRoundCount := 0 }
        else hystart
    | .exited => hystart

/-- Update round after processing ranges of ACKs. -/
def endAck (hystart : HystartPlusPlus) : HystartPlusPlus :=
  if !hystart.enabled && !hystart.hasExited then hystart
  else if hystart.maxAckedPacketNum > hystart.windowEnd then
    let hystart :=
      { hystart with
        windowEnd := hystart.lastSentPktNum
        lastRoundMinRtt := hystart.currentRoundMinRtt
        currentRoundMinRtt := durationMax
        rttSampleCount := 0 }
    if hystart.phase = .inConservativeSlowStart then
      if hystart.cssRoundCount + 1 ≥ cssRounds then
        -- Enter congestion avoidance.
        { hystart with cssRoundCount := 0, phase := .exited }
      else { hystart with cssRoundCount := hystart.cssRoundCount + 1 }
    else hystart
  else hystart

def onCongestionEvent (hystart : HystartPlusPlus) : HystartPlusPlus :=
  if hystart.enabled then { hystart with windowEnd := 0, phase := .exited } else hystart

/-- Congestion window increment. -/
def cwndIncrement (hystart : HystartPlusPlus) (ackedBytes maxDatagramSize : Nat) : Nat :=
  match hystart.phase with
  | .inStandardSlowStart => min ackedBytes (hystartL * maxDatagramSize)
  | .inConservativeSlowStart => min (ackedBytes / cssGrowthDivisor) (hystartL * maxDatagramSize)
  | .exited => 0

end HystartPlusPlus

/-! ## Configuration -/

structure RecoveryConfig where
  maxDatagramSize : Nat
  minCongestionWindow : Nat
  initialCongestionWindow : Nat
  slowStartThresh : Nat
  initialRtt : Duration
  /-- The setter keeps it at `DEFAULT_SEND_UDP_PAYLOAD_SIZE` or more. -/
  datagrams : 1200 ≤ maxDatagramSize

structure CubicConfig (K : Type u) where
  c : K
  beta : K
  minCongestionWindow : Nat
  initialCongestionWindow : Nat
  slowStartThresh : Nat
  maxDatagramSize : Nat
  hystartEnabled : Bool
  fastConvergenceEnabled : Bool
  initialRtt : Option Duration
  datagrams : 0 < maxDatagramSize

section

variable {K : Type u} [Field K]

def cubicC : K := 4 / 10

def cubicBeta : K := 7 / 10

def cubicAlpha (beta : K) : K := 3 * (1 - beta) / (1 + beta)

def CubicConfig.from (conf : RecoveryConfig) : CubicConfig K where
  c := cubicC
  beta := cubicBeta
  minCongestionWindow := min (conf.minCongestionWindow * conf.maxDatagramSize) u64Max
  initialCongestionWindow := min (conf.initialCongestionWindow * conf.maxDatagramSize) u64Max
  slowStartThresh := min (conf.slowStartThresh * conf.maxDatagramSize) u64Max
  maxDatagramSize := conf.maxDatagramSize
  hystartEnabled := true
  fastConvergenceEnabled := true
  initialRtt := some conf.initialRtt
  datagrams := Nat.lt_of_lt_of_le (by decide) conf.datagrams

end

/-! ## The controller -/

structure CongestionStats where
  bytesInFlight : Nat
  bytesSentInSlowStart : Nat
  bytesAckedInSlowStart : Nat
  bytesLostInSlowStart : Nat
  bytesSentInTotal : Nat
  bytesAckedInTotal : Nat
  bytesLostInTotal : Nat
  deriving DecidableEq, Repr

def CongestionStats.default : CongestionStats :=
  { bytesInFlight := 0, bytesSentInSlowStart := 0, bytesAckedInSlowStart := 0
    bytesLostInSlowStart := 0, bytesSentInTotal := 0, bytesAckedInTotal := 0
    bytesLostInTotal := 0 }

def saturatingAdd (left right : Nat) : Nat := min (left + right) u64Max

/-- The RTT of a path without one, `INITIAL_RTT`. -/
def defaultInitialRtt : Duration := 333000000

structure Cubic (K : Type u) where
  config : CubicConfig K
  hystart : HystartPlusPlus
  cwnd : Nat
  ssthresh : Nat
  -- The window size just before the window is reduced in the last congestion event.
  wMax : K
  k : K
  alpha : K
  wEst : K
  cwndInc : Nat
  recoveryEpochStart : Option Instant
  lastSentTime : Option Instant
  stats : CongestionStats
  pacingRate : Nat
  minPacingRate : Option Nat
  initialRtt : Duration
  /-- It is a microsecond or more. -/
  measurable : 1000 ≤ initialRtt

namespace Cubic

variable {K : Type u} [Field K] [LinearOrder K] [FloorSemiring K]

/-- The cast of a float to `u64`. -/
def asU64 (value : K) : Nat := min ⌊value⌋₊ u64Max

omit [LinearOrder K] [FloorSemiring K] in
def asSecs (duration : Duration) : K := (duration : K) / 1000000000

def new (config : CubicConfig K) : Cubic K :=
  let initialRtt := max (config.initialRtt.getD defaultInitialRtt) 1000
  { config
    hystart := .new config.hystartEnabled
    cwnd := config.initialCongestionWindow
    ssthresh := config.slowStartThresh
    wMax := 0
    k := 0
    alpha := cubicAlpha config.beta
    wEst := 0
    cwndInc := 0
    recoveryEpochStart := none
    lastSentTime := none
    stats := .default
    pacingRate := asU64 ((config.initialCongestionWindow : K) / asSecs initialRtt)
    minPacingRate := none
    initialRtt
    measurable := Nat.le_max_right _ _ }

def inSlowStart (cubic : Cubic K) : Bool := cubic.cwnd < cubic.ssthresh

def inRecovery (cubic : Cubic K) (sentTime : Instant) : Bool :=
  cubic.recoveryEpochStart.any fun start => sentTime ≤ start

/-- `W_cubic(t) = C*(t-K)^3 + W_max`. -/
def wCubic (cubic : Cubic K) (t : Duration) : K :=
  cubic.config.c * (asSecs t - cubic.k) ^ 3 * cubic.config.maxDatagramSize + cubic.wMax

/-- Window estimation to achieve approximately the same average window size as Reno. -/
def estimate (cubic : Cubic K) (ackedBytes : Nat) : K :=
  cubic.wEst + cubic.alpha * ackedBytes / cubic.cwnd * cubic.config.maxDatagramSize

/-- `K = cubic_root((W_max - cwnd_epoch)/C)`. -/
def cubicK (cbrt : K → K) (cubic : Cubic K) (cwnd : Nat) : K :=
  if cubic.wMax > cwnd then
    cbrt ((cubic.wMax - cwnd) / cubic.config.maxDatagramSize / cubic.config.c)
  else 0

def onSent (cubic : Cubic K) (packet : SentPacket) (bytesInFlight : Nat) : Cubic K :=
  let recoveryEpochStart :=
    match cubic.lastSentTime, cubic.recoveryEpochStart with
    -- Shifted later in time by the amount of the idle period.
    | some lastSentTime, some start =>
        if bytesInFlight = 0 then
          some (start + saturatingDurationSince packet.timeSent lastSentTime)
        else some start
    | _, start => start
  { cubic with
    recoveryEpochStart
    lastSentTime := some packet.timeSent
    hystart := cubic.hystart.onSent packet.pktNum
    stats :=
      { cubic.stats with
        bytesInFlight
        bytesSentInTotal := saturatingAdd cubic.stats.bytesSentInTotal packet.sentSize
        bytesSentInSlowStart :=
          if cubic.inSlowStart then
            saturatingAdd cubic.stats.bytesSentInSlowStart packet.sentSize
          else cubic.stats.bytesSentInSlowStart } }

/-! ### Acknowledgements -/

def countAcked (cubic : Cubic K) (ackedBytes bytesInFlight : Nat) : Cubic K :=
  { cubic with
    stats :=
      { cubic.stats with
        bytesInFlight
        bytesAckedInTotal := saturatingAdd cubic.stats.bytesAckedInTotal ackedBytes
        bytesAckedInSlowStart :=
          if cubic.inSlowStart then saturatingAdd cubic.stats.bytesAckedInSlowStart ackedBytes
          else cubic.stats.bytesAckedInSlowStart } }

def growInSlowStart (cubic : Cubic K) (packet : SentPacket) (rtt : RttEstimator) : Cubic K :=
  { cubic with
    cwnd := saturatingAdd cubic.cwnd
      (cubic.hystart.cwndIncrement packet.sentSize cubic.config.maxDatagramSize)
    hystart := cubic.hystart.onAck packet.pktNum rtt.latestRtt }

/-- No congestion event happened. Initialize here. -/
def startEpoch (cubic : Cubic K) (now : Instant) : Cubic K :=
  { cubic with
    recoveryEpochStart := some now
    wMax := cubic.cwnd
    k := 0
    wEst := cubic.cwnd
    alpha := cubicAlpha cubicBeta }

/-- The window before it is cut to whole datagrams. -/
def nextCwnd (cubic : Cubic K) (sinceRecovery : Duration) (target : K) : Nat :=
  if cubic.wCubic sinceRecovery < cubic.wEst then
    -- The Reno-friendly region.
    max cubic.cwnd (asU64 cubic.wEst)
  else
    cubic.cwnd + asU64 ((target - cubic.cwnd) / cubic.cwnd * (cubic.config.maxDatagramSize : K))

def addIncrement (cubic : Cubic K) (cwnd : Nat) : Option (Cubic K) :=
  let cwndInc := cubic.cwndInc + (cwnd - cubic.cwnd)
  -- The remainder is that of the same division.
  (divide cwndInc cubic.config.maxDatagramSize).map fun datagrams =>
    { cubic with
      cwnd := cubic.cwnd + datagrams * cubic.config.maxDatagramSize
      cwndInc := cwndInc % cubic.config.maxDatagramSize }

def avoidCongestion (cubic : Cubic K) (ackedBytes : Nat) (now : Instant) (rtt : RttEstimator) :
    Option (Cubic K) :=
  let sinceRecovery :=
    match cubic.recoveryEpochStart with
    | some start => saturatingDurationSince now start
    | none => 0
  let cubic := if cubic.recoveryEpochStart.isSome then cubic else cubic.startEpoch now
  let ahead := cubic.wCubic (min (sinceRecovery + rtt.smoothedRtt) durationMax)
  let target := max (cubic.cwnd : K) (min ahead (15 / 10 * (cubic.cwnd : K)))
  let cubic := { cubic with wEst := cubic.estimate ackedBytes }
  let cubic := if cubic.wEst ≥ cubic.wMax then { cubic with alpha := 1 } else cubic
  cubic.addIncrement (cubic.nextCwnd sinceRecovery target)

def updatePacingRate (cubic : Cubic K) (rtt : RttEstimator) : Option (Cubic K) :=
  let quotient :=
    if rtt.smoothedRtt = 0 then divide (cubic.cwnd * 1000000) (asMicros cubic.initialRtt)
    else divide (cubic.cwnd * 1000000) (asMicros rtt.smoothedRtt)
  quotient.map fun quotient =>
    let pacingRate := quotient % 2 ^ 64
    { cubic with
      pacingRate
      minPacingRate :=
        match cubic.minPacingRate with
        | none => some pacingRate
        | some minPacingRate => some (min minPacingRate pacingRate) }

def onAck (cubic : Cubic K) (packet : SentPacket) (now : Instant) (appLimited : Bool)
    (rtt : RttEstimator) (bytesInFlight : Nat) : Option (Cubic K) :=
  let counted := cubic.countAcked packet.sentSize bytesInFlight
  if appLimited || counted.inRecovery packet.timeSent || decide (rtt.smoothedRtt = 0) then
    some counted
  else do
    let grown ←
      if counted.inSlowStart then some (counted.growInSlowStart packet rtt)
      else counted.avoidCongestion packet.sentSize now rtt
    grown.updatePacingRate rtt

def endAck (cubic : Cubic K) : Cubic K :=
  if cubic.hystart.hasExited then cubic
  else
    let hystart := cubic.hystart.endAck
    if hystart.hasExited then { cubic with hystart, ssthresh := cubic.cwnd }
    else { cubic with hystart }

/-! ### Congestion -/

def countLost (cubic : Cubic K) (lostBytes bytesInFlight : Nat) : Cubic K :=
  { cubic with
    stats :=
      { cubic.stats with
        bytesInFlight
        bytesLostInTotal := saturatingAdd cubic.stats.bytesLostInTotal lostBytes
        bytesLostInSlowStart :=
          if cubic.inSlowStart then saturatingAdd cubic.stats.bytesLostInSlowStart lostBytes
          else cubic.stats.bytesLostInSlowStart } }

/-- The multiplicative decrease. -/
def reduceWindow (cbrt : K → K) (cubic : Cubic K) (now : Instant) : Cubic K :=
  let wMax :=
    if cubic.config.fastConvergenceEnabled then
      if (cubic.cwnd : K) < cubic.wMax then (cubic.cwnd : K) * (1 + cubic.config.beta) / 2
      else cubic.cwnd
    else cubic.wMax
  let ssthresh :=
    max (asU64 ((cubic.cwnd : K) * cubic.config.beta)) (2 * cubic.config.maxDatagramSize)
  let cwnd := max ssthresh (2 * cubic.config.maxDatagramSize)
  { cubic with
    recoveryEpochStart := some now
    wMax
    ssthresh
    cwnd
    k := cubicK cbrt { cubic with wMax } cwnd
    cwndInc := asU64 ((cubic.cwndInc : K) * cubic.config.beta)
    wEst := cwnd
    alpha := cubicAlpha cubicBeta
    hystart := cubic.hystart.onCongestionEvent }

def onCongestionEvent (cbrt : K → K) (cubic : Cubic K) (now : Instant) (packet : SentPacket)
    (isPersistentCongestion : Bool) (lostBytes bytesInFlight : Nat) : Cubic K :=
  let counted := cubic.countLost lostBytes bytesInFlight
  if counted.inRecovery packet.timeSent then counted
  else
    let reduced := counted.reduceWindow cbrt now
    if isPersistentCongestion then
      { reduced with
        recoveryEpochStart := none
        wMax := reduced.cwnd
        ssthresh := max reduced.config.minCongestionWindow
          (asU64 ((reduced.cwnd : K) * reduced.config.beta))
        cwndInc := 0
        cwnd := reduced.config.minCongestionWindow }
    else reduced

end Cubic

/-! ## Runs -/

/-- The controller of a path and the RTT estimator of the path. -/
structure CubicState (K : Type u) where
  cubic : Cubic K
  rtt : RttEstimator

inductive CubicOp where
  | initRtt (initRtt : Duration)
  | rttSample (ackDelay sample : Duration)
  | sent (packet : SentPacket) (bytesInFlight : Nat)
  | ack (packet : SentPacket) (now : Instant) (appLimited : Bool) (bytesInFlight : Nat)
  | endAck
  | congestion (now : Instant) (packet : SentPacket) (isPersistentCongestion : Bool)
      (lostBytes bytesInFlight : Nat)
  deriving DecidableEq, Repr

namespace CubicState

variable {K : Type u} [Field K] [LinearOrder K] [FloorSemiring K]

def new (config : CubicConfig K) (initialRtt : Duration) : CubicState K :=
  { cubic := .new config, rtt := .new initialRtt }

def step (cbrt : K → K) (state : CubicState K) : CubicOp → Option (CubicState K)
  | .initRtt initRtt => some { state with rtt := state.rtt.trySetInitRtt initRtt }
  | .rttSample ackDelay sample => some { state with rtt := state.rtt.update ackDelay sample }
  | .sent packet bytesInFlight =>
      some { state with cubic := state.cubic.onSent packet bytesInFlight }
  | .ack packet now appLimited bytesInFlight =>
      (state.cubic.onAck packet now appLimited state.rtt bytesInFlight).map fun cubic =>
        { state with cubic }
  | .endAck => some { state with cubic := state.cubic.endAck }
  | .congestion now packet isPersistentCongestion lostBytes bytesInFlight =>
      some { state with
        cubic := state.cubic.onCongestionEvent cbrt now packet isPersistentCongestion lostBytes
          bytesInFlight }

/-- The state after an operation. A panic leaves it as it was. -/
def move (cbrt : K → K) (state : CubicState K) (op : CubicOp) : CubicState K :=
  (state.step cbrt op).getD state

end CubicState

end Tquic.CongestionControl
