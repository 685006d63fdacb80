import Mathlib.Algebra.Group.Nat.Defs
import Tquic.Basic

/-! The delivery rate estimator, after `congestion_control/delivery_rate.rs`. Times are nanoseconds.
A product or a cast that wraps to 64 bits wraps in the model, too. -/

set_option autoImplicit false

namespace Tquic.CongestionControl

def u64Max : Nat := 2 ^ 64 - 1

/-- An integer division; `none` is the panic for a divisor of zero. -/
def divide (numerator divisor : Nat) : Option Nat :=
  if divisor = 0 then none else some (numerator / divisor)

theorem divide_isSome {numerator divisor : Nat} :
    (divide numerator divisor).isSome = true ↔ divisor ≠ 0 := by
  unfold divide
  split_ifs with zero <;> simp [zero]

def asMicros (duration : Duration) : Nat := duration / 1000

structure RateSamplePacketState where
  delivered : Nat
  deliveredTime : Option Instant
  firstSentTime : Option Instant
  isAppLimited : Bool
  txInFlight : Nat
  lost : Nat
  deriving DecidableEq, Repr

def RateSamplePacketState.default : RateSamplePacketState :=
  { delivered := 0, deliveredTime := none, firstSentTime := none, isAppLimited := false
    txInFlight := 0, lost := 0 }

/-- What congestion control reads of a sent packet. -/
structure SentPacket where
  pktNum : Nat
  timeSent : Instant
  timeAcked : Option Instant
  sentSize : Nat
  rateSampleState : RateSamplePacketState
  deriving DecidableEq, Repr

structure RateSample where
  deliveryRate : Nat
  isAppLimited : Bool
  interval : Duration
  delivered : Nat
  priorDelivered : Nat
  priorTime : Option Instant
  sendElapsed : Duration
  ackElapsed : Duration
  rtt : Duration
  deriving DecidableEq, Repr

def RateSample.default : RateSample :=
  { deliveryRate := 0, isAppLimited := false, interval := 0, delivered := 0, priorDelivered := 0
    priorTime := none, sendElapsed := 0, ackElapsed := 0, rtt := 0 }

structure DeliveryRateEstimator where
  delivered : Nat
  deliveredTime : Instant
  firstSentTime : Instant
  -- The last packet marked as application-limited, or 0.
  lastAppLimitedPktNum : Nat
  largestAckedPktNum : Nat
  lastSentPktNum : Nat
  rateSample : RateSample
  deriving DecidableEq, Repr

namespace DeliveryRateEstimator

def new (now : Instant) : DeliveryRateEstimator :=
  { delivered := 0, deliveredTime := now, firstSentTime := now, lastAppLimitedPktNum := 0
    largestAckedPktNum := 0, lastSentPktNum := 0, rateSample := .default }

def isAppLimited (estimator : DeliveryRateEstimator) : Bool := estimator.lastAppLimitedPktNum ≠ 0

def setAppLimited (estimator : DeliveryRateEstimator) (isAppLimited : Bool) :
    DeliveryRateEstimator :=
  { estimator with
    lastAppLimitedPktNum := if isAppLimited then max estimator.lastSentPktNum 1 else 0 }

/-- Upon each packet transmission. -/
def onPacketSent (estimator : DeliveryRateEstimator) (packet : SentPacket)
    (bytesInFlight bytesLost : Nat) : DeliveryRateEstimator × SentPacket :=
  let estimator :=
    -- no packets in flight yet?
    if bytesInFlight = 0 then
      { estimator with firstSentTime := packet.timeSent, deliveredTime := packet.timeSent }
    else estimator
  ({ estimator with lastSentPktNum := packet.pktNum },
    { packet with
      rateSampleState :=
        { firstSentTime := some estimator.firstSentTime
          deliveredTime := some estimator.deliveredTime
          delivered := estimator.delivered
          isAppLimited := estimator.isAppLimited
          txInFlight := bytesInFlight
          lost := bytesLost } })

def noteNewest (estimator : DeliveryRateEstimator) (packet : SentPacket) : DeliveryRateEstimator :=
  if estimator.rateSample.priorTime.isNone ||
      decide (packet.rateSampleState.delivered > estimator.rateSample.priorDelivered) then
    { estimator with
      rateSample :=
        { estimator.rateSample with
          priorDelivered := packet.rateSampleState.delivered
          priorTime := packet.rateSampleState.deliveredTime
          isAppLimited := packet.rateSampleState.isAppLimited }
      firstSentTime := packet.timeSent }
  else estimator

def updateRateSample (estimator : DeliveryRateEstimator) (packet : SentPacket) :
    DeliveryRateEstimator × SentPacket :=
  match packet.rateSampleState.deliveredTime, packet.timeAcked with
  | some priorTime, some timeAcked =>
      let estimator :=
        { estimator with
          delivered := min (estimator.delivered + packet.sentSize) u64Max
          deliveredTime := timeAcked }
      let estimator := estimator.noteNewest packet
      let rateSample :=
        { estimator.rateSample with
          sendElapsed := saturatingDurationSince packet.timeSent
            (packet.rateSampleState.firstSentTime.getD packet.timeSent)
          ackElapsed := saturatingDurationSince estimator.deliveredTime priorTime
          rtt := saturatingDurationSince estimator.deliveredTime packet.timeSent
          delivered := estimator.delivered - estimator.rateSample.priorDelivered }
      ({ estimator with
          rateSample
          largestAckedPktNum := max packet.pktNum estimator.largestAckedPktNum },
        -- Mark the packet as delivered.
        { packet with rateSampleState := { packet.rateSampleState with deliveredTime := none } })
  | _, _ => (estimator, packet)

/-- The longer of the time it took to send and the time it took to acknowledge. -/
def longerElapsed (estimator : DeliveryRateEstimator) : Duration :=
  max estimator.rateSample.sendElapsed estimator.rateSample.ackElapsed

def leaveAppLimited (estimator : DeliveryRateEstimator) : DeliveryRateEstimator :=
  if estimator.isAppLimited &&
      decide (estimator.largestAckedPktNum > estimator.lastAppLimitedPktNum) then
    estimator.setAppLimited false
  else estimator

def measure (estimator : DeliveryRateEstimator) : DeliveryRateEstimator :=
  { estimator with
    rateSample :=
      { estimator.rateSample with
        interval := estimator.longerElapsed
        delivered := estimator.delivered - estimator.rateSample.priorDelivered } }

def generateRateSample (estimator : DeliveryRateEstimator) : Option DeliveryRateEstimator :=
  let estimator := estimator.leaveAppLimited
  -- Nothing delivered on this ACK.
  if estimator.rateSample.priorTime.isNone then some estimator
  else
    let estimator := estimator.measure
    if estimator.rateSample.interval = 0 then some estimator
    else
      (divide (estimator.rateSample.delivered * 1000000 % 2 ^ 64)
        (asMicros estimator.rateSample.interval % 2 ^ 64)).map fun deliveryRate =>
          { estimator with rateSample := { estimator.rateSample with deliveryRate } }

theorem leaveAppLimited_rateSample (estimator : DeliveryRateEstimator) :
    estimator.leaveAppLimited.rateSample = estimator.rateSample := by
  unfold leaveAppLimited
  split_ifs <;> rfl

theorem measure_interval (estimator : DeliveryRateEstimator) :
    estimator.measure.rateSample.interval =
      max estimator.rateSample.sendElapsed estimator.rateSample.ackElapsed := rfl

/-! ## Runs -/

end DeliveryRateEstimator

structure RateState where
  estimator : DeliveryRateEstimator
  packets : List SentPacket
  deriving DecidableEq, Repr

inductive RateOp where
  | send (pktNum sentSize : Nat) (timeSent : Instant) (bytesInFlight bytesLost : Nat)
  /-- The packet at an index is acknowledged. -/
  | ack (index : Nat) (timeAcked : Instant)
  | generate
  | setAppLimited (isAppLimited : Bool)
  deriving DecidableEq, Repr

namespace RateState

def new (now : Instant) : RateState := { estimator := .new now, packets := [] }

def step (state : RateState) : RateOp → Option RateState
  | .send pktNum sentSize timeSent bytesInFlight bytesLost =>
      let packet : SentPacket :=
        { pktNum, timeSent, timeAcked := none, sentSize, rateSampleState := .default }
      let (estimator, packet) := state.estimator.onPacketSent packet bytesInFlight bytesLost
      some { estimator, packets := state.packets ++ [packet] }
  | .ack index timeAcked =>
      match state.packets[index]? with
      | none => some state
      | some packet =>
          let (estimator, packet) :=
            state.estimator.updateRateSample { packet with timeAcked := some timeAcked }
          some { estimator, packets := state.packets.set index packet }
  | .generate =>
      state.estimator.generateRateSample.map fun estimator => { state with estimator }
  | .setAppLimited isAppLimited =>
      some { state with estimator := state.estimator.setAppLimited isAppLimited }

/-- The state after an operation. A panic leaves it as it was. -/
def move (state : RateState) (op : RateOp) : RateState := (state.step op).getD state

end RateState

end Tquic.CongestionControl
