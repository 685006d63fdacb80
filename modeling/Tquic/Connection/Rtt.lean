import Tquic.Basic

/-! Estimation of the round-trip time of a path, after `connection/rtt.rs`. -/

set_option autoImplicit false

namespace Tquic.Connection

def timerGranularity : Duration := 1000000

structure RttEstimator where
  latestRtt : Duration
  -- `None` until the first sample.
  smoothed : Option Duration
  rttvar : Duration
  minRtt : Duration
  maxRtt : Duration
  deriving DecidableEq, Repr

namespace RttEstimator

def new (initialRtt : Duration) : RttEstimator :=
  { latestRtt := initialRtt, smoothed := none, rttvar := initialRtt / 2, minRtt := initialRtt
    maxRtt := initialRtt }

def smoothedRtt (rtt : RttEstimator) : Duration := rtt.smoothed.getD rtt.latestRtt

def ptoBase (rtt : RttEstimator) : Duration :=
  rtt.smoothedRtt + max (4 * rtt.rttvar) timerGranularity

/-- Only a path without samples takes another initial value. -/
def trySetInitRtt (rtt : RttEstimator) (initRtt : Duration) : RttEstimator :=
  if rtt.smoothed.isSome then rtt
  else
    { latestRtt := initRtt, smoothed := none, rttvar := initRtt / 2, minRtt := initRtt
      maxRtt := initRtt }

def update (rtt : RttEstimator) (ackDelay sample : Duration) : RttEstimator :=
  let minRtt := min rtt.minRtt sample
  let maxRtt := max rtt.maxRtt sample
  match rtt.smoothed with
  | some smoothed =>
    -- The delay is not subtracted if the result were smaller than the minimum.
    let adjusted := if minRtt + ackDelay ≤ sample then sample - ackDelay else sample
    let varSample := if smoothed > adjusted then smoothed - adjusted else adjusted - smoothed
    { latestRtt := sample, minRtt, maxRtt
      rttvar := (3 * rtt.rttvar + varSample) / 4
      smoothed := some ((7 * smoothed + adjusted) / 8) }
  | none =>
    { latestRtt := sample, smoothed := some sample, rttvar := sample / 2, minRtt := sample
      maxRtt := sample }

end RttEstimator

end Tquic.Connection
