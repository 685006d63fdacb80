import Mathlib.Algebra.Group.Nat.Defs
import Tquic.Basic

/-! The token bucket that paces packets, after `congestion_control/pacing.rs`. Tokens and sizes are
bytes, durations are nanoseconds. Where the source cuts or wraps to 64 bits, so does the model. -/

set_option autoImplicit false

namespace Tquic.CongestionControl

def minBurstPacketNum : Nat := 10

def maxBurstPacketNum : Nat := 128

def nanosPerSec : Nat := 1000000000

structure Pacer where
  enabled : Bool
  -- Bytes that could burst during a pacing granularity.
  capacity : Nat
  tokens : Nat
  lastCwnd : Nat
  lastSchedTime : Instant
  granularity : Duration
  deriving DecidableEq, Repr

namespace Pacer

def updateCapacity (pacer : Pacer) (cwnd : Nat) (srtt : Duration) (mtu : Nat) : Pacer :=
  let capacity := cwnd * pacer.granularity / max srtt 1000000 % 2 ^ 64
  { pacer with
    capacity := min (max capacity (minBurstPacketNum * mtu)) (maxBurstPacketNum * mtu) }

def new (enabled : Bool) (srtt : Duration) (cwnd mtu : Nat) (now : Instant)
    (granularity : Duration) : Pacer :=
  let pacer : Pacer :=
    { enabled, capacity := 0, tokens := 0, lastCwnd := cwnd, lastSchedTime := now, granularity }
  let pacer := pacer.updateCapacity cwnd srtt mtu
  { pacer with tokens := pacer.capacity }

/-- Consume tokens after a packet is actually sent. -/
def onSent (pacer : Pacer) (bytesSent : Nat) : Pacer :=
  if pacer.enabled then { pacer with tokens := pacer.tokens - bytesSent } else pacer

/-- Bytes that accrue in a time, rounded down and cut to 64 bits. -/
def accrued (pacingRate : Nat) (elapsed : Duration) : Nat :=
  pacingRate * elapsed / nanosPerSec % 2 ^ 64

def adapt (pacer : Pacer) (srtt : Duration) (cwnd mtu : Nat) : Pacer :=
  if cwnd ≠ pacer.lastCwnd then
    let adapted := pacer.updateCapacity cwnd srtt mtu
    { adapted with tokens := min adapted.capacity adapted.tokens, lastCwnd := cwnd }
  else pacer

/-- Refill the tokens. The sum saturates at `u64::MAX`, which the capacity does not exceed. -/
def refill (pacer : Pacer) (pacingRate : Nat) (now : Instant) : Pacer :=
  { pacer with
    tokens := min
      (pacer.tokens + accrued pacingRate (saturatingDurationSince now pacer.lastSchedTime))
      pacer.capacity
    lastSchedTime := now }

/-- Return `none` if a packet can be sent immediately, or the time at which it is supposed to be.
The product of the waiting time is one of `u64`. -/
def schedule (pacer : Pacer) (bytesToSend pacingRate : Nat) (srtt : Duration) (cwnd mtu : Nat)
    (now : Instant) : Option Instant × Pacer :=
  if !pacer.enabled || srtt = 0 || cwnd = 0 || pacingRate = 0 then (none, pacer)
  else
    let pacer := pacer.adapt srtt cwnd mtu
    -- If tokens are enough, no need to wait and update.
    if pacer.tokens ≥ bytesToSend then (none, pacer)
    else
      let pacer := pacer.refill pacingRate now
      if bytesToSend ≤ pacer.tokens then (none, pacer)
      else
        let timeToWait : Duration :=
          (bytesToSend - pacer.tokens) * nanosPerSec % 2 ^ 64 / max pacingRate 1
        (some (pacer.lastSchedTime + timeToWait), pacer)

end Pacer

end Tquic.CongestionControl
