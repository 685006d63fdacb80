import Tquic.Basic

/-! Receive-side flow control of a stream or a connection, after
`connection/flowcontrol.rs`. -/

set_option autoImplicit false

namespace Tquic.Connection

structure FlowControl where
  readOff : Nat
  -- Largest offset observed; for a connection, the sum over its streams.
  recvOff : Nat
  maxData : Nat
  window : Nat
  maxWindow : Nat
  lastUpdated : Option Instant
  deriving DecidableEq, Repr

namespace FlowControl

def new (window maxWindow : Nat) : FlowControl :=
  { readOff := 0, recvOff := 0, maxData := window, window, maxWindow, lastUpdated := none }

def increaseRecvOff (control : FlowControl) (delta : Nat) : FlowControl :=
  { control with recvOff := control.recvOff + delta }

def increaseReadOff (control : FlowControl) (delta : Nat) : FlowControl :=
  { control with readOff := control.readOff + delta }

/-- The available window is smaller than half of the current window. -/
def shouldSendMaxData (control : FlowControl) : Bool :=
  (control.maxData - control.readOff) * 2 < control.window

def maxDataNext (control : FlowControl) : Nat := control.readOff + control.window

def updateMaxData (control : FlowControl) (now : Instant) : FlowControl :=
  { control with maxData := control.maxDataNext, lastUpdated := some now }

def autotuneWindow (control : FlowControl) (now : Instant) (srtt : Duration) : FlowControl :=
  match control.lastUpdated with
  | none => control
  | some lastUpdated =>
    if saturatingDurationSince now lastUpdated < srtt * 2 then
      { control with window := min (control.window * 2) control.maxWindow }
    else control

def ensureWindowLowerBound (control : FlowControl) (minWindow : Nat) : FlowControl :=
  { control with window := max control.window minWindow }

end FlowControl

/-- The nearest number with 53 binary digits, the even one of two: the conversion to `f64`. -/
def nearestDouble (n : Nat) : Nat :=
  let unit := 2 ^ (n.log2 - 52)
  let digits := n / unit
  let rest := n % unit * 2
  if unit < rest || (rest = unit && digits % 2 = 1) then (digits + 1) * unit else digits * unit

/-- `(recv_win as f64 * CONNECTION_WINDOW_FACTOR) as u64` for the factor 1.5. -/
def connectionWindowFor (recvWin : Nat) : Nat :=
  min (nearestDouble (nearestDouble recvWin * 3) / 2) (2 ^ 64 - 1)

end Tquic.Connection
