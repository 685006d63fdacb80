import Tquic.Connection.Path

/-! The search for the path MTU, after `pmtu.rs`. No size that it probes is below the least size
of a QUIC datagram. -/

set_option autoImplicit false

namespace Tquic.Connection

def maxPacketSizeIpv4 : Nat := 1472

def maxPacketSizeIpv6 : Nat := 1452

def maxProbeCount : Nat := 3

/-- `1200`, the least size of a datagram, is also what is sent before anything is known. -/
def defaultSendUdpPayloadSize : Nat := 1200

structure Dplpmtud where
  shouldProbe : Bool
  currentSize : Nat
  -- The size of the probe that waits for its acknowledgement.
  probeSize : Option Nat
  probeCount : Nat
  -- Zero until a probe is lost for good.
  failedSize : Nat
  maxPmtu : Nat
  currentLarge : defaultSendUdpPayloadSize ≤ currentSize
  probeLarge : ∀ size, probeSize = some size → defaultSendUdpPayloadSize ≤ size
  failedLarge : 0 < failedSize → defaultSendUdpPayloadSize ≤ failedSize
  maxLarge : defaultSendUdpPayloadSize ≤ maxPmtu

namespace Dplpmtud

/-- The setter of the maximum raises every smaller value to the default. -/
def new (enable : Bool) (maxPmtu : Nat) (isIpv6 : Bool)
    (large : defaultSendUdpPayloadSize ≤ maxPmtu) : Dplpmtud :=
  { shouldProbe := enable
    currentSize := defaultSendUdpPayloadSize
    probeSize := none
    probeCount := 0
    failedSize := 0
    maxPmtu :=
      if maxPmtu = defaultSendUdpPayloadSize then
        if isIpv6 then maxPacketSizeIpv6 else maxPacketSizeIpv4
      else maxPmtu
    currentLarge := le_refl _
    probeLarge := fun _ unknown => by cases unknown
    failedLarge := fun positive => absurd positive (lt_irrefl 0)
    maxLarge := by
      split_ifs
      · decide
      · decide
      · exact large }

/-- The upper limit of what is probed. -/
def calMtuCeiling (pmtu : Dplpmtud) (peerMaxUdpPayload : Nat) : Nat :=
  let ceiling := if pmtu.failedSize > 0 then pmtu.failedSize else pmtu.maxPmtu
  if ceiling > peerMaxUdpPayload then peerMaxUdpPayload else ceiling

/-- The largest MTU of an Ethernet is tried at once, later ones half-way. -/
def calProbeSize (pmtu : Dplpmtud) (peerMaxUdpPayload : Nat) : Nat :=
  let ceiling := pmtu.calMtuCeiling peerMaxUdpPayload
  if pmtu.failedSize = 0 ∧ ceiling < 1500 then ceiling else (pmtu.currentSize + ceiling) / 2

variable {peerMaxUdpPayload : Nat}

theorem calMtuCeiling_large (pmtu : Dplpmtud) (large : defaultSendUdpPayloadSize ≤ peerMaxUdpPayload) :
    defaultSendUdpPayloadSize ≤ pmtu.calMtuCeiling peerMaxUdpPayload := by
  have ceiling : defaultSendUdpPayloadSize ≤
      if pmtu.failedSize > 0 then pmtu.failedSize else pmtu.maxPmtu := by
    split_ifs with failed
    · exact pmtu.failedLarge failed
    · exact pmtu.maxLarge
  unfold calMtuCeiling
  dsimp only
  generalize (if pmtu.failedSize > 0 then pmtu.failedSize else pmtu.maxPmtu) = limit at ceiling ⊢
  split_ifs
  · exact large
  · exact ceiling

theorem calProbeSize_large (pmtu : Dplpmtud) (large : defaultSendUdpPayloadSize ≤ peerMaxUdpPayload) :
    defaultSendUdpPayloadSize ≤ pmtu.calProbeSize peerMaxUdpPayload := by
  have ceiling := pmtu.calMtuCeiling_large large
  have current := pmtu.currentLarge
  unfold calProbeSize
  dsimp only
  split_ifs
  · exact ceiling
  · omega

def getProbeSize (pmtu : Dplpmtud) (large : defaultSendUdpPayloadSize ≤ peerMaxUdpPayload) :
    Nat × Dplpmtud :=
  match pmtu.probeSize with
  | some size => (size, pmtu)
  | none =>
    (pmtu.calProbeSize peerMaxUdpPayload,
      { pmtu with
        probeSize := some (pmtu.calProbeSize peerMaxUdpPayload)
        probeLarge := fun size calculated => by
          cases calculated
          exact pmtu.calProbeSize_large large })

theorem getProbeSize_large (pmtu : Dplpmtud)
    (large : defaultSendUdpPayloadSize ≤ peerMaxUdpPayload) :
    defaultSendUdpPayloadSize ≤ (pmtu.getProbeSize large).1 := by
  unfold getProbeSize
  split
  · next size known => exact pmtu.probeLarge size known
  · exact pmtu.calProbeSize_large large

/-- Within one percent of the ceiling the search ends. -/
def checkFinish (pmtu : Dplpmtud) (peerMaxUdpPayload : Nat) : Bool :=
  let ceiling := pmtu.calMtuCeiling peerMaxUdpPayload
  pmtu.currentSize ≥ ceiling || 100 * pmtu.currentSize ≥ 99 * ceiling

/-- The next size is calculated and probed, unless the search ends. -/
def proceed (pmtu : Dplpmtud) (large : defaultSendUdpPayloadSize ≤ peerMaxUdpPayload) : Dplpmtud :=
  { pmtu with
    probeCount := 0
    probeSize := some (pmtu.calProbeSize peerMaxUdpPayload)
    shouldProbe := !pmtu.checkFinish peerMaxUdpPayload
    probeLarge := fun size calculated => by
      cases calculated
      exact pmtu.calProbeSize_large large }

def onPmtuProbeSent (pmtu : Dplpmtud) : Dplpmtud := { pmtu with shouldProbe := false }

def onPmtuProbeAcked (pmtu : Dplpmtud) (pktSize : Nat)
    (large : defaultSendUdpPayloadSize ≤ peerMaxUdpPayload) : Dplpmtud :=
  { pmtu with
    currentSize := max pmtu.currentSize pktSize
    currentLarge := le_trans pmtu.currentLarge (Nat.le_max_left _ _) : Dplpmtud }.proceed large

/-- Only the size that is being probed can fail, after as many attempts as are made. -/
def onPmtuProbeLost (pmtu : Dplpmtud) (pktSize : Nat)
    (large : defaultSendUdpPayloadSize ≤ peerMaxUdpPayload) : Dplpmtud :=
  if probed : pmtu.probeSize = some pktSize then
    if pmtu.probeCount + 1 < maxProbeCount then
      { pmtu with probeCount := pmtu.probeCount + 1, shouldProbe := true }
    else
      { pmtu with
        failedSize := pktSize
        failedLarge := fun _ => pmtu.probeLarge pktSize probed : Dplpmtud }.proceed large
  else pmtu

end Dplpmtud

end Tquic.Connection
