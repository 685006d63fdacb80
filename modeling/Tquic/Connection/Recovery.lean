import Tquic.Connection.Rtt
import Tquic.Connection.Space
import Tquic.Ranges

/-! Loss recovery of a path, after `connection/recovery.rs`. The congestion controller, the
pacer, the statistics and the logging of events are left out: they observe the packets
and change none of the state below. -/

set_option autoImplicit false

namespace Tquic.Connection

open Lib

structure HandshakeStatus where
  derivedHandshakeKeys : Bool
  peerVerifiedAddress : Bool
  completed : Bool
  deriving DecidableEq, Repr

structure AckedPacket where
  pktNum : Nat
  timeSent : Instant
  rtt : Duration
  deriving DecidableEq, Repr

def initialPacketThreshold : Nat := 3

def maxPtoProbesCount : Nat := 2

structure Recovery extends InFlight where
  maxAckDelay : Duration
  ptoLinearFactor : Nat
  maxPto : Duration
  ptoCount : Nat
  lossDetectionTimer : Option Instant
  pktThresh : Nat
  -- Multiplication with `time_thresh`, which the code does in floating point.
  timeThresh : Duration → Duration
  rtt : RttEstimator

namespace Recovery

variable {φ : Type}

def new (maxAckDelay : Duration) (ptoLinearFactor : Nat) (maxPto initialRtt : Duration)
    (timeThresh : Duration → Duration) : Recovery :=
  { InFlight.zero with
    maxAckDelay, ptoLinearFactor, maxPto
    ptoCount := 0
    lossDetectionTimer := none
    pktThresh := initialPacketThreshold
    timeThresh
    rtt := .new initialRtt }

/-! ## Timers -/

/-- The spaces that can matter for a path, in the order of the search. -/
def candidates (spaceId : SpaceId) : List SpaceId :=
  if spaceId ≠ .initial ∧ spaceId ≠ .handshake then [.initial, .handshake, spaceId]
  else [.initial, .handshake, .data]

/-- The order of `Option<Instant>`: `None` comes first. -/
def timeLt : Option Instant → Option Instant → Bool
  | none, some _ => true
  | some left, some right => left < right
  | _, none => false

def getLossTimeAndSpace (spaceId : SpaceId) (spaces : PacketNumSpaceMap φ) :
    Option Instant × SpaceId :=
  (candidates spaceId).foldl
    (fun best candidate =>
      match spaces.get candidate with
      | none => best
      | some space =>
        if best.1.isNone || (space.lossTime.isSome && timeLt space.lossTime best.1) then
          (space.lossTime, candidate)
        else best)
    (none, .initial)

/-- `2_u32.saturating_pow` of the number of timeouts beyond the linear ones. -/
def backoff (recovery : Recovery) : Nat :=
  min (2 ^ ((recovery.ptoCount - recovery.ptoLinearFactor) % 2 ^ 32)) (2 ^ 32 - 1)

def calculatePto (recovery : Recovery) : Duration :=
  min (recovery.rtt.ptoBase * recovery.backoff) recovery.maxPto

def ptoWithAckDelay (recovery : Recovery) (duration : Duration) : Duration :=
  min (duration + recovery.maxAckDelay * recovery.backoff) recovery.maxPto

/-- The search loop of `get_pto_time_and_space`. -/
def ptoLoop (recovery : Recovery) (spaces : PacketNumSpaceMap φ) (status : HandshakeStatus) :
    Duration → Option Instant × SpaceId → List SpaceId → Option Instant × SpaceId
  | _, best, [] => best
  | duration, best, candidate :: rest =>
    match spaces.get candidate with
    | none => ptoLoop recovery spaces status duration best rest
    | some space =>
      if space.ackElicitingInFlight = 0 then
        ptoLoop recovery spaces status duration best rest
      -- No timer for application data until the handshake is confirmed.
      else if candidate = .data ∧ status.completed = false then best
      else
        let duration :=
          if candidate = .data then recovery.ptoWithAckDelay duration else duration
        let newTime := space.timeOfLastSentAckElicitingPkt.map fun time => time + (duration : Int)
        if best.1.isNone || timeLt newTime best.1 then
          ptoLoop recovery spaces status duration (newTime, candidate) rest
        else ptoLoop recovery spaces status duration best rest

def getPtoTimeAndSpace (recovery : Recovery) (spaceId : SpaceId) (spaces : PacketNumSpaceMap φ)
    (status : HandshakeStatus) (now : Instant) : Option Instant × SpaceId :=
  let duration := recovery.calculatePto
  if recovery.ackElicitingInFlight = 0 then
    (some (now + duration), if status.derivedHandshakeKeys then .handshake else .initial)
  else ptoLoop recovery spaces status duration (none, .initial) (candidates spaceId)

def setLossDetectionTimer (recovery : Recovery) (spaceId : SpaceId) (spaces : PacketNumSpaceMap φ)
    (status : HandshakeStatus) (now : Instant) : Recovery :=
  match (getLossTimeAndSpace spaceId spaces).1 with
  | some lossTime => { recovery with lossDetectionTimer := some lossTime }
  | none =>
    if recovery.ackElicitingInFlight = 0 ∧ status.peerVerifiedAddress = true then
      { recovery with lossDetectionTimer := none }
    else
      { recovery with
        lossDetectionTimer := (recovery.getPtoTimeAndSpace spaceId spaces status now).1 }

/-! ## Sending -/

def onPacketSent (recovery : Recovery) (pkt : SentPacket φ) (spaceId : SpaceId)
    (spaces : PacketNumSpaceMap φ) (status : HandshakeStatus) (now : Instant) :
    Recovery × PacketNumSpaceMap φ :=
  match spaces.get spaceId with
  | none => (recovery, spaces)
  | some space =>
    let pkt := { pkt with timeSent := now }
    let space : PacketNumSpace φ :=
      { space with
        toInFlight := space.increase pkt
        sent := space.sent ++ [pkt]
        consecutiveNonAckElicitingSent :=
          if pkt.ackEliciting then 0 else space.consecutiveNonAckElicitingSent + 1
        timeOfLastSentAckElicitingPkt :=
          if pkt.inFlight && pkt.ackEliciting then some now
          else space.timeOfLastSentAckElicitingPkt
        lossProbes :=
          if pkt.inFlight && pkt.ackEliciting then space.lossProbes - 1 else space.lossProbes
        history := { space.history with recorded := space.history.recorded ++ pkt.frames } }
    let recovery := { recovery with toInFlight := recovery.increase pkt }
    let spaces := spaces.set spaceId space
    if pkt.inFlight then (recovery.setLossDetectionTimer spaceId spaces status now, spaces)
    else (recovery, spaces)

/-! ## Acknowledgements -/

/-- The variables of `detect_acked_packets`. -/
structure AckScan (φ : Type) where
  total : InFlight
  own : InFlight
  acked : List φ
  newlyAcked : List AckedPacket
  largestNewlyAckedPktNum : Nat
  largestNewlyAckedSentTime : Instant
  newlyAckElicitingPktAcked : Bool

def AckScan.ack (scan : AckScan φ) (pkt : SentPacket φ) (now : Instant) : AckScan φ :=
  { total := scan.total.decrease pkt
    own := scan.own.decrease pkt
    acked := scan.acked ++ pkt.frames
    newlyAcked := scan.newlyAcked ++
      [⟨pkt.pktNum, pkt.timeSent, saturatingDurationSince now pkt.timeSent⟩]
    largestNewlyAckedPktNum := pkt.pktNum
    largestNewlyAckedSentTime := pkt.timeSent
    newlyAckElicitingPktAcked := pkt.ackEliciting || scan.newlyAckElicitingPktAcked }

def markAcked (now : Instant) (pkt : SentPacket φ) : SentPacket φ :=
  { pkt with timeAcked := some now, frames := [] }

/-- The inner loop of `detect_acked_packets`. Returns the packets it has passed and the ones
that are left for the next range. -/
def sentPktLoop (now : Instant) (range : Range) :
    AckScan φ → List (SentPacket φ) → List (SentPacket φ) × List (SentPacket φ) × AckScan φ
  | scan, [] => ([], [], scan)
  | scan, pkt :: rest =>
    if pkt.pktNum < range.start || pkt.timeAcked.isSome then
      let result := sentPktLoop now range scan rest
      (pkt :: result.1, result.2)
    else if pkt.pktNum ≥ range.stop then ([], pkt :: rest, scan)
    else
      let result := sentPktLoop now range (scan.ack pkt now) rest
      (markAcked now pkt :: result.1, result.2)

/-- The outer loop of `detect_acked_packets`. -/
def rangesLoop (now : Instant) :
    AckScan φ → List Range → List (SentPacket φ) → List (SentPacket φ) × AckScan φ
  | scan, [], sent => (sent, scan)
  | scan, range :: ranges, sent =>
    let passed := sentPktLoop now range scan sent
    let result := rangesLoop now passed.2.2 ranges passed.2.1
    (passed.1 ++ result.1, result.2)

/-- Mark the packets that an ACK frame acknowledges. Returns the packets that are newly
acknowledged and a sample of the round-trip time. -/
def detectAckedPackets (recovery : Recovery) (ranges : RangeSet) (space : PacketNumSpace φ)
    (now : Instant) : (List AckedPacket × Option Duration) × Recovery × PacketNumSpace φ :=
  let result := rangesLoop now
    ⟨recovery.toInFlight, space.toInFlight, space.acked, [], 0, now, false⟩ ranges.iter space.sent
  let scan := result.2
  let sample :=
    if scan.largestNewlyAckedPktNum = space.largestAckedPkt ∧ scan.newlyAckElicitingPktAcked = true
    then some (saturatingDurationSince now scan.largestNewlyAckedSentTime)
    else none
  ((scan.newlyAcked, sample), { recovery with toInFlight := scan.total },
    { space with toInFlight := scan.own, sent := result.1, acked := scan.acked })

/-! ## Losses -/

/-- The variables of `detect_lost_packets`. -/
structure LossScan (φ : Type) where
  total : InFlight
  own : InFlight
  lost : List φ
  lossTime : Option Instant
  lostPackets : Nat
  lostBytes : Nat

def LossScan.lose (scan : LossScan φ) (pkt : SentPacket φ) : LossScan φ :=
  { scan with
    total := scan.total.decrease pkt
    own := scan.own.decrease pkt
    lost := scan.lost ++ pkt.frames
    lostPackets := scan.lostPackets + 1
    lostBytes := if pkt.inFlight then scan.lostBytes + pkt.sentSize else scan.lostBytes }

def markLost (now : Instant) (pkt : SentPacket φ) : SentPacket φ :=
  { pkt with timeLost := some now, frames := [] }

/-- The loop of `detect_lost_packets`. -/
def lossLoop (now : Instant) (lossDelay : Duration) (pktThresh largestAckedPkt : Nat) :
    LossScan φ → List (SentPacket φ) → List (SentPacket φ) × LossScan φ
  | scan, [] => ([], scan)
  | scan, pkt :: rest =>
    if pkt.pktNum > largestAckedPkt then (pkt :: rest, scan)
    else if !pkt.outstanding then
      let result := lossLoop now lossDelay pktThresh largestAckedPkt scan rest
      (pkt :: result.1, result.2)
    else if pkt.timeSent ≤ now - lossDelay || pkt.pktNum + pktThresh ≤ largestAckedPkt then
      let result := lossLoop now lossDelay pktThresh largestAckedPkt (scan.lose pkt) rest
      (markLost now pkt :: result.1, result.2)
    else
      let due := pkt.timeSent + lossDelay
      let scan := { scan with lossTime := some (scan.lossTime.elim due (min · due)) }
      let result := lossLoop now lossDelay pktThresh largestAckedPkt scan rest
      (pkt :: result.1, result.2)

def detectLostPackets (recovery : Recovery) (space : PacketNumSpace φ) (now : Instant) :
    (Nat × Nat) × Recovery × PacketNumSpace φ :=
  let lossDelay := max
    (recovery.timeThresh (max recovery.rtt.latestRtt recovery.rtt.smoothedRtt)) timerGranularity
  let result := lossLoop now lossDelay recovery.pktThresh space.largestAckedPkt
    ⟨recovery.toInFlight, space.toInFlight, space.lost, none, 0, 0⟩ space.sent
  let scan := result.2
  ((scan.lostPackets, scan.lostBytes), { recovery with toInFlight := scan.total },
    { space with
      toInFlight := scan.own
      sent := result.1
      lost := scan.lost
      lossTime := scan.lossTime })

def expired (now : Instant) (rtt : Duration) (pkt : SentPacket φ) : Bool :=
  !pkt.outstanding && !pkt.timeLost.any (fun timeLost => timeLost + rtt > now)

def drainSentPackets (space : PacketNumSpace φ) (now : Instant) (rtt : Duration) :
    PacketNumSpace φ :=
  { space with
    sent := space.sent.dropWhile (expired now rtt)
    history := { space.history with
      removed := space.history.removed ++ space.sent.takeWhile (expired now rtt) } }

def detectAndDrain (recovery : Recovery) (space : PacketNumSpace φ) (now : Instant) :
    (Nat × Nat) × Recovery × PacketNumSpace φ :=
  let losses := recovery.detectLostPackets space now
  (losses.1, losses.2.1, drainSentPackets losses.2.2 now losses.2.1.rtt.smoothedRtt)

/-- Update the round-trip time with a sample. The delay is given in microseconds. -/
def updateRtt (recovery : Recovery) (ackDelay : Nat) : Option Duration → Recovery
  | some sample =>
    if sample ≠ 0 then { recovery with rtt := recovery.rtt.update (ackDelay * 1000) sample }
    else recovery
  | none => recovery

def updateLargestAcked (space : PacketNumSpace φ) (largest : Nat) : PacketNumSpace φ :=
  { space with
    largestAckedPkt :=
      if space.largestAckedPkt = u64Max then largest else max space.largestAckedPkt largest }

/-- Receive an ACK frame. An empty set of ranges is a panic. -/
def onAckReceived (recovery : Recovery) (ranges : RangeSet) (ackDelay : Nat) (spaceId : SpaceId)
    (spaces : PacketNumSpaceMap φ) (status : HandshakeStatus) (now : Instant) :
    Option (Except Error (Nat × Nat) × Recovery × PacketNumSpaceMap φ) :=
  match spaces.get spaceId with
  | none => some (.error .internalError, recovery, spaces)
  | some space =>
    match ranges.max with
    | none => none
    | some largest =>
      let acks := recovery.detectAckedPackets ranges (updateLargestAcked space largest) now
      if acks.1.1.isEmpty then some (.ok (0, 0), acks.2.1, spaces.set spaceId acks.2.2)
      else
        let losses := (acks.2.1.updateRtt ackDelay acks.1.2).detectAndDrain acks.2.2 now
        let recovery := { losses.2.1 with ptoCount := 0 }
        let spaces := spaces.set spaceId losses.2.2
        some (.ok losses.1, recovery.setLossDetectionTimer spaceId spaces status now, spaces)

/-! ## Timeouts -/

def probeFrames (space : PacketNumSpace φ) (probes : Nat) : List φ :=
  ((space.sent.filter fun pkt => pkt.hasData && pkt.outstanding).take probes).flatMap (·.frames)

def onLossDetectionTimeout (recovery : Recovery) (spaceId : SpaceId)
    (spaces : PacketNumSpaceMap φ) (status : HandshakeStatus) (now : Instant) :
    (Nat × Nat) × Recovery × PacketNumSpaceMap φ :=
  let earliest := getLossTimeAndSpace spaceId spaces
  match spaces.get earliest.2 with
  | none => ((0, 0), recovery, spaces)
  | some space =>
    if earliest.1.isSome then
      let losses := recovery.detectAndDrain space now
      let spaces := spaces.set earliest.2 losses.2.2
      (losses.1, losses.2.1.setLossDetectionTimer spaceId spaces status now, spaces)
    else
      let sid :=
        if recovery.ackElicitingInFlight > 0 then
          (recovery.getPtoTimeAndSpace spaceId spaces status now).2
        else if status.derivedHandshakeKeys then .handshake
        else .initial
      match spaces.get sid with
      | none => ((0, 0), recovery, spaces)
      | some space =>
        let recovery := { recovery with ptoCount := recovery.ptoCount + 1 }
        let lossProbes :=
          if sid = .initial ∨ sid = .handshake then 1
          else min recovery.ptoCount maxPtoProbesCount
        -- A probe timeout does not mark packets as lost.
        let copied := probeFrames space lossProbes
        let space := { space with
          lossProbes
          lost := space.lost ++ copied
          history := { space.history with probed := space.history.probed ++ copied } }
        let spaces := spaces.set sid space
        ((0, 0), recovery.setLossDetectionTimer spaceId spaces status now, spaces)

/-! ## Discarding a space -/

/-- The loop of `remove_from_bytes_in_flight`. -/
def removeFromBytesInFlight (counters : InFlight) (sent : List (SentPacket φ)) : InFlight :=
  sent.foldl (fun counters pkt => if pkt.outstanding then counters.decrease pkt else counters)
    counters

def onPktNumSpaceDiscarded (recovery : Recovery) (spaceId : SpaceId)
    (spaces : PacketNumSpaceMap φ) (status : HandshakeStatus) (now : Instant) :
    Recovery × PacketNumSpaceMap φ :=
  match spaces.get spaceId with
  | none => (recovery, spaces)
  | some space =>
    let recovery := { recovery with
      toInFlight := removeFromBytesInFlight recovery.toInFlight space.sent }
    let space := { space with
      toInFlight := .zero
      sent := [], lost := [], acked := []
      timeOfLastSentAckElicitingPkt := none
      lossTime := none
      lossProbes := 0 }
    let spaces := spaces.set spaceId space
    (recovery.setLossDetectionTimer spaceId spaces status now, spaces)

end Recovery

end Tquic.Connection
