import Tquic.Basic
import Tquic.Lib.OrdMap

/-! Packet number spaces, after `connection/space.rs`, with the fields that loss recovery
uses. The type of frames is a parameter: loss recovery moves frames without looking at
them. -/

set_option autoImplicit false

namespace Tquic.Connection

open Lib

inductive SpaceId where
  | initial
  | handshake
  | data
  | dataExt (id : Nat)
  deriving DecidableEq, Repr

def SpaceId.key : SpaceId → Nat
  | .initial => 0
  | .handshake => 1
  | .data => 2
  | .dataExt id => id

structure SentPacket (φ : Type) where
  pktNum : Nat
  frames : List φ
  timeSent : Instant
  timeAcked : Option Instant
  timeLost : Option Instant
  ackEliciting : Bool
  inFlight : Bool
  -- Whether the packet contains a CRYPTO or STREAM frame.
  hasData : Bool
  sentSize : Nat
  deriving DecidableEq, Repr

def SentPacket.outstanding {φ : Type} (pkt : SentPacket φ) : Bool :=
  pkt.timeAcked.isNone && pkt.timeLost.isNone

/-- The pair of counters that a path and each of its packet number spaces have. -/
structure InFlight where
  bytesInFlight : Nat
  ackElicitingInFlight : Nat
  deriving DecidableEq, Repr

namespace InFlight

variable {φ : Type}

def zero : InFlight := ⟨0, 0⟩

def increase (counters : InFlight) (pkt : SentPacket φ) : InFlight :=
  if pkt.inFlight then
    { bytesInFlight := counters.bytesInFlight + pkt.sentSize
      ackElicitingInFlight :=
        if pkt.ackEliciting then counters.ackElicitingInFlight + 1
        else counters.ackElicitingInFlight }
  else counters

def decrease (counters : InFlight) (pkt : SentPacket φ) : InFlight :=
  if pkt.inFlight then
    { bytesInFlight := counters.bytesInFlight - pkt.sentSize
      ackElicitingInFlight :=
        if pkt.ackEliciting then counters.ackElicitingInFlight - 1
        else counters.ackElicitingInFlight }
  else counters

end InFlight

/-- What is known about the past of a packet number space. The code does not keep it. -/
structure SpaceHistory (φ : Type) where
  recorded : List φ
  -- Frames that were copied to the lost frames by a probe timeout.
  probed : List φ
  -- Acknowledged and lost frames that the connection has processed.
  ackedDone : List φ
  lostDone : List φ
  -- Packets that were removed from the queue of sent packets.
  removed : List (SentPacket φ)

structure PacketNumSpace (φ : Type) extends InFlight where
  consecutiveNonAckElicitingSent : Nat
  sent : List (SentPacket φ)
  lost : List φ
  acked : List φ
  timeOfLastSentAckElicitingPkt : Option Instant
  lossTime : Option Instant
  -- `u64::MAX` until a packet is acknowledged.
  largestAckedPkt : Nat
  lossProbes : Nat
  history : SpaceHistory φ

def u64Max : Nat := 2 ^ 64 - 1

def PacketNumSpace.new {φ : Type} : PacketNumSpace φ :=
  { InFlight.zero with
    consecutiveNonAckElicitingSent := 0
    sent := [], lost := [], acked := []
    timeOfLastSentAckElicitingPkt := none
    lossTime := none
    largestAckedPkt := u64Max
    lossProbes := 0
    history := ⟨[], [], [], [], []⟩ }

structure PacketNumSpaceMap (φ : Type) where
  spaces : OrdMap Nat (PacketNumSpace φ)
  nextDataExtId : Nat

namespace PacketNumSpaceMap

variable {φ : Type}

def new : PacketNumSpaceMap φ :=
  { spaces := (((∅ : OrdMap Nat (PacketNumSpace φ)).insert 0 .new).insert 1 .new).insert 2 .new
    nextDataExtId := 3 }

def get (map : PacketNumSpaceMap φ) (spaceId : SpaceId) : Option (PacketNumSpace φ) :=
  map.spaces.get? spaceId.key

def set (map : PacketNumSpaceMap φ) (spaceId : SpaceId) (space : PacketNumSpace φ) :
    PacketNumSpaceMap φ :=
  { map with spaces := map.spaces.insert spaceId.key space }

def add (map : PacketNumSpaceMap φ) : SpaceId × PacketNumSpaceMap φ :=
  (.dataExt map.nextDataExtId,
    { spaces := map.spaces.insert map.nextDataExtId .new, nextDataExtId := map.nextDataExtId + 1 })

end PacketNumSpaceMap

end Tquic.Connection
