import Tquic.RangesProperties
import Tquic.Basic

/-! Stream limits and connection-level send capacity, after `ConcurrencyControl` and
`SendCapacity` of `connection/stream.rs`. The source keeps the same three fields for
each initiator and direction; here they are one `StreamLimit` each. -/

set_option autoImplicit false

namespace Tquic.Connection

def isLocal (streamId : Nat) (isServer : Bool) : Bool :=
  streamId % 2 = if isServer then 1 else 0

def isBidi (streamId : Nat) : Bool := streamId / 2 % 2 = 0

/-- Limits for the streams of one initiator and direction. -/
structure StreamLimit where
  -- Number of streams that the other endpoint allows.
  maxStreams : Nat
  opened : Nat
  availIds : RangeSet

namespace StreamLimit

def new (maxStreams : Nat) : StreamLimit :=
  { maxStreams, opened := 0, availIds := RangeSet.default.insert ⟨0, maxStreams⟩ }

def raise (limit : StreamLimit) (maxStreams : Nat) : StreamLimit :=
  { limit with
    availIds := limit.availIds.insert ⟨limit.maxStreams, maxStreams⟩
    maxStreams }

end StreamLimit

structure ConcurrencyControl where
  -- `peer_max_streams_bidi`, `local_opened_streams_bidi`, `local_bidi_avail_ids`.
  localBidi : StreamLimit
  -- `peer_max_streams_uni`, `local_opened_streams_uni`, `local_uni_avail_ids`.
  localUni : StreamLimit
  -- `local_max_streams_bidi`, `peer_opened_streams_bidi`, `peer_bidi_avail_ids`.
  peerBidi : StreamLimit
  -- `local_max_streams_uni`, `peer_opened_streams_uni`, `peer_uni_avail_ids`.
  peerUni : StreamLimit
  localMaxStreamsBidiNext : Nat
  localMaxStreamsUniNext : Nat
  streamsBlockedAtBidi : Option Nat
  streamsBlockedAtUni : Option Nat

namespace ConcurrencyControl

def new (localMaxStreamsBidi localMaxStreamsUni : Nat) : ConcurrencyControl :=
  { localBidi := ⟨0, 0, .default⟩
    localUni := ⟨0, 0, .default⟩
    peerBidi := .new localMaxStreamsBidi
    peerUni := .new localMaxStreamsUni
    localMaxStreamsBidiNext := localMaxStreamsBidi
    localMaxStreamsUniNext := localMaxStreamsUni
    streamsBlockedAtBidi := none
    streamsBlockedAtUni := none }

def limit (control : ConcurrencyControl) (byLocal bidi : Bool) : StreamLimit :=
  match byLocal, bidi with
  | true, true => control.localBidi
  | true, false => control.localUni
  | false, true => control.peerBidi
  | false, false => control.peerUni

def setLimit (control : ConcurrencyControl) (byLocal bidi : Bool) (limit : StreamLimit) :
    ConcurrencyControl :=
  match byLocal, bidi with
  | true, true => { control with localBidi := limit }
  | true, false => { control with localUni := limit }
  | false, true => { control with peerBidi := limit }
  | false, false => { control with peerUni := limit }

def localMaxStreamsNext (control : ConcurrencyControl) (bidi : Bool) : Nat :=
  if bidi then control.localMaxStreamsBidiNext else control.localMaxStreamsUniNext

def streamsBlockedAt (control : ConcurrencyControl) (bidi : Bool) : Option Nat :=
  if bidi then control.streamsBlockedAtBidi else control.streamsBlockedAtUni

def updateStreamsBlockedAt (control : ConcurrencyControl) (bidi : Bool)
    (blockedAt : Option Nat) : ConcurrencyControl :=
  if bidi then { control with streamsBlockedAtBidi := blockedAt }
  else { control with streamsBlockedAtUni := blockedAt }

def peerMaxStreams (control : ConcurrencyControl) (bidi : Bool) : Nat :=
  (control.limit true bidi).maxStreams

def updatePeerMaxStreams (control : ConcurrencyControl) (bidi : Bool) (maxStreams : Nat) :
    ConcurrencyControl :=
  let limit := control.limit true bidi
  let raised :=
    if limit.maxStreams < maxStreams then control.setLimit true bidi (limit.raise maxStreams)
    else control
  -- The blocked state is cancelled if the limit has grown beyond it.
  if (raised.streamsBlockedAt bidi).all (fun blockedAt => blockedAt < raised.peerMaxStreams bidi)
  then raised.updateStreamsBlockedAt bidi none
  else raised

def updateLocalMaxStreams (control : ConcurrencyControl) (bidi : Bool) : ConcurrencyControl :=
  control.setLimit false bidi ((control.limit false bidi).raise (control.localMaxStreamsNext bidi))

def shouldUpdateLocalMaxStreams (control : ConcurrencyControl) (bidi : Bool) : Bool :=
  let limit := control.limit false bidi
  control.localMaxStreamsNext bidi ≠ limit.maxStreams &&
    control.localMaxStreamsNext bidi - limit.maxStreams > limit.maxStreams - limit.opened

def increaseMaxStreamsCredits (control : ConcurrencyControl) (bidi : Bool) (delta : Nat) :
    ConcurrencyControl :=
  if bidi then { control with localMaxStreamsBidiNext := control.localMaxStreamsBidiNext + delta }
  else { control with localMaxStreamsUniNext := control.localMaxStreamsUniNext + delta }

def checkConcurrencyLimits (control : ConcurrencyControl) (id : Nat) (isServer : Bool) :
    Except Error Unit × ConcurrencyControl :=
  let byLocal := isLocal id isServer
  let limit := control.limit byLocal (isBidi id)
  let opened := max limit.opened (id / 4 + 1)
  if opened > limit.maxStreams then
    -- Only a local stream that is blocked by the peer is announced.
    (.error .streamLimitError,
      if byLocal then control.updateStreamsBlockedAt (isBidi id) (some limit.maxStreams)
      else control)
  else (.ok (), control.setLimit byLocal (isBidi id) { limit with opened })

def isLimited (control : ConcurrencyControl) (streamId : Nat) (isServer : Bool) : Bool :=
  streamId / 4 + 1 > (control.limit (isLocal streamId isServer) (isBidi streamId)).maxStreams

def isAvailable (control : ConcurrencyControl) (streamId : Nat) (isServer : Bool) : Bool :=
  (control.limit (isLocal streamId isServer) (isBidi streamId)).availIds.contains (streamId / 4)

def removeAvailId (control : ConcurrencyControl) (streamId : Nat) (isServer : Bool) :
    ConcurrencyControl :=
  let limit := control.limit (isLocal streamId isServer) (isBidi streamId)
  control.setLimit (isLocal streamId isServer) (isBidi streamId)
    { limit with availIds := limit.availIds.removeElem (streamId / 4) }

end ConcurrencyControl

structure SendCapacity where
  maxData : Nat
  -- The amount of data accepted for sending on all streams.
  txData : Nat
  capacity : Nat
  blockedAt : Option Nat
  deriving DecidableEq, Repr

namespace SendCapacity

def default : SendCapacity := { maxData := 0, txData := 0, capacity := 0, blockedAt := none }

def updateMaxData (send : SendCapacity) (maxData : Nat) : SendCapacity :=
  { send with maxData := max send.maxData maxData }

def updateCapacity (send : SendCapacity) : SendCapacity :=
  { send with capacity := send.maxData - send.txData }

def updateBlockedAt (send : SendCapacity) (blockedAt : Option Nat) : SendCapacity :=
  { send with blockedAt }

end SendCapacity

end Tquic.Connection
