import Tquic.Basic

/-! Connection ids in use on a connection, after `cid.rs`. An operation that fails
returns the manager as the failure leaves it. -/

set_option autoImplicit false

namespace Tquic.Connection

def maxCidsCount : Nat := 16

structure ConnectionIdItem where
  cid : ConnectionId
  seq : Nat
  resetToken : Option ResetToken
  pathId : Option Nat
  deriving DecidableEq

structure ConnectionIdDeque where
  queue : List ConnectionIdItem
  capacity : Nat

namespace ConnectionIdDeque

def get (deque : ConnectionIdDeque) (seq : Nat) : Option ConnectionIdItem :=
  deque.queue.find? (fun item => item.seq = seq)

def insert (deque : ConnectionIdDeque) (item : ConnectionIdItem) : Except Error ConnectionIdDeque :=
  if deque.queue.length = deque.capacity then .error .connectionIdLimitError
  else .ok { deque with queue := deque.queue ++ [item] }

def clear (deque : ConnectionIdDeque) : ConnectionIdDeque := { deque with queue := [] }

def remove (deque : ConnectionIdDeque) (seq : Nat) :
    Except Error (Option ConnectionIdItem × ConnectionIdDeque) :=
  if deque.queue.isEmpty then .error .internalError
  else if deque.queue.length = 1 && (deque.get seq).isSome then .error .internalError
  else .ok (deque.get seq, { deque with queue := deque.queue.eraseP (fun item => item.seq = seq) })

def removeLower (deque : ConnectionIdDeque) (seq : Nat) :
    List ConnectionIdItem × ConnectionIdDeque :=
  (deque.queue.filter (fun item => item.seq < seq),
    { deque with queue := deque.queue.filter (fun item => !(item.seq < seq)) })

def enlarge (deque : ConnectionIdDeque) (capacity : Nat) : ConnectionIdDeque :=
  if capacity > deque.capacity then { deque with capacity } else deque

/-- Overwrite the path of the first item with the given sequence number. -/
def markUsed (seq pathId : Nat) : List ConnectionIdItem → Option (List ConnectionIdItem)
  | [] => none
  | item :: rest =>
    if item.seq = seq then some ({ item with pathId := some pathId } :: rest)
    else (markUsed seq pathId rest).map (item :: ·)

end ConnectionIdDeque

structure ConnectionIdMgr where
  dcids : ConnectionIdDeque
  scids : ConnectionIdDeque
  dcidLimit : Nat
  scidLimit : Nat
  zeroLengthScid : Bool
  zeroLengthDcid : Bool
  nextScidSeq : Nat
  retirePriorTo : Nat
  scidsToAdvertise : List Nat
  largestPeerRetirePriorTo : Nat
  dcidsToRetire : List Nat

namespace ConnectionIdMgr

def new (dcidLimit : Nat) (initialScid : ConnectionId) (initialPathId : Nat)
    (resetToken : Option ResetToken) : ConnectionIdMgr :=
  { dcids := { queue := [], capacity := dcidLimit * 2 - 1 }
    scids :=
      { queue := [{ cid := initialScid, seq := 0, resetToken, pathId := some initialPathId }]
        capacity := 2 * 2 - 1 }
    dcidLimit
    scidLimit := 2
    zeroLengthScid := initialScid.isEmpty
    zeroLengthDcid := false
    nextScidSeq := 1
    retirePriorTo := 0
    scidsToAdvertise := []
    largestPeerRetirePriorTo := 0
    dcidsToRetire := [] }

/-- The queue was cleared, so the insertion only fails with capacity zero; the source
ignores its result. -/
def setInitialDcid (mgr : ConnectionIdMgr) (cid : ConnectionId) (resetToken : Option ResetToken)
    (pathId : Option Nat) : ConnectionIdMgr :=
  let cleared := mgr.dcids.clear
  { mgr with
    zeroLengthDcid := cid.isEmpty
    dcids := (cleared.insert { cid, seq := 0, resetToken, pathId }).toOption.getD cleared }

def setScidLimit (mgr : ConnectionIdMgr) (limit : Nat) : ConnectionIdMgr :=
  let limit := max (min limit maxCidsCount) 2
  { mgr with scidLimit := limit, scids := mgr.scids.enlarge (2 * limit - 1) }

def findScid (mgr : ConnectionIdMgr) (scid : ConnectionId) : Option (Nat × Option Nat) :=
  (mgr.scids.queue.find? (fun item => item.cid = scid)).map (fun item => (item.seq, item.pathId))

def markScidUsed (mgr : ConnectionIdMgr) (scidSeq pathId : Nat) : Except Error ConnectionIdMgr :=
  match ConnectionIdDeque.markUsed scidSeq pathId mgr.scids.queue with
  | none => .error .internalError
  | some queue => .ok { mgr with scids := { mgr.scids with queue } }

def markDcidUsed (mgr : ConnectionIdMgr) (dcidSeq pathId : Nat) : Except Error ConnectionIdMgr :=
  match ConnectionIdDeque.markUsed dcidSeq pathId mgr.dcids.queue with
  | none => .error .internalError
  | some queue => .ok { mgr with dcids := { mgr.dcids with queue } }

def lowestActiveScidSeq (mgr : ConnectionIdMgr) : Except Error Nat :=
  match ((mgr.scids.queue.map (·.seq)).filter (mgr.retirePriorTo ≤ ·)).min? with
  | none => .error .internalError
  | some seq => .ok seq

def lowestUnusedDcidSeq (mgr : ConnectionIdMgr) : Option Nat :=
  ((mgr.dcids.queue.filter (·.pathId.isNone)).map (·.seq)).min?

def markScidToAdvertise (mgr : ConnectionIdMgr) (seq : Nat) (advertise : Bool) : ConnectionIdMgr :=
  if advertise then { mgr with scidsToAdvertise := mgr.scidsToAdvertise ++ [seq] }
  else { mgr with scidsToAdvertise := mgr.scidsToAdvertise.filter (· ≠ seq) }

/-- `add_scid` after the lowest source id was given up if need be. -/
def insertScid (mgr : ConnectionIdMgr) (cid : ConnectionId) (resetToken : Option ResetToken)
    (advertise : Bool) (pathId : Option Nat) : Except Error Nat × ConnectionIdMgr :=
  let seq := mgr.nextScidSeq
  if seq ≠ 0 && resetToken.isNone then (.error .internalError, mgr)
  else
    match mgr.scids.insert { cid, seq, resetToken, pathId } with
    | .error error => (.error error, mgr)
    | .ok scids =>
      (.ok seq, { mgr with scids, nextScidSeq := seq + 1 }.markScidToAdvertise seq advertise)

def addScid (mgr : ConnectionIdMgr) (cid : ConnectionId) (resetToken : Option ResetToken)
    (advertise : Bool) (pathId : Option Nat) (retireIfNeeded : Bool) :
    Except Error Nat × ConnectionIdMgr :=
  if mgr.zeroLengthScid then (.error .internalError, mgr)
  else if mgr.scids.queue.length ≥ mgr.scidLimit then
    if !retireIfNeeded then (.error .connectionIdLimitError, mgr)
    else
      match mgr.lowestActiveScidSeq with
      | .error error => (.error error, mgr)
      | .ok lowest =>
        { mgr with retirePriorTo := lowest + 1 }.insertScid cid resetToken advertise pathId
  else mgr.insertScid cid resetToken advertise pathId

def checkDcidsToRetire (mgr : ConnectionIdMgr) : Except Error Unit :=
  if mgr.dcidsToRetire.length > mgr.dcidLimit * 4 then .error .protocolViolation else .ok ()

/-- Retire the destination ids below `retirePriorTo`; the pairs name the retired ids
that a path uses. -/
def retireLower (mgr : ConnectionIdMgr) (retirePriorTo : Nat) :
    List (Nat × Nat) × ConnectionIdMgr :=
  let (lower, dcids) := mgr.dcids.removeLower retirePriorTo
  (lower.filterMap (fun item => item.pathId.map (item.seq, ·)),
    { mgr with
      dcids
      dcidsToRetire := mgr.dcidsToRetire ++ lower.map (·.seq)
      largestPeerRetirePriorTo := retirePriorTo })

def insertDcid (mgr : ConnectionIdMgr) (item : ConnectionIdItem) (retired : List (Nat × Nat)) :
    Except Error (List (Nat × Nat)) × ConnectionIdMgr :=
  match mgr.dcids.insert item with
  | .error error => (.error error, mgr)
  | .ok dcids => (.ok retired, { mgr with dcids })

/-- Add a destination id from a NEW_CONNECTION_ID frame. On success the retired ids
and the paths that used them are returned. -/
def addDcid (mgr : ConnectionIdMgr) (cid : ConnectionId) (seq : Nat) (resetToken : ResetToken)
    (retirePriorTo : Nat) : Except Error (List (Nat × Nat)) × ConnectionIdMgr :=
  if mgr.zeroLengthDcid then (.error .protocolViolation, mgr)
  else
    match mgr.dcids.queue.find? (fun item => item.cid = cid || item.seq = seq) with
    | some item =>
      if item.cid ≠ cid || item.seq ≠ seq || item.resetToken ≠ some resetToken then
        (.error .protocolViolation, mgr)
      else (.ok [], mgr)
    | none =>
      if retirePriorTo > seq then (.error .protocolViolation, mgr)
      else if seq < mgr.largestPeerRetirePriorTo && !mgr.dcidsToRetire.contains seq then
        let queued := { mgr with dcidsToRetire := mgr.dcidsToRetire ++ [seq] }
        (queued.checkDcidsToRetire.map (fun _ => []), queued)
      else
        let item := { cid, seq, resetToken := some resetToken, pathId := none }
        if retirePriorTo > mgr.largestPeerRetirePriorTo then
          let (retired, raised) := mgr.retireLower retirePriorTo
          match raised.checkDcidsToRetire with
          | .error error => (.error error, raised)
          | .ok () => raised.insertDcid item retired
        else mgr.insertDcid item []

/-- Retire a source id from a RETIRE_CONNECTION_ID frame. -/
def retireScid (mgr : ConnectionIdMgr) (seq : Nat) (pktDcid : ConnectionId) :
    Except Error (Option Nat) × ConnectionIdMgr :=
  if seq ≥ mgr.nextScidSeq then (.error .protocolViolation, mgr)
  else
    match mgr.scids.remove seq with
    | .error error => (.error error, mgr)
    | .ok (none, _) => (.ok none, mgr)
    | .ok (some item, scids) =>
      let removed := { mgr with scids }
      if item.cid = pktDcid then (.error .protocolViolation, removed)
      else
        match removed.lowestActiveScidSeq with
        | .error error => (.error error, removed)
        | .ok lowest => (.ok item.pathId, { removed with retirePriorTo := lowest })

def markDcidToRetire (mgr : ConnectionIdMgr) (seq : Nat) (retire : Bool) : ConnectionIdMgr :=
  if retire then { mgr with dcidsToRetire := mgr.dcidsToRetire ++ [seq] }
  else { mgr with dcidsToRetire := mgr.dcidsToRetire.filter (· ≠ seq) }

def nextDcidToRetire (mgr : ConnectionIdMgr) : Option Nat := mgr.dcidsToRetire.head?

end ConnectionIdMgr

end Tquic.Connection
