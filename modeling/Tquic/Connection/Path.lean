import Tquic.Basic

/-! Network paths of a connection, their validation and the send limit before address
validation, after `path.rs`. The recovery state of a path, its MTU discovery and its packet
number space are left out, apart from the maximum datagram size. -/

set_option autoImplicit false

namespace Tquic.Connection

/-- Milliseconds before the first PATH_CHALLENGE is taken as lost. -/
def initialChalTimeout : Nat := 25

def maxProbingTimeouts : Nat := 8

def maxPathChalsRecv : Nat := 8

def minPathProbeSize : Nat := 64

def minClientInitialLen : Nat := 1200

def usizeMax : Nat := 18446744073709551615

def millis (count : Nat) : Duration := count * 1000000

inductive PathState where
  | failed
  | unknown
  | validating
  | validatingMtu
  | validated
  deriving DecidableEq, Repr

/-- The order of declaration, which the source compares by. -/
def PathState.rank : PathState → Nat
  | .failed => 0
  | .unknown => 1
  | .validating => 2
  | .validatingMtu => 3
  | .validated => 4

abbrev ChallengeData := Vector UInt8 8

/-- A PATH_CHALLENGE that waits for its response. -/
structure SentChallenge where
  data : ChallengeData
  pktSize : Nat
  sentTime : Instant
  lossTime : Instant
  deriving DecidableEq

structure Path where
  localAddr : SocketAddr
  remoteAddr : SocketAddr
  scidSeq : Option Nat
  dcidSeq : Option Nat
  active : Bool
  state : PathState
  recvChals : List ChallengeData
  sentChals : List SentChallenge
  needSendChallenge : Bool
  lostChal : Nat
  maxChallengeSize : Nat
  verifiedPeerAddress : Bool
  peerVerifiedLocalAddress : Bool
  antiAmplLimit : Nat
  maxDatagramSize : Nat
  deriving DecidableEq

namespace Path

def new (localAddr remoteAddr : SocketAddr) (isInitial : Bool) (maxDatagramSize : Nat) : Path :=
  { localAddr
    remoteAddr
    scidSeq := if isInitial then some 0 else none
    dcidSeq := if isInitial then some 0 else none
    active := false
    state := if isInitial then .validated else .unknown
    recvChals := []
    sentChals := []
    needSendChallenge := false
    lostChal := 0
    maxChallengeSize := 0
    verifiedPeerAddress := false
    peerVerifiedLocalAddress := false
    antiAmplLimit := 0
    maxDatagramSize }

def initial (localAddr remoteAddr : SocketAddr) (maxDatagramSize : Nat) (isServer addrToken : Bool) :
    Path :=
  let path := new localAddr remoteAddr true maxDatagramSize
  if isServer then { path with verifiedPeerAddress := addrToken, peerVerifiedLocalAddress := true }
  else path

def onPathChalReceived (path : Path) (data : ChallengeData) : Path :=
  let kept := if path.recvChals.length ≥ maxPathChalsRecv then path.recvChals.tail
    else path.recvChals
  { path with recvChals := kept ++ [data], peerVerifiedLocalAddress := true }

def promoteTo (path : Path) (state : PathState) : Path :=
  if path.state.rank < state.rank then { path with state } else path

def isValidated (path : Path) : Bool := path.state = .validated

def challengeSize (path : Path) (data : ChallengeData) : Nat :=
  ((path.sentChals.filter (fun sent => sent.data = data)).getLast?.map (·.pktSize)).getD 0

def noteResponse (path : Path) (data : ChallengeData) : Path :=
  { path with
    verifiedPeerAddress := true
    lostChal := 0
    sentChals := path.sentChals.filter (fun sent => !(sent.data = data))
    maxChallengeSize := max path.maxChallengeSize (path.challengeSize data) }.promoteTo .validatingMtu

def onPathRespReceived (path : Path) (data : ChallengeData) (multipath : Bool) : Bool × Path :=
  if path.isValidated then (false, path)
  else
    let noted := path.noteResponse data
    if noted.maxChallengeSize ≥ minClientInitialLen then
      (true, { noted.promoteTo .validated with active := multipath, sentChals := [] })
    else (false, { noted with needSendChallenge := true })

def popRecvChal (path : Path) : Option ChallengeData × Path :=
  (path.recvChals.head?, { path with recvChals := path.recvChals.tail })

def initiatePathChal (path : Path) : Path := { path with needSendChallenge := true }

def onPathChalSent (path : Path) (data : ChallengeData) (pktSize : Nat) (sentTime : Instant) : Path :=
  let promoted := path.promoteTo .validating
  { promoted with
    needSendChallenge := false
    sentChals := promoted.sentChals ++
      [{ data, pktSize, sentTime,
         lossTime := sentTime + millis (initialChalTimeout <<< promoted.lostChal) }] }

/-- The loop of `on_path_chal_timeout` over the outstanding challenges. -/
def dropLostChals (now : Instant) : List SentChallenge → Path → Path
  | [], path => { path with sentChals := [] }
  | first :: rest, path =>
    if first.lossTime > now then { path with sentChals := first :: rest }
    else if path.lostChal + 1 < maxProbingTimeouts then
      dropLostChals now rest { path with lostChal := path.lostChal + 1, needSendChallenge := true }
    else
      { path with
        lostChal := path.lostChal + 1, state := .failed, active := false, sentChals := [] }

def onPathChalTimeout (path : Path) (now : Instant) : Path :=
  if path.state ≠ .validating ∧ path.state ≠ .validatingMtu then path
  else dropLostChals now path.sentChals path

def needSendValidationFrames (path : Path) (isServer : Bool) : Bool :=
  if isServer && path.antiAmplLimit < minPathProbeSize then false
  else path.needSendChallenge || !path.recvChals.isEmpty

/-- Whether the path is used to send non-probing packets. -/
def isActive (path : Path) : Bool := path.active && path.dcidSeq.isSome

def unused (path : Path) : Bool := !path.active && path.dcidSeq.isNone

end Path

/-- The paths of a connection. A path's identifier is its position: the slab of the source
loses a path only when `insert_path` puts another one into its slot. -/
structure PathMap where
  paths : List Path
  maxPaths : Nat
  addrs : List ((SocketAddr × SocketAddr) × Nat)
  antiAmplFactor : Nat
  isMultipath : Bool
  isServer : Bool

namespace PathMap

def new (initialPath : Path) (maxPaths antiAmplFactor : Nat) (isServer : Bool) : PathMap :=
  { paths := [{ initialPath with active := true }]
    maxPaths
    addrs := [((initialPath.localAddr, initialPath.remoteAddr), 0)]
    antiAmplFactor
    isMultipath := false
    isServer }

def get (map : PathMap) (pathId : Nat) : Option Path := map.paths[pathId]?

/-- Overwrite the path in a slot. -/
def set (map : PathMap) (pathId : Nat) (path : Path) : PathMap :=
  { map with paths := map.paths.set pathId path }

def modify (map : PathMap) (pathId : Nat) (change : Path → Path) : PathMap :=
  { map with paths := map.paths.modify pathId change }

def getPathId (map : PathMap) (addrs : SocketAddr × SocketAddr) : Option Nat :=
  (map.addrs.find? (fun entry => entry.1 = addrs)).map (·.2)

def getActivePathId (map : PathMap) : Except Error Nat :=
  match map.paths.findIdx? (·.active) with
  | none => .error .internalError
  | some pathId => .ok pathId

/-- Enter the addresses of the path with identifier `pathId`. -/
def register (addrs : List ((SocketAddr × SocketAddr) × Nat)) (path : Path) (pathId : Nat) :
    List ((SocketAddr × SocketAddr) × Nat) :=
  ((path.localAddr, path.remoteAddr), pathId) ::
    addrs.filter (fun entry => !(entry.1 = (path.localAddr, path.remoteAddr)))

def insertPath (map : PathMap) (path : Path) : Except Error (Nat × PathMap) :=
  if map.paths.length ≥ map.maxPaths then
    match map.paths.findIdx? (·.unused) with
    | none => .error .done
    | some pathId =>
      let evicted := map.paths[pathId]?
      let addrs := map.addrs.filter
        (fun entry => !(evicted.any (fun old => entry.1 = (old.localAddr, old.remoteAddr))))
      .ok (pathId, { map with
        paths := map.paths.set pathId path, addrs := register addrs path pathId })
  else
    let pathId := map.paths.length
    .ok (pathId, { map with
      paths := map.paths ++ [path], addrs := register map.addrs path pathId })

def onPathChalReceived (map : PathMap) (pathId : Nat) (data : ChallengeData) : PathMap :=
  map.modify pathId (·.onPathChalReceived data)

def onPathRespReceived (map : PathMap) (pathId : Nat) (data : ChallengeData) : Bool × PathMap :=
  match map.get pathId with
  | none => (false, map)
  | some path =>
    let (validated, path) := path.onPathRespReceived data map.isMultipath
    (validated, map.set pathId path)

def onPathChalSent (map : PathMap) (pathId : Nat) (data : ChallengeData) (pktSize : Nat)
    (sentTime : Instant) : Except Error PathMap :=
  match map.get pathId with
  | none => .error .internalError
  | some path => .ok (map.set pathId (path.onPathChalSent data pktSize sentTime))

def onPathChalTimeout (map : PathMap) (now : Instant) : PathMap :=
  { map with paths := map.paths.map (·.onPathChalTimeout now) }

def saturatingAdd (left right : Nat) : Nat := min (left + right) usizeMax

def saturatingMul (left right : Nat) : Nat := min (left * right) usizeMax

def updateLimit (map : PathMap) (pathId : Nat) (change : Nat → Nat) : PathMap :=
  if !map.isServer then map
  else map.modify pathId (fun path =>
    if path.verifiedPeerAddress then path
    else { path with antiAmplLimit := change path.antiAmplLimit })

def incAntiAmplLimit (map : PathMap) (pathId pktLen : Nat) : PathMap :=
  map.updateLimit pathId
    (fun limit => saturatingAdd limit (saturatingMul map.antiAmplFactor pktLen))

def decAntiAmplLimit (map : PathMap) (pathId pktLen : Nat) : PathMap :=
  map.updateLimit pathId (· - pktLen)

def cmpAntiAmplLimit (map : PathMap) (pathId left : Nat) : Nat :=
  if !map.isServer then left
  else
    match map.get pathId with
    | none => left
    | some path => if path.verifiedPeerAddress then left else min left path.antiAmplLimit

def enableMultipath (map : PathMap) : PathMap := { map with isMultipath := true }

/-! ## Paths after an operation -/

theorem get_set {map : PathMap} {pathId other : Nat} {path found : Path}
    (present : (map.set pathId path).get other = some found) :
    (other = pathId ∧ found = path) ∨ (other ≠ pathId ∧ map.get other = some found) := by
  by_cases same : other = pathId
  · subst same
    unfold PathMap.set PathMap.get at present
    rw [List.getElem?_set] at present
    split_ifs at present
    · exact .inl ⟨rfl, (Option.some.inj present).symm⟩
    · contradiction
  · unfold PathMap.set PathMap.get at present
    rw [List.getElem?_set_ne (Ne.symm same)] at present
    exact .inr ⟨same, present⟩

theorem get_modify {map : PathMap} {pathId other : Nat} {change : Path → Path} {found : Path}
    (present : (map.modify pathId change).get other = some found) :
    ∃ old, map.get other = some old ∧ found = if other = pathId then change old else old := by
  unfold PathMap.modify PathMap.get at present
  rw [List.getElem?_modify] at present
  obtain ⟨old, stored, rfl⟩ := Option.map_eq_some_iff.mp present
  refine ⟨old, stored, ?_⟩
  by_cases same : pathId = other
  · simp [same]
  · simp [same, Ne.symm same]

theorem get_insertPath {map next : PathMap} {path found : Path} {pathId other : Nat}
    (inserted : map.insertPath path = .ok (pathId, next)) (present : next.get other = some found) :
    (other = pathId ∧ found = path) ∨ (other ≠ pathId ∧ map.get other = some found) := by
  unfold insertPath at inserted
  split at inserted
  · split at inserted
    · cases inserted
    · cases inserted
      exact get_set present
  · cases inserted
    unfold PathMap.get at present ⊢
    by_cases same : other = map.paths.length
    · rw [same, List.getElem?_append_right (Nat.le_refl _)] at present
      simp only [Nat.sub_self, List.getElem?_cons_zero, Option.some.injEq] at present
      exact .inl ⟨same, present.symm⟩
    · refine .inr ⟨same, ?_⟩
      rcases Nat.lt_or_ge other map.paths.length with less | greater
      · rwa [List.getElem?_append_left less] at present
      · rw [List.getElem?_append_right greater] at present
        have beyond : other - map.paths.length = (other - map.paths.length - 1) + 1 := by omega
        rw [beyond] at present
        simp at present

end PathMap

end Tquic.Connection
