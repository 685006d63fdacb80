import Tquic.Codec
import Tquic.Connection.Cid
import Tquic.Connection.Path

/-! Which connection ids the paths of a connection use, after the parts of
`connection.rs` that receive connection ids, create paths and write NEW_CONNECTION_ID and
RETIRE_CONNECTION_ID frames. -/

set_option autoImplicit false

namespace Tquic.Connection

/-- The part of the configuration that bears on connection ids. Lower limits are ignored by
`set_active_connection_id_limit`. -/
structure CidConfig where
  activeConnIdLimit : Nat
  atLeastTwo : 2 ≤ activeConnIdLimit
  antiAmplFactor : Nat
  maxDatagramSize : Nat
  isServer : Bool

/-- What `Config::new` sets. -/
def CidConfig.default (isServer : Bool) : CidConfig :=
  { activeConnIdLimit := 2
    atLeastTwo := by decide
    antiAmplFactor := 3
    maxDatagramSize := 1200
    isServer }

/-- The connection ids and paths of a connection. `closing` is set by errors. -/
structure CidPaths where
  cids : ConnectionIdMgr
  paths : PathMap
  config : CidConfig
  handshakeCompleted : Bool
  closing : Bool

namespace CidPaths

def start (config : CidConfig) (localAddr remoteAddr : SocketAddr) (addrToken : Bool)
    (initialScid : ConnectionId) (scidToken : Option ResetToken) (dcid : ConnectionId)
    (dcidToken : Option ResetToken) : CidPaths :=
  { cids := (ConnectionIdMgr.new config.activeConnIdLimit initialScid 0 scidToken).setInitialDcid
      dcid dcidToken (some 0)
    paths := .new (.initial localAddr remoteAddr config.maxDatagramSize config.isServer addrToken)
      config.activeConnIdLimit config.antiAmplFactor config.isServer
    config
    handshakeCompleted := false
    closing := false }

/-! ## Destination ids of paths -/

def setDcid (conn : CidPaths) (pathId : Nat) (path : Path) (dcidSeq : Option Nat) : CidPaths :=
  { conn with paths := conn.paths.set pathId { path with dcidSeq } }

/-- Hand unused destination ids to the paths whose id was retired. -/
def reassignDcids : List (Nat × Nat) → CidPaths → Except Error Unit × CidPaths
  | [], conn => (.ok (), conn)
  | (dcidSeq, pathId) :: rest, conn =>
    match conn.paths.get pathId with
    | none => (.error .internalError, conn)
    | some path =>
      if path.dcidSeq ≠ some dcidSeq then reassignDcids rest conn
      else
        match conn.cids.lowestUnusedDcidSeq with
        | none =>
          -- The path waits for a new id from the peer.
          reassignDcids rest (conn.setDcid pathId path none)
        | some newDcidSeq =>
          let moved := conn.setDcid pathId path (some newDcidSeq)
          match conn.cids.markDcidUsed newDcidSeq pathId with
          | .error error => (.error error, moved)
          | .ok cids => reassignDcids rest { moved with cids }

def recvNewConnectionId (conn : CidPaths) (seqNum retirePriorTo : Nat) (connId : ConnectionId)
    (resetToken : ResetToken) : Except Error Unit × CidPaths :=
  if conn.cids.zeroLengthDcid then (.error .protocolViolation, conn)
  else
    match conn.cids.addDcid connId seqNum resetToken retirePriorTo with
    | (.error error, cids) => (.error error, { conn with cids })
    | (.ok retired, cids) => reassignDcids retired { conn with cids }

/-- The loop of `try_allocate_cids_from_peer` over the paths. -/
def allocateCids : List Nat → CidPaths → CidPaths
  | [], conn => conn
  | pathId :: rest, conn =>
    match conn.paths.get pathId with
    | none => allocateCids rest conn
    | some path =>
      if path.dcidSeq.isSome then allocateCids rest conn
      else if conn.cids.zeroLengthDcid then
        allocateCids rest (conn.setDcid pathId path (some 0))
      else
        match conn.cids.lowestUnusedDcidSeq with
        | none => conn
        | some dcidSeq =>
          allocateCids rest
            { conn.setDcid pathId path (some dcidSeq) with
              cids := (conn.cids.markDcidUsed dcidSeq pathId).toOption.getD conn.cids }

def tryAllocateCidsFromPeer (conn : CidPaths) : CidPaths :=
  allocateCids (List.range conn.paths.paths.length) conn

/-! ## Source ids and new paths -/

def recvRetireConnectionId (conn : CidPaths) (seqNum : Nat) (pktDcid : ConnectionId) :
    Except Error Unit × CidPaths :=
  if conn.cids.zeroLengthScid then (.error .protocolViolation, conn)
  else
    match conn.cids.scids.get seqNum with
    | none => (.ok (), conn)
    | some _ =>
      match conn.cids.retireScid seqNum pktDcid with
      | (.error error, cids) => (.error error, { conn with cids })
      | (.ok none, cids) => (.ok (), { conn with cids })
      | (.ok (some pathId), cids) =>
        match conn.paths.get pathId with
        | none => (.error .internalError, { conn with cids })
        | some path =>
          if path.scidSeq = some seqNum then
            (.ok (), { conn with
              cids, paths := conn.paths.set pathId { path with scidSeq := none } })
          else (.ok (), { conn with cids })

/-- A packet for the source id `dcid` on a known path. -/
def usePath (conn : CidPaths) (recvPid cidSeq : Nat) (dcid : ConnectionId) :
    Except Error Nat × CidPaths :=
  match conn.paths.get recvPid with
  | none => (.error .internalError, conn)
  | some path =>
    let item := path.scidSeq.bind conn.cids.scids.get
    if item.map (·.cid) ≠ some dcid then
      let moved := { conn with
        paths := conn.paths.set recvPid { path with scidSeq := some cidSeq } }
      match conn.cids.markScidUsed cidSeq recvPid with
      | .error error => (.error error, moved)
      | .ok cids => (.ok recvPid, { moved with cids })
    else (.ok recvPid, conn)

def getOrCreatePath (conn : CidPaths) (recvPid : Option Nat) (dcid : ConnectionId)
    (localAddr remoteAddr : SocketAddr) (bufLen : Nat) : Except Error Nat × CidPaths :=
  match conn.cids.findScid dcid with
  | none => (.error .done, conn)
  | some (cidSeq, cidPid) =>
    match recvPid with
    | some recvPid => conn.usePath recvPid cidSeq dcid
    | none =>
      let path := { Path.new localAddr remoteAddr false conn.config.maxDatagramSize with
        antiAmplLimit := if conn.config.isServer then bufLen * conn.paths.antiAmplFactor else 0
        scidSeq := some cidSeq
        needSendChallenge := true }
      match conn.paths.insertPath path with
      | .error error => (.error error, conn)
      | .ok (pathId, paths) =>
        let created := { conn with paths }
        if conn.cids.zeroLengthScid || cidPid.isNone then
          match conn.cids.markScidUsed cidSeq pathId with
          | .error error => (.error error, created)
          | .ok cids => (.ok pathId, { created with cids })
        else (.ok pathId, created)

/-- A client adds a path. Without the right to do so nothing changes. -/
def addPath (conn : CidPaths) (localAddr remoteAddr : SocketAddr) : CidPaths :=
  if conn.config.isServer || !conn.handshakeCompleted then conn
  else if (conn.paths.getPathId (localAddr, remoteAddr)).isSome then conn
  else
    let dcidSeq := if conn.cids.zeroLengthDcid then some 0 else conn.cids.lowestUnusedDcidSeq
    let path := { Path.new localAddr remoteAddr false conn.config.maxDatagramSize with dcidSeq }
    match conn.paths.insertPath path with
    | .error _ => conn
    | .ok (pathId, paths) =>
      let cids : Except Error ConnectionIdMgr := match dcidSeq with
        | none => .ok conn.cids
        | some seq => conn.cids.markDcidUsed seq pathId
      match cids with
      | .error _ => { conn with paths }
      | .ok cids => { conn with cids, paths := paths.modify pathId (·.initiatePathChal) }

/-! ## Writing frames -/

inductive CidFrame where
  | newConnectionId (seqNum retirePriorTo : Nat) (connId : ConnectionId)
  | retireConnectionId (seqNum : Nat)
  deriving DecidableEq

def CidFrame.wireLen : CidFrame → Nat
  | .newConnectionId seqNum retirePriorTo connId =>
    1 + encodeVarintLen seqNum + encodeVarintLen retirePriorTo + 1 + connId.bytes.length + 16
  | .retireConnectionId seqNum => 1 + encodeVarintLen seqNum

/-- What a loop of the packet writer leaves: its result, the connection, the frames it wrote
and the room that is left. -/
structure Written where
  result : Except Error Unit
  conn : CidPaths
  frames : List CidFrame
  room : Nat

/-- NEW_CONNECTION_ID frames for the source ids to advertise; `none` if the fuel ends. -/
def writeNewConnectionIds : Nat → CidPaths → Nat → Option Written
  | 0, _, _ => none
  | fuel + 1, conn, room =>
    match conn.cids.scidsToAdvertise.head? with
    | none => some { result := .ok (), conn, frames := [], room }
    | some seq =>
      match conn.cids.scids.get seq with
      | none => some { result := .error .internalError, conn, frames := [], room }
      | some item =>
        if item.resetToken.isNone then
          some { result := .error .internalError, conn, frames := [], room }
        else
          let frame := .newConnectionId seq conn.cids.retirePriorTo item.cid
          if frame.wireLen > room then
            some { result := .error .done, conn, frames := [], room }
          else
            (writeNewConnectionIds fuel
              { conn with cids := conn.cids.markScidToAdvertise seq false }
              (room - frame.wireLen)).map
              (fun written => { written with frames := frame :: written.frames })

/-- RETIRE_CONNECTION_ID frames for the retired destination ids; `none` if the fuel ends. -/
def writeRetireConnectionIds : Nat → CidPaths → Nat → Nat → Option Written
  | 0, _, _, _ => none
  | fuel + 1, conn, pathId, room =>
    match conn.cids.nextDcidToRetire with
    | none => some { result := .ok (), conn, frames := [], room }
    | some seq =>
      match (conn.paths.get pathId).bind (·.dcidSeq) with
      | none => some { result := .error .internalError, conn, frames := [], room }
      | some dcidSeq =>
        -- The id of the packet itself must not be retired in it.
        if seq = dcidSeq then writeRetireConnectionIds fuel conn pathId room
        else
          let frame := .retireConnectionId seq
          if frame.wireLen > room then
            some { result := .error .done, conn, frames := [], room }
          else
            (writeRetireConnectionIds fuel
              { conn with cids := conn.cids.markDcidToRetire seq false } pathId
              (room - frame.wireLen)).map
              (fun written => { written with frames := frame :: written.frames })

/-- `try_write_cid_control_frame` for a 1-RTT packet on a path. -/
def tryWriteCidControlFrame (fuel : Nat) (conn : CidPaths) (pathId room : Nat) : Option Written :=
  if conn.closing then some { result := .ok (), conn, frames := [], room }
  else
    match writeNewConnectionIds fuel conn room with
    | none => none
    | some advertised =>
      match advertised.result with
      | .error _ => some advertised
      | .ok () =>
        match advertised.conn.paths.get pathId with
        | none => some { advertised with result := .error .internalError }
        | some path =>
          if !path.isActive then some advertised
          else
            (writeRetireConnectionIds fuel advertised.conn pathId advertised.room).map
              (fun written =>
                { written with frames := advertised.frames ++ written.frames })

end CidPaths

end Tquic.Connection
