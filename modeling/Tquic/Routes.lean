import Tquic.Connection.CidReferences
import Tquic.PacketHeaders
import Tquic.Token

/-! The routes from datagrams to connections, after `endpoint.rs`, and what a connection
remembers of the routes that lead to it, after `connection.rs`. -/

set_option autoImplicit false

namespace Tquic

open Lib Connection

@[ext] structure FourTuple where
  localAddr : SocketAddr
  remoteAddr : SocketAddr
  deriving DecidableEq

def resetTokenLen : Nat := 16

def minResetPacketLen : Nat := 21

def resetTokenOf (buf : Bytes) : Option ResetToken :=
  if buf.length < minResetPacketLen then none
  else some (.ofNat 128 (BigEndian.decode (buf.drop (buf.length - resetTokenLen))))

/-! ## Connections -/

/-- The events that concern routes. -/
inductive Event where
  | scidToAdvertise (num : Nat)
  | scidRetired (cid : ConnectionId)
  | dcidAdvertised (token : ResetToken)
  | dcidRetired (token : ResetToken)
  | resetTokenAdvertised (token : ResetToken)
  deriving DecidableEq

/-- A connection as the endpoint sees it. -/
structure RoutedConn where
  isServer : Bool
  run : CidPathRun
  /-- The original destination id among the transport parameters of a server. -/
  odcid : Option ConnectionId
  didRetry : Bool
  gotPeerCid : Bool
  /-- The reset token among the transport parameters of the peer. -/
  peerResetToken : Option ResetToken
  events : List Event
  closed : Bool

namespace RoutedConn

def cids (conn : RoutedConn) : ConnectionIdMgr := conn.run.conn.cids

def withCids (conn : RoutedConn) (cids : ConnectionIdMgr) : RoutedConn :=
  { conn with run := { conn.run with conn := { conn.run.conn with cids } } }

def new (config : CidConfig) (isServer : Bool) (scid : ConnectionId) (scidToken : Option ResetToken)
    (tuple : FourTuple) (addrToken : Option AddressToken) : RoutedConn :=
  let path := Path.initial tuple.localAddr tuple.remoteAddr config.maxDatagramSize isServer
    addrToken.isSome
  { isServer
    run :=
      { conn :=
          { cids := .new config.activeConnIdLimit scid 0 scidToken
            paths := .new path config.activeConnIdLimit config.antiAmplFactor isServer
            config := { config with isServer }
            handshakeCompleted := false
            closing := false }
        sent := [] }
    odcid := addrToken.bind (·.odcid)
    didRetry := addrToken.isSome
    gotPeerCid := false
    peerResetToken := none
    events := []
    closed := false }

/-- The first id of the peer replaces those that were there. -/
def setInitialDcid (conn : RoutedConn) (cid : ConnectionId) (resetToken : Option ResetToken)
    (pathId : Nat) : RoutedConn :=
  { conn with run := { conn.run with conn :=
      { conn.run.conn with
        cids := conn.cids.setInitialDcid cid resetToken (some pathId)
        paths := conn.run.conn.paths.modify pathId ({ · with dcidSeq := some 0 }) } } }

def newServer (config : CidConfig) (scid : ConnectionId) (scidToken : Option ResetToken)
    (tuple : FourTuple) (addrToken : Option AddressToken) : RoutedConn :=
  .new config true scid scidToken tuple addrToken

def newClient (config : CidConfig) (scid dcid : ConnectionId) (tuple : FourTuple) : RoutedConn :=
  (RoutedConn.new config false scid none tuple none).setInitialDcid dcid none 0

inductive Op where
  /-- What happens to the connection ids and paths. -/
  | manage (op : CidPathRun.Op)
  /-- A packet was decrypted. -/
  | packet (pathId : Nat) (pktDcid pktScid : ConnectionId)
  | retry (pathId : Nat) (pktScid : ConnectionId)
  | versionNegotiation
  | session (resetToken : Option ResetToken) (activeConnIdLimit : Nat)
  | transportParams (resetToken : Option ResetToken) (activeConnIdLimit : Nat)
  | scheduleControlFrames (num : Nat)
  | close

def cidEvents (conn : RoutedConn) : CidPathRun.Op → List Event
  | .newConnectionId seqNum retirePriorTo connId resetToken =>
      if conn.cids.zeroLengthDcid then []
      else
        match (conn.cids.addDcid connId seqNum resetToken retirePriorTo).1 with
        | .ok _ => [.dcidAdvertised resetToken]
        | .error _ => []
  | .retireConnectionId seqNum _ =>
      if conn.cids.zeroLengthScid then []
      else
        match conn.cids.scids.get seqNum with
        | some item => [.scidRetired item.cid]
        | none => []
  | .write fuel pathId room =>
      match conn.run.conn.tryWriteCidControlFrame fuel pathId room with
      | some written => (CidPaths.retirements written.frames).filterMap fun seq =>
          ((conn.cids.dcids.get seq).bind (·.resetToken)).map .dcidRetired
      | none => []
  | _ => []

/-- Set the id of the peer when its first packet is decrypted. A server that did not ask for a
token takes the destination of that packet for the original one. -/
def trySetDcidForInitialPath (conn : RoutedConn) (pathId : Nat) (pktDcid pktScid : ConnectionId) :
    RoutedConn :=
  if conn.gotPeerCid then conn
  else
    { conn.setInitialDcid pktScid conn.peerResetToken pathId with
      odcid := if conn.isServer && !conn.didRetry then some pktDcid else conn.odcid
      gotPeerCid := true }

def step (conn : RoutedConn) : Op → Option RoutedConn
  -- Source ids are added by the endpoint.
  | .manage (.addScid _ _ _) => none
  | .manage op =>
      (conn.run.step op).map fun run => { conn with run, events := conn.events ++ conn.cidEvents op }
  | .packet pathId pktDcid pktScid => some (conn.trySetDcidForInitialPath pathId pktDcid pktScid)
  | .retry pathId pktScid =>
      if conn.isServer || conn.didRetry then none
      else some { conn.setInitialDcid pktScid none pathId with didRetry := true, gotPeerCid := false }
  | .versionNegotiation => if conn.isServer then none else some { conn with gotPeerCid := false }
  | .session resetToken activeConnIdLimit =>
      some { conn.withCids (conn.cids.setScidLimit activeConnIdLimit) with
        peerResetToken := resetToken }
  | .transportParams resetToken activeConnIdLimit =>
      some { conn.withCids (conn.cids.setScidLimit activeConnIdLimit) with
        peerResetToken := resetToken
        events := conn.events ++ resetToken.toList.map .resetTokenAdvertised }
  | .scheduleControlFrames num => some { conn with events := conn.events ++ [.scidToAdvertise num] }
  | .close => some { conn with closed := true }

end RoutedConn

/-! ## Routes -/

/-- The tables of the endpoint, which give the index of a connection. -/
structure ConnectionRoutes where
  cidTable : ConnectionId → Option Nat
  addrTable : FourTuple → Option Nat
  tokenTable : ResetToken → Option Nat

namespace ConnectionRoutes

def new : ConnectionRoutes := ⟨fun _ => none, fun _ => none, fun _ => none⟩

def find (routes : ConnectionRoutes) (dcid : ConnectionId) (buf : Bytes) (tuple : FourTuple) :
    Option Nat × Bool :=
  let idx := if !dcid.isEmpty then routes.cidTable dcid else routes.addrTable tuple
  if idx.isNone && decide (buf.length > resetTokenLen) then
    match (resetTokenOf buf).bind routes.tokenTable with
    | some idx => (some idx, true)
    | none => (none, false)
  else (idx, false)

def insertWithCid (routes : ConnectionRoutes) (cid : ConnectionId) (idx : Nat) : ConnectionRoutes :=
  { routes with cidTable := Function.update routes.cidTable cid (some idx) }

def removeWithCid (routes : ConnectionRoutes) (cid : ConnectionId) : ConnectionRoutes :=
  { routes with cidTable := Function.update routes.cidTable cid none }

def insertWithAddr (routes : ConnectionRoutes) (tuple : FourTuple) (idx : Nat) : ConnectionRoutes :=
  { routes with addrTable := Function.update routes.addrTable tuple (some idx) }

def removeWithAddr (routes : ConnectionRoutes) (tuple : FourTuple) : ConnectionRoutes :=
  { routes with addrTable := Function.update routes.addrTable tuple none }

def insertWithToken (routes : ConnectionRoutes) (token : ResetToken) (idx : Nat) : ConnectionRoutes :=
  { routes with tokenTable := Function.update routes.tokenTable token (some idx) }

def removeWithToken (routes : ConnectionRoutes) (token : ResetToken) : ConnectionRoutes :=
  { routes with tokenTable := Function.update routes.tokenTable token none }

def removeScids (routes : ConnectionRoutes) (conn : RoutedConn) : ConnectionRoutes :=
  if !conn.cids.zeroLengthScid then
    conn.cids.scids.queue.foldl (fun routes item => routes.removeWithCid item.cid) routes
  else
    conn.run.conn.paths.paths.foldl
      (fun routes path => routes.removeWithAddr ⟨path.localAddr, path.remoteAddr⟩) routes

def removeOdcid (routes : ConnectionRoutes) (conn : RoutedConn) : ConnectionRoutes :=
  if conn.isServer then
    match conn.odcid with
    | some odcid => routes.removeWithCid odcid
    | none => routes
  else routes

def removeTokenOf (routes : ConnectionRoutes) (item : ConnectionIdItem) : ConnectionRoutes :=
  match item.resetToken with
  | some token => routes.removeWithToken token
  | none => routes

def removeTokens (routes : ConnectionRoutes) (conn : RoutedConn) : ConnectionRoutes :=
  if !conn.cids.zeroLengthDcid then conn.cids.dcids.queue.foldl removeTokenOf routes else routes

def remove (routes : ConnectionRoutes) (conn : RoutedConn) : ConnectionRoutes :=
  ((routes.removeScids conn).removeOdcid conn).removeTokens conn

end ConnectionRoutes

/-! ## The endpoint -/

/-- What does not change during the life of an endpoint. -/
structure RouterConfig (Key : Type) where
  isServer : Bool
  cidLen : Nat
  maxConcurrentConns : Nat
  cids : CidConfig
  aead : Aead Key
  tokens : TokenConfig Key

structure Router where
  conns : OrdMap Nat RoutedConn
  nextIndex : Nat
  routes : ConnectionRoutes
  closed : Bool
  -- The destination id and the source address of the packet that each connection was created for.
  attempts : Nat → Option (ConnectionId × SocketAddr)

namespace Router

variable {Key : Type}

def new : Router :=
  { conns := ∅, nextIndex := 0, routes := .new, closed := false, attempts := fun _ => none }

def insertConn (router : Router) (conn : RoutedConn) : Router :=
  { router with
    conns := router.conns.insert router.nextIndex conn
    nextIndex := router.nextIndex + 1 }

def connect (router : Router) (config : CidConfig) (scid dcid : ConnectionId) (tuple : FourTuple)
    (started : Bool) : Router :=
  let inserted := router.insertConn (.newClient config scid dcid tuple)
  if !started then inserted
  else if !scid.isEmpty then
    { inserted with routes := router.routes.insertWithCid scid router.nextIndex }
  else { inserted with routes := router.routes.insertWithAddr tuple router.nextIndex }

/-- What the endpoint decides to do with a datagram. -/
inductive Target where
  | deliver (idx : Nat) (reset : Bool)
  | accept (dcid : ConnectionId) (token : Option AddressToken) (odcid : ConnectionId)
  | negotiate
  | retry
  | refuse (error : Error)
  | drop

/-- A packet for which there is no connection. Buffered 0-RTT packets and Stateless Reset
packets for unknown connections are left out. -/
def recvUnknown (config : RouterConfig Key) (router : Router) (hdr : Header) (remote : SocketAddr)
    (now : SystemTime) : Target :=
  if !config.isServer then .drop
  else if hdr.pktType = .initial && !router.closed then
    if router.conns.size ≥ config.maxConcurrentConns then .drop
    else if !versionIsSupported hdr.version then .negotiate
    else
      match config.tokens.recvInitial config.aead now remote hdr.dcid hdr.token with
      | .error error => .refuse error
      | .ok .retried => .retry
      | .ok (.admitted token odcid) => .accept hdr.dcid token odcid
  else .drop

def target (config : RouterConfig Key) (router : Router) (buf : Bytes) (tuple : FourTuple)
    (now : SystemTime) : Target :=
  match Header.fromBytes buf config.cidLen with
  | .error error => .refuse error
  | .ok (hdr, _) =>
      match router.routes.find hdr.dcid buf tuple with
      | (some idx, reset) =>
          if (router.conns.get? idx).isSome then .deliver idx reset
          else router.recvUnknown config hdr tuple.remoteAddr now
      | (none, _) => router.recvUnknown config hdr tuple.remoteAddr now

def accept (config : RouterConfig Key) (router : Router) (scid : ConnectionId)
    (scidToken : Option ResetToken) (tuple : FourTuple) (dcid : ConnectionId)
    (token : Option AddressToken) (odcid : ConnectionId) : Router :=
  let idx := router.nextIndex
  let inserted := router.insertConn (.newServer config.cids scid scidToken tuple token)
  let routes :=
    if config.cidLen > 0 then (router.routes.insertWithCid scid idx).insertWithCid odcid idx
    else router.routes.insertWithAddr tuple idx
  { inserted with
    routes, attempts := Function.update router.attempts idx (some (dcid, tuple.remoteAddr)) }

/-- Receive a datagram. The connection to which it is delivered goes on by itself. A server
connection is only created if its TLS session can be. -/
def recv (config : RouterConfig Key) (router : Router) (buf : Bytes) (tuple : FourTuple)
    (now : SystemTime) (scid : ConnectionId) (scidToken : Option ResetToken) (created : Bool) :
    Router :=
  match router.target config buf tuple now with
  | .accept dcid token odcid =>
      if created then router.accept config scid scidToken tuple dcid token odcid else router
  | _ => router

/-- Add source ids until the connection refuses one. -/
def connAddScids (idx : Nat) : List (ConnectionId × ResetToken) → RoutedConn → ConnectionRoutes →
    RoutedConn × ConnectionRoutes
  | [], conn, routes => (conn, routes)
  | (scid, resetToken) :: rest, conn, routes =>
      match conn.cids.addScid scid (some resetToken) true none true with
      | (.error _, cids) => (conn.withCids cids, routes)
      | (.ok _, cids) => connAddScids idx rest (conn.withCids cids) (routes.insertWithCid scid idx)

def processEvent (idx : Nat) (generated : List (ConnectionId × ResetToken)) (conn : RoutedConn)
    (routes : ConnectionRoutes) : Event → Option (RoutedConn × ConnectionRoutes)
  | .scidToAdvertise num =>
      if generated.length = num then some (connAddScids idx generated conn routes) else none
  | .scidRetired cid => some (conn, routes.removeWithCid cid)
  | .dcidAdvertised token => some (conn, routes.insertWithToken token idx)
  | .dcidRetired token => some (conn, routes.removeWithToken token)
  | .resetTokenAdvertised token => some (conn, routes.insertWithToken token idx)

inductive Op where
  | connect (config : CidConfig) (scid dcid : ConnectionId) (tuple : FourTuple) (started : Bool)
  | recv (buf : Bytes) (tuple : FourTuple) (now : SystemTime) (scid : ConnectionId)
      (scidToken : Option ResetToken) (created : Bool)
  | conn (idx : Nat) (op : RoutedConn.Op)
  | poll (idx : Nat) (generated : List (ConnectionId × ResetToken))
  /-- A closed connection is removed. -/
  | cleanUp (idx : Nat)
  | close (force : Bool)

def step (config : RouterConfig Key) (router : Router) : Op → Option Router
  | .connect cids scid dcid tuple started =>
      if config.isServer || router.closed || scid.bytes.length ≠ config.cidLen then none
      else some (router.connect cids scid dcid tuple started)
  | .recv buf tuple now scid scidToken created =>
      if scid.bytes.length ≠ config.cidLen then none
      else some (router.recv config buf tuple now scid scidToken created)
  | .conn idx op =>
      (router.conns.get? idx).bind fun conn => (conn.step op).map fun next =>
        { router with conns := router.conns.insert idx next }
  | .poll idx generated =>
      (router.conns.get? idx).bind fun conn =>
        if conn.closed || generated.any (·.1.bytes.length ≠ config.cidLen) then none
        else
          match conn.events with
          | [] => none
          | event :: rest =>
              (processEvent idx generated { conn with events := rest } router.routes event).map
                fun (next, routes) =>
                  { router with conns := router.conns.insert idx next, routes }
  | .cleanUp idx =>
      (router.conns.get? idx).bind fun conn =>
        if conn.closed then
          some { router with
            conns := router.conns.erase idx, routes := router.routes.remove conn }
        else none
  | .close force =>
      if force then some { router with closed := true, conns := ∅, routes := .new }
      else some { router with closed := true }

end Router

end Tquic
