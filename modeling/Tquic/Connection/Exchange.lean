import Tquic.Connection.CidAssignment
import Tquic.Frame
import Mathlib.Logic.Function.Basic

/-! Datagrams that a connection receives and sends, after `recv`, `recv_packet`, `send` and
`send_packet` of `connection.rs`, in small steps. What decryption, TLS and the frame writers
decide is given with each step: the type and size of a packet, the keys that become known and
the room that frames take. -/

set_option autoImplicit false

namespace Tquic.Connection

def lengthFieldLen : Nat := 2

def minPayloadLen : Nat := 4

/-- Packets without a key yet, each with its addresses and size. -/
structure UndecryptablePackets where
  zeroRttPkts : List ((SocketAddr × SocketAddr) × Nat)
  handshakePkts : List ((SocketAddr × SocketAddr) × Nat)
  oneRttPkts : List ((SocketAddr × SocketAddr) × Nat)
  capacity : Nat

namespace UndecryptablePackets

def new (capacity : Nat) : UndecryptablePackets :=
  { zeroRttPkts := [], handshakePkts := [], oneRttPkts := [], capacity }

def push (packets : UndecryptablePackets) (pktType : PacketType)
    (packet : (SocketAddr × SocketAddr) × Nat) : UndecryptablePackets :=
  let enqueue (queue : List ((SocketAddr × SocketAddr) × Nat)) :=
    if queue.length > packets.capacity then queue else queue ++ [packet]
  match pktType with
  | .zeroRtt => { packets with zeroRttPkts := enqueue packets.zeroRttPkts }
  | .handshake => { packets with handshakePkts := enqueue packets.handshakePkts }
  | .oneRtt => { packets with oneRttPkts := enqueue packets.oneRttPkts }
  | _ => packets

def pop (packets : UndecryptablePackets) :
    PacketType → Option (((SocketAddr × SocketAddr) × Nat) × UndecryptablePackets)
  | .zeroRtt =>
    packets.zeroRttPkts.head?.map
      (fun first => (first, { packets with zeroRttPkts := packets.zeroRttPkts.tail }))
  | .handshake =>
    packets.handshakePkts.head?.map
      (fun first => (first, { packets with handshakePkts := packets.handshakePkts.tail }))
  | .oneRtt =>
    packets.oneRttPkts.head?.map
      (fun first => (first, { packets with oneRttPkts := packets.oneRttPkts.tail }))
  | _ => none

end UndecryptablePackets

/-- A call of `recv`: its datagram, the bytes it has not read yet and the packet in progress
with its type, path and size. -/
structure RecvCall where
  addrs : SocketAddr × SocketAddr
  pid : Option Nat
  len : Nat
  left : Nat
  packet : Option (PacketType × Nat × Nat)

/-- A call of `send`. `ended` is set by the packets that end a datagram. -/
structure SendCall where
  pid : Nat
  outLen : Nat
  left : Nat
  done : Nat
  hasInitial : Bool
  ended : Bool

/-- The zero bytes after the packets of a datagram with an Initial packet. -/
def SendCall.padLen (call : SendCall) : Nat :=
  if call.hasInitial ∧ call.left > 0 ∧ call.done < minClientInitialLen then
    min call.left (minClientInitialLen - call.done)
  else 0

/-- A packet to be sent: the sizes of its parts, and a PATH_CHALLENGE in it. A PMTU probe is
filled up to its own size. -/
structure PacketOut where
  pktType : PacketType
  hdrLen : Nat
  pktNumLen : Nat
  cryptoOverhead : Nat
  payloadLen : Nat
  pmtuProbe : Option Nat
  challenge : Option (ChallengeData × Instant)

def PacketOut.overhead (pkt : PacketOut) : Nat :=
  pkt.hdrLen + (if pkt.pktType = .oneRtt then 0 else lengthFieldLen) + pkt.pktNumLen +
    pkt.cryptoOverhead

/-- A connection with its open keys and calls in progress. For each path, `received` counts
the bytes of the datagrams that arrived on it and `sent` those that `send` returned for it. -/
structure Exchange where
  conn : CidPaths
  keys : List PacketType
  undecryptable : UndecryptablePackets
  calls : List RecvCall
  sending : Option SendCall
  received : Nat → Nat
  sent : Nat → Nat

namespace Exchange

def start (conn : CidPaths) (maxUndecryptablePackets : Nat) : Exchange :=
  { conn
    keys := [.initial]
    undecryptable := .new maxUndecryptablePackets
    calls := []
    sending := none
    received := fun _ => 0
    sent := fun _ => 0 }

def withPaths (exchange : Exchange) (paths : PathMap) : Exchange :=
  { exchange with conn := { exchange.conn with paths } }

/-! ## Receiving -/

/-- The start of `recv`: the datagram raises the send limit of its path. -/
def beginRecv (exchange : Exchange) (addrs : SocketAddr × SocketAddr) (len : Nat) : Exchange :=
  let pid := exchange.conn.paths.getPathId addrs
  let paths := match pid with
    | none => exchange.conn.paths
    | some pid => exchange.conn.paths.incAntiAmplLimit pid len
  { exchange.withPaths paths with
    calls := { addrs, pid, len, left := len, packet := none } :: exchange.calls }

def recv (exchange : Exchange) (addrs : SocketAddr × SocketAddr) (len : Nat) : Exchange :=
  match exchange.conn.paths.getPathId addrs with
  | none =>
    -- A client drops datagrams from unknown addresses.
    if exchange.conn.config.isServer then exchange.beginRecv addrs len else exchange
  | some pid =>
    { exchange.beginRecv addrs len with
      received := Function.update exchange.received pid (exchange.received pid + len) }

def locate (exchange : Exchange) (call : RecvCall) (pktType : PacketType) (dcid : ConnectionId) :
    Except Error Nat × CidPaths :=
  if pktType = .oneRtt ∧ exchange.conn.handshakeCompleted then
    exchange.conn.getOrCreatePath call.pid dcid call.addrs.1 call.addrs.2 call.left
  else (exchange.conn.paths.getActivePathId, exchange.conn)

def countNew (exchange : Exchange) (call : RecvCall) (pktType : PacketType) (pid : Nat) :
    Exchange :=
  if pktType = .oneRtt ∧ exchange.conn.handshakeCompleted ∧ call.pid = none then
    { exchange with
      received := Function.update exchange.received pid call.len
      sent := Function.update exchange.sent pid 0 }
  else exchange

/-- `try_buffer_undecryptable_packets`. -/
def bufferPacket (exchange : Exchange) (pktType : PacketType) (addrs : SocketAddr × SocketAddr)
    (size : Nat) : Exchange :=
  let early : PacketType := if exchange.conn.config.isServer then .zeroRtt else .handshake
  if exchange.conn.handshakeCompleted ∨ (pktType ≠ early ∧ pktType ≠ .oneRtt) then exchange
  else { exchange with undecryptable := exchange.undecryptable.push pktType (addrs, size) }

/-- The start of `recv_packet`, up to the key of the packet. A short header has no length
field: its packet takes the rest of the datagram. -/
def recvPacket (exchange : Exchange) (call : RecvCall) (outer : List RecvCall)
    (pktType : PacketType) (dcid : ConnectionId) (length : Nat) : Exchange :=
  match exchange.locate call pktType dcid with
  | (.error .done, conn) => { exchange with conn, calls := { call with left := 0 } :: outer }
  | (.error _, conn) => { exchange with conn := { conn with closing := true }, calls := outer }
  | (.ok pid, conn) =>
    let located := { exchange.countNew call pktType pid with conn }
    let size := if pktType = .oneRtt then call.left else length
    if size > call.left then { located with calls := { call with left := 0 } :: outer }
    else if pktType ∈ located.keys then
      { located with calls := { call with packet := some (pktType, pid, size) } :: outer }
    else
      { located.bufferPacket pktType call.addrs size with
        calls := { call with left := call.left - size } :: outer }

/-- The end of `recv_packet`: a Handshake packet verifies the address of the client. -/
def finishPacket (exchange : Exchange) (call : RecvCall) (outer : List RecvCall)
    (pktType : PacketType) (pid size : Nat) : Exchange :=
  let paths :=
    if exchange.conn.config.isServer ∧ pktType = .handshake then
      exchange.conn.paths.modify pid ({ · with verifiedPeerAddress := true })
    else exchange.conn.paths
  { exchange.withPaths paths with
    calls := { call with left := call.left - size, packet := none } :: outer }

/-! ## Sending -/

/-- The start of `send` on the selected path. -/
def beginSend (exchange : Exchange) (pid outLen maxDatagramSize : Nat) : Exchange :=
  { exchange with
    sending := some
      { pid
        outLen
        left := exchange.conn.paths.cmpAntiAmplLimit pid (min outLen maxDatagramSize)
        done := 0
        hasInitial := false
        ended := false } }

def packetSize (exchange : Exchange) (call : SendCall) (pkt : PacketOut) : Option Nat :=
  if call.left < pkt.overhead + minPayloadLen then none
  else
    match pkt.pmtuProbe with
    | none =>
      if 0 < pkt.payloadLen ∧ pkt.payloadLen ≤ call.left - pkt.overhead then
        some (pkt.overhead + pkt.payloadLen)
      else none
    | some probeSize =>
      let validated := (exchange.conn.paths.get call.pid).any (·.isValidated)
      if pkt.pktType = .oneRtt ∧ exchange.conn.handshakeCompleted ∧ !exchange.conn.closing ∧
          call.done = 0 ∧ validated ∧ pkt.overhead < probeSize ∧
          probeSize + pkt.hdrLen + pkt.pktNumLen ≤ call.outLen then
        some probeSize
      else none

/-- The end of `send_packet`, which charges the packet to the send limit. -/
def sendPacket (exchange : Exchange) (call : SendCall) (pkt : PacketOut) (written : Nat) :
    Exchange :=
  let challenged := match pkt.challenge with
    | none => exchange.conn.paths
    | some (data, now) =>
      (exchange.conn.paths.onPathChalSent call.pid data written now).toOption.getD
        exchange.conn.paths
  { exchange.withPaths (challenged.decAntiAmplLimit call.pid written) with
    sending := some { call with
      left := call.left - written
      done := call.done + written
      hasInitial := call.hasInitial || pkt.pktType = .initial
      ended := pkt.pktType = .oneRtt || pkt.pmtuProbe.isSome } }

/-- The end of `send`: without a packet there is no datagram. -/
def finishSend (exchange : Exchange) (call : SendCall) : Exchange :=
  if call.done = 0 then { exchange with sending := none }
  else
    { exchange with
      sending := none
      sent := Function.update exchange.sent call.pid
        (exchange.sent call.pid + (call.done + call.padLen)) }

/-! ## Steps -/

inductive Op where
  | recv (addrs : SocketAddr × SocketAddr) (len : Nat)
  /-- The rest of the datagram is skipped. -/
  | skip
  | packet (pktType : PacketType) (dcid : ConnectionId) (length : Nat)
  | pathChallenge (data : ChallengeData)
  | pathResponse (data : ChallengeData)
  | completeHandshake
  | installKeys (pktType : PacketType)
  | dropKeys (pktType : PacketType)
  | finishPacket
  /-- An error in the packet closes the connection. -/
  | failPacket
  /-- A buffered packet is received once more. -/
  | replay (pktType : PacketType)
  | endRecv
  | beginSend (pid outLen maxDatagramSize : Nat)
  | sendPacket (pkt : PacketOut)
  | finishSend
  | abortSend
  | chalTimeout (now : Instant)
  | assignDcid (pid : Nat) (dcidSeq : Option Nat)
  | addScid (cid : ConnectionId) (resetToken : ResetToken) (retireIfNeeded : Bool)
  | retireScid (seq : Nat) (pktDcid : ConnectionId)
  | enableMultipath
  | close

/-- What happens inside the innermost call of `recv`. -/
def stepCall (exchange : Exchange) (call : RecvCall) (outer : List RecvCall) :
    Op → Option Exchange
  | .skip => some { exchange with calls := { call with left := 0, packet := none } :: outer }
  | .packet pktType dcid length =>
    if call.packet.isSome || call.left = 0 || exchange.conn.closing then none
    else some (exchange.recvPacket call outer pktType dcid length)
  | .pathChallenge data =>
    call.packet.map (fun packet =>
      exchange.withPaths (exchange.conn.paths.onPathChalReceived packet.2.1 data))
  | .pathResponse data =>
    call.packet.map (fun packet =>
      exchange.withPaths (exchange.conn.paths.onPathRespReceived packet.2.1 data).2)
  | .completeHandshake =>
    call.packet.map (fun _ =>
      { exchange with conn := { exchange.conn with handshakeCompleted := true } })
  | .installKeys pktType =>
    call.packet.map (fun _ => { exchange with keys := pktType :: exchange.keys })
  | .finishPacket =>
    call.packet.map (fun packet =>
      exchange.finishPacket call outer packet.1 packet.2.1 packet.2.2)
  | .failPacket =>
    some { exchange with conn := { exchange.conn with closing := true }, calls := outer }
  | .replay pktType =>
    match exchange.undecryptable.pop pktType with
    | none => none
    | some ((addrs, len), undecryptable) =>
      if pktType ∈ exchange.keys then
        some ({ exchange with undecryptable }.beginRecv addrs len)
      else none
  | .endRecv =>
    if call.left = 0 ∧ call.packet.isNone then some { exchange with calls := outer } else none
  | _ => none

/-- What happens inside a call of `send`. -/
def stepSend (exchange : Exchange) (call : SendCall) : Op → Option Exchange
  | .sendPacket pkt =>
    if call.ended || call.left = 0 then none
    else (exchange.packetSize call pkt).map (exchange.sendPacket call pkt)
  | .finishSend => some (exchange.finishSend call)
  | .abortSend => some { exchange with sending := none }
  | _ => none

/-- What happens between calls, or while a frame is handled. -/
def stepAny (exchange : Exchange) : Op → Option Exchange
  | .dropKeys pktType =>
    some { exchange with keys := exchange.keys.filter (fun key => !(key = pktType)) }
  | .chalTimeout now => some (exchange.withPaths (exchange.conn.paths.onPathChalTimeout now))
  | .assignDcid pid dcidSeq =>
    some (exchange.withPaths (exchange.conn.paths.modify pid ({ · with dcidSeq })))
  | .addScid cid resetToken retireIfNeeded =>
    some { exchange with conn := { exchange.conn with
      cids := (exchange.conn.cids.addScid cid (some resetToken) true none retireIfNeeded).2 } }
  | .retireScid seq pktDcid =>
    some { exchange with conn := { exchange.conn with
      cids := (exchange.conn.cids.retireScid seq pktDcid).2 } }
  | .enableMultipath => some (exchange.withPaths exchange.conn.paths.enableMultipath)
  | .close => some { exchange with conn := { exchange.conn with closing := true } }
  | _ => none

def step (exchange : Exchange) (op : Op) : Option Exchange :=
  match exchange.sending, exchange.calls, op with
  | some call, _, op => exchange.stepSend call op
  | none, [], .recv addrs len => if 0 < len then some (exchange.recv addrs len) else none
  | none, [], .beginSend pid outLen maxDatagramSize =>
    if outLen < minClientInitialLen then none
    else some (exchange.beginSend pid outLen maxDatagramSize)
  | none, call :: outer, op =>
    match exchange.stepCall call outer op with
    | some next => some next
    | none => exchange.stepAny op
  | none, [], op => exchange.stepAny op

end Exchange

end Tquic.Connection
