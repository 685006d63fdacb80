import Tquic.Packet
import Tquic.Lib.Fuelled

/-! Packets that arrive before the keys that open them, after `recv`, `recv_packet`,
`process_tls_session`, `try_buffer_undecryptable_packets` and `try_process_undecryptable_packets`
of `connection.rs`. Buffered packets are replayed by `recv`, which calls itself. -/

set_option autoImplicit false

namespace Tquic.Connection

open Lib

/-! ## The packets kept for later -/

/-- `UndecryptablePackets`: what was received before decryption keys are available. -/
structure EarlyPackets (β : Type) where
  zeroRttPkts : List β
  handshakePkts : List β
  oneRttPkts : List β
  capacity : Nat

namespace EarlyPackets

variable {β : Type}

def new (capacity : Nat) : EarlyPackets β := ⟨[], [], [], capacity⟩

def pkts (packets : EarlyPackets β) : PacketType → List β
  | .zeroRtt => packets.zeroRttPkts
  | .handshake => packets.handshakePkts
  | .oneRtt => packets.oneRttPkts
  | _ => []

/-- `none` if the packet is not taken. -/
def push (packets : EarlyPackets β) (pktType : PacketType) (pkt : β) : Option (EarlyPackets β) :=
  match pktType with
  | .zeroRtt =>
    if packets.zeroRttPkts.length > packets.capacity then none
    else some { packets with zeroRttPkts := packets.zeroRttPkts ++ [pkt] }
  | .handshake =>
    if packets.handshakePkts.length > packets.capacity then none
    else some { packets with handshakePkts := packets.handshakePkts ++ [pkt] }
  | .oneRtt =>
    if packets.oneRttPkts.length > packets.capacity then none
    else some { packets with oneRttPkts := packets.oneRttPkts ++ [pkt] }
  | _ => none

def pop (packets : EarlyPackets β) (pktType : PacketType) : Option (β × EarlyPackets β) :=
  match pktType with
  | .zeroRtt =>
    match packets.zeroRttPkts with
    | [] => none
    | pkt :: rest => some (pkt, { packets with zeroRttPkts := rest })
  | .handshake =>
    match packets.handshakePkts with
    | [] => none
    | pkt :: rest => some (pkt, { packets with handshakePkts := rest })
  | .oneRtt =>
    match packets.oneRttPkts with
    | [] => none
    | pkt :: rest => some (pkt, { packets with oneRttPkts := rest })
  | _ => none

def isEmpty (packets : EarlyPackets β) (pktType : PacketType) : Bool :=
  (packets.pkts pktType).isEmpty

def allEmpty (packets : EarlyPackets β) : Bool :=
  packets.zeroRttPkts.isEmpty && packets.handshakePkts.isEmpty && packets.oneRttPkts.isEmpty

/-- The number of packets of all types. -/
def size (packets : EarlyPackets β) : Nat :=
  packets.zeroRttPkts.length + packets.handshakePkts.length + packets.oneRttPkts.length

variable {packets after : EarlyPackets β} {pktType : PacketType}

theorem push_eq_some {pkt : β} (taken : packets.push pktType pkt = some after) :
    after.pkts pktType = packets.pkts pktType ++ [pkt] ∧ after.size = packets.size + 1 ∧
      ∀ other, other ≠ pktType → after.pkts other = packets.pkts other := by
  unfold push at taken
  split at taken
  case h_4 => cases taken
  all_goals
    split_ifs at taken
    cases taken
    refine ⟨rfl, by simp only [size, List.length_append, List.length_singleton]; omega, ?_⟩
    intro other different
    cases other <;> first | rfl | exact absurd rfl different

theorem pop_eq_none {packets : EarlyPackets β}
    (none : packets.pop pktType = none) : packets.pkts pktType = [] := by
  unfold pop at none
  unfold pkts
  grind

theorem pop_eq_some {pkt : β} (taken : packets.pop pktType = some (pkt, after)) :
    packets.pkts pktType = pkt :: after.pkts pktType ∧ packets.size = after.size + 1 ∧
      ∀ other, other ≠ pktType → after.pkts other = packets.pkts other := by
  unfold pop at taken
  split at taken
  case h_4 => cases taken
  all_goals
    split at taken
    · cases taken
    next first rest held =>
      cases taken
      refine ⟨held, by simp only [size, held, List.length_cons]; omega, ?_⟩
      intro other different
      cases other <;> first | rfl | exact absurd rfl different

theorem mem_of_pop {pktType other : PacketType} {pkt held : β}
    (taken : packets.pop pktType = some (pkt, after)) (member : held ∈ after.pkts other) :
    held ∈ packets.pkts other := by
  obtain ⟨first, -, others⟩ := pop_eq_some taken
  by_cases same : other = pktType
  · subst same
    rw [first]
    exact List.mem_cons_of_mem pkt member
  · rwa [others other same] at member

theorem empty_of_pop {pktType other : PacketType} {pkt : β}
    (taken : packets.pop pktType = some (pkt, after)) (empty : packets.pkts other = []) :
    after.pkts other = [] := by
  refine List.eq_nil_iff_forall_not_mem.mpr fun held member => ?_
  have before := mem_of_pop taken member
  rw [empty] at before
  cases before

theorem pkts_of_allEmpty {packets : EarlyPackets β} (empty : packets.allEmpty = true)
    (pktType : PacketType) : packets.pkts pktType = [] := by
  simp only [allEmpty, Bool.and_eq_true, List.isEmpty_iff] at empty
  cases pktType with
  | zeroRtt => exact empty.1.1
  | handshake => exact empty.1.2
  | oneRtt => exact empty.2
  | _ => rfl

end EarlyPackets

/-! ## The TLS session -/

/-- What a call into TLS comes to: its result, and the levels whose read secret it sets. -/
structure TlsStep (σ : Type) where
  state : σ
  result : Except Error Unit
  readSecrets : List Level

/-- The TLS library. `installed` says that the read secret of a level was set before. -/
structure TlsLibrary (σ ι : Type) where
  provide : σ → Level → ι → TlsStep σ
  process : σ → TlsStep σ
  clear : σ → σ
  completed : σ → Bool
  installed : σ → Level → Prop
  installed_provide : ∀ state level data other,
    installed (provide state level data).state other ↔
      installed state other ∨ other ∈ (provide state level data).readSecrets
  installed_process : ∀ state, installed (process state).state = installed state
  installed_clear : ∀ state, installed (clear state) = installed state
  /-- Without data from the peer no read secret is set. -/
  process_readSecrets : ∀ state, (process state).readSecrets = []
  /-- The read secret for 1-RTT packets is the last one. -/
  last_readSecret : ∀ state level data other, installed state .oneRtt →
    other ∈ (provide state level data).readSecrets → installed state other
  /-- It is set by the call that completes the handshake, if that call does not fail. -/
  oneRtt_completes : ∀ state level data, .oneRtt ∈ (provide state level data).readSecrets →
    (provide state level data).result ≠ .error .done ∧
      ((provide state level data).result = .ok () → completed (provide state level data).state = true)
  installed_of_completed : ∀ state, completed state = true →
    installed state .handshake ∧ installed state .oneRtt

/-! ## The connection -/

structure EarlyPacket (α π : Type) where
  pktType : PacketType
  bytes : π
  addr : α
  deriving DecidableEq

/-- A piece of crypto data that is read in order. `params` says that the transport parameters of the
peer, if they are applied now, are valid. -/
structure CryptoRead (ι : Type) where
  data : ι
  params : Bool
  /-- The outcome of the promotion to multipath mode. -/
  multipath : Except Error Unit

inductive HandshakeFrame (ι : Type) where
  | crypto (reads : List (CryptoRead ι))
  | handshakeDone
  /-- It may acknowledge a 1-RTT packet, and its processing may fail. -/
  | ack (oneRtt : Bool) (result : Except Error Unit)
  | connectionClose
  | other (result : Except Error Unit)

/-- What one call of `recv_packet` meets in its packet and in the rest of the connection. -/
structure Passage (ι : Type) where
  /-- The checks before the key is looked up. -/
  header : Except Error Unit
  /-- The checks of a Version Negotiation or a Retry packet. -/
  reset : Except Error Unit
  /-- The preparation of the handshake that follows one. -/
  restart : Except Error Unit
  /-- Both layers of protection. -/
  opening : Except Error Unit
  frames : List (HandshakeFrame ι)
  /-- What follows the frames. -/
  finish : Except Error Unit

/-- A connection during its handshake. `calls` counts the calls of `recv_packet`, and `accepted` and
`replayed` record the packets that were buffered and that were taken out again. -/
structure EarlyConn (σ α π : Type) where
  isServer : Bool
  tls : σ
  /-- The levels with an opening key. -/
  keys : Level → Bool
  established : Bool
  confirmed : Bool
  /-- It is closing, draining or closed. -/
  closing : Bool
  derivedInitialSecrets : Bool
  addrs : List α
  undecryptable : EarlyPackets (EarlyPacket α π)
  calls : Nat
  accepted : PacketType → List (EarlyPacket α π)
  replayed : PacketType → List (EarlyPacket α π)

structure EarlyDatagram (α π : Type) where
  addr : α
  pkts : List (PacketType × π)

def EarlyDatagram.packets {α π : Type} (datagram : EarlyDatagram α π) : List (EarlyPacket α π) :=
  datagram.pkts.map fun pkt => ⟨pkt.1, pkt.2, datagram.addr⟩

/-- How `recv` returns. -/
inductive Received where
  | empty
  /-- The datagram is from an address that the client does not know. -/
  | discarded
  | processed
  | failed (error : Error)
  deriving DecidableEq, Repr

def Received.isOk : Received → Bool
  | .discarded => true
  | .processed => true
  | _ => false

/-- The error that closes the connection. -/
def fatal : Except Error Unit → Option Error
  | .ok _ => none
  | .error .done => none
  | .error error => some error

namespace EarlyConn

variable {σ α π ι : Type}

def new (isServer : Bool) (tls : σ) (addrs : List α) (capacity : Nat) : EarlyConn σ α π where
  isServer := isServer
  tls := tls
  keys := fun level => decide (level = .initial) && !isServer
  established := false
  confirmed := false
  closing := false
  derivedInitialSecrets := !isServer
  addrs := addrs
  undecryptable := .new capacity
  calls := 0
  accepted := fun _ => []
  replayed := fun _ => []

def record (logs : PacketType → List (EarlyPacket α π)) (pkt : EarlyPacket α π) :
    PacketType → List (EarlyPacket α π) :=
  fun pktType => if pktType = pkt.pktType then logs pktType ++ [pkt] else logs pktType

def setKey (conn : EarlyConn σ α π) (level : Level) (present : Bool) : EarlyConn σ α π :=
  { conn with keys := fun other => if other = level then present else conn.keys other }

/-- The levels are given by `set_read_secret`. A client does not read 0-RTT packets. -/
def tlsStep (conn : EarlyConn σ α π) (step : TlsStep σ) : EarlyConn σ α π :=
  { conn with
    tls := step.state
    keys := fun level => conn.keys level ||
      (decide (level ∈ step.readSecrets) && (decide (level ≠ .zeroRtt) || conn.isServer)) }

/-- A server derives them from the first packet. -/
def deriveInitialSecrets (conn : EarlyConn σ α π) : EarlyConn σ α π :=
  if conn.derivedInitialSecrets then conn
  else { conn.setKey .initial true with derivedInitialSecrets := true }

def close (conn : EarlyConn σ α π) : EarlyConn σ α π := { conn with closing := true }

def tryBufferUndecryptablePackets (conn : EarlyConn σ α π) (pkt : EarlyPacket α π) :
    EarlyConn σ α π :=
  if conn.established || (conn.isServer && pkt.pktType ≠ .zeroRtt && pkt.pktType ≠ .oneRtt) ||
      (!conn.isServer && pkt.pktType ≠ .handshake && pkt.pktType ≠ .oneRtt) then conn
  else
    match conn.undecryptable.push pkt.pktType pkt with
    | none => conn
    | some packets =>
      { conn with undecryptable := packets, accepted := record conn.accepted pkt }

def confirmHandshake (conn : EarlyConn σ α π) : EarlyConn σ α π :=
  { conn with confirmed := true }.setKey .handshake false

def acknowledged (conn : EarlyConn σ α π) (oneRtt : Bool) : EarlyConn σ α π :=
  if conn.established && !conn.isServer && oneRtt then { conn with confirmed := true } else conn

section Handshake

variable (tls : TlsLibrary σ ι) (passes : Nat → Passage ι)
  (replay : EarlyConn σ α π → Option (EarlyConn σ α π))

/-- The result of TLS as the connection takes it. `replay` is
`try_process_undecryptable_packets`. -/
def processTlsSession (read : CryptoRead ι) (result : Except Error Unit) :
    Fuelled (EarlyConn σ α π) Error := fun conn =>
  if conn.established then some (result, conn)
  else
    match result with
    | .error .done =>
      some (if read.params then .ok () else .error .transportParameterError, conn)
    | .error error => some (.error error, conn)
    | .ok _ =>
      if !read.params then some (.error .transportParameterError, conn)
      else if tls.completed conn.tls then
        match replay { conn with established := true } with
        | none => none
        | some conn =>
          some (read.multipath, if conn.isServer then conn.confirmHandshake else conn)
      else some (.ok (), conn)

def recvCrypto (level : Level) (read : CryptoRead ι) : Fuelled (EarlyConn σ α π) Error :=
  fun conn =>
    processTlsSession tls replay read (tls.provide conn.tls level read.data).result
      (conn.tlsStep (tls.provide conn.tls level read.data))

def recvFrame (pktType : PacketType) (level : Level) (frame : HandshakeFrame ι) :
    Fuelled (EarlyConn σ α π) Error := fun conn =>
  match frame with
  | .crypto reads =>
    if pktType = .zeroRtt then some (.error .protocolViolation, conn)
    else Fuelled.each (recvCrypto tls replay level) reads conn
  | .handshakeDone =>
    if pktType ≠ .oneRtt || conn.isServer then some (.error .protocolViolation, conn)
    else some (.ok (), conn.confirmHandshake)
  | .ack oneRtt result =>
    if pktType = .zeroRtt then some (.error .protocolViolation, conn)
    else
      let conn := if pktType = .oneRtt then conn.acknowledged oneRtt else conn
      match result with
      | .error error => some (.error error, conn)
      | .ok _ => some (.ok (), if conn.confirmed then conn.setKey .handshake false else conn)
  | .connectionClose => some (.ok (), conn.close)
  | .other result => some (result, conn)

/-- An accepted Version Negotiation or Retry packet starts the handshake again. -/
def processReset (passage : Passage ι) : Fuelled (EarlyConn σ α π) Error := fun conn =>
  if conn.isServer then some (.error .done, conn)
  else
    match passage.reset with
    | .error error => some (.error error, conn)
    | .ok _ =>
      let conn := { conn.setKey .initial false with tls := tls.clear conn.tls }
      match passage.restart with
      | .error error => some (.error error, conn)
      | .ok _ =>
        let step := tls.process conn.tls
        some (step.result.bind fun _ => .error .done, (conn.setKey .initial true).tlsStep step)

def recvOpened (passage : Passage ι) (pktType : PacketType) (level : Level) :
    Fuelled (EarlyConn σ α π) Error :=
  Fuelled.andThen (Fuelled.ofExcept passage.opening) <|
    Fuelled.andThen (Fuelled.each (recvFrame tls replay pktType level) passage.frames) <|
      Fuelled.andThen (Fuelled.ofExcept passage.finish) fun conn =>
        some (.ok (),
          if conn.isServer && pktType = .handshake then conn.setKey .initial false else conn)

def recvPacket (pkt : EarlyPacket α π) : Fuelled (EarlyConn σ α π) Error := fun conn =>
  let passage := passes conn.calls
  let conn := { conn with calls := conn.calls + 1 }
  if conn.closing then some (.error .done, conn)
  else
    match passage.header with
    | .error error => some (.error error, conn)
    | .ok _ =>
      match pkt.pktType.toLevel with
      | .error _ => processReset tls passage conn
      | .ok level =>
        let conn := conn.deriveInitialSecrets
        if conn.keys level then recvOpened tls replay passage pkt.pktType level conn
        else some (.ok (), conn.tryBufferUndecryptablePackets pkt)

variable [DecidableEq α]

def recvWith (datagram : EarlyDatagram α π) (conn : EarlyConn σ α π) :
    Option (Received × EarlyConn σ α π) :=
  if datagram.pkts.isEmpty then some (.empty, conn)
  else if !conn.isServer && !conn.addrs.contains datagram.addr then some (.discarded, conn)
  else
    match Fuelled.each (recvPacket tls passes replay) datagram.packets conn with
    | none => none
    | some (result, conn) =>
      match fatal result with
      | some error => some (.failed error, conn.close)
      | none =>
        if conn.established then some (.processed, conn)
        else (replay conn).map fun conn => (.processed, conn)

end Handshake

variable [DecidableEq α]

def replayedTypes (conn : EarlyConn σ α π) : List PacketType :=
  if conn.isServer then [.zeroRtt, .oneRtt] else [.handshake, .oneRtt]

def replayAll (recv : EarlyPacket α π → EarlyConn σ α π → Option (EarlyConn σ α π))
    (pktType : PacketType) : Nat → EarlyConn σ α π → Option (EarlyConn σ α π)
  | 0, _ => none
  | fuel + 1, conn =>
    match conn.undecryptable.pop pktType with
    | none => some conn
    | some (pkt, rest) =>
      match recv pkt { conn with undecryptable := rest, replayed := record conn.replayed pkt } with
      | none => none
      | some conn => replayAll recv pktType fuel conn

def replayType (recv : EarlyPacket α π → EarlyConn σ α π → Option (EarlyConn σ α π)) (fuel : Nat)
    (conn : EarlyConn σ α π) (pktType : PacketType) : Option (EarlyConn σ α π) :=
  if conn.undecryptable.isEmpty pktType then some conn
  else
    match pktType.toLevel with
    | .error _ => some conn
    | .ok level => if conn.keys level then replayAll recv pktType fuel conn else some conn

/-- The calls of `recv` on packets that were kept call this function in turn. -/
def tryProcessUndecryptablePackets (tls : TlsLibrary σ ι) (passes : Nat → Passage ι) :
    Nat → EarlyConn σ α π → Option (EarlyConn σ α π)
  | 0, _ => none
  | fuel + 1, conn =>
    if conn.undecryptable.allEmpty then some conn
    else
      let recv := fun (pkt : EarlyPacket α π) (conn : EarlyConn σ α π) =>
        (recvWith tls passes (tryProcessUndecryptablePackets tls passes fuel)
          ⟨pkt.addr, [(pkt.pktType, pkt.bytes)]⟩ conn).map Prod.snd
      conn.replayedTypes.foldlM (replayType recv (fuel + 1)) conn

/-- The fuel is more than the packets that can be kept. -/
def recv (tls : TlsLibrary σ ι) (passes : Nat → Passage ι) (datagram : EarlyDatagram α π)
    (conn : EarlyConn σ α π) : Option (Received × EarlyConn σ α π) :=
  recvWith tls passes (tryProcessUndecryptablePackets tls passes
    (conn.undecryptable.size + datagram.pkts.length + 1)) datagram conn

end EarlyConn

/-! ## Runs -/

/-- What happens to the connection. Between datagrams it may continue the handshake without data,
discard its Initial keys, close and change its paths. -/
inductive EarlyOp (α π : Type) where
  | recv (datagram : EarlyDatagram α π)
  | process
  | dropInitial
  | close
  | setAddrs (addrs : List α)

namespace EarlyConn

variable {σ α π ι : Type} [DecidableEq α]

def apply (tls : TlsLibrary σ ι) (passes : Nat → Passage ι) (conn : EarlyConn σ α π) :
    EarlyOp α π → Option (EarlyConn σ α π)
  | .recv datagram => (conn.recv tls passes datagram).map Prod.snd
  | .process => some (conn.tlsStep (tls.process conn.tls))
  | .dropInitial => some (conn.setKey .initial false)
  | .close => some conn.close
  | .setAddrs addrs => some { conn with addrs := addrs }

inductive Reachable (tls : TlsLibrary σ ι) (passes : Nat → Passage ι) : EarlyConn σ α π → Prop where
  | new {state : σ} (fresh : ∀ level, ¬tls.installed state level) (isServer : Bool) (addrs : List α)
      (capacity : Nat) : Reachable tls passes (.new isServer state addrs capacity)
  | step {conn after : EarlyConn σ α π} (op : EarlyOp α π) (reached : Reachable tls passes conn)
      (applied : conn.apply tls passes op = some after) : Reachable tls passes after

theorem Reachable.next {tls : TlsLibrary σ ι} {passes : Nat → Passage ι}
    {conn : EarlyConn σ α π} (op : EarlyOp α π) (reached : Reachable tls passes conn)
    (taken : (conn.apply tls passes op).isSome = true) :
    Reachable tls passes ((conn.apply tls passes op).get taken) :=
  .step op reached (Option.some_get taken).symm

end EarlyConn

end Tquic.Connection
