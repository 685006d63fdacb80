import Tquic.PacketHeaders
import Tquic.Connection.AntiAmplification
import Tquic.Connection.KeySelection

/-! What a datagram with a 1-RTT packet changes before its protection is verified, after `recv`,
`recv_packet` and `get_or_create_path` of `connection.rs`. The handshake is completed, so that the
version and the initial secrets are settled. -/

set_option autoImplicit false

namespace Tquic.Connection

open Lib

variable {Opener Sealer : Type}

namespace KeyConn

def opens (conn : KeyConn Opener Sealer) (crypto : Crypto Opener Sealer) (packet : PacketIn) :
    Bool :=
  match packet.pktType.toLevel with
  | .error _ => false
  | .ok level =>
    match (conn.tls.keyCollection level).openKey with
    | none => false
    | some key =>
      match conn.unmask crypto packet key with
      | .error _ => false
      | .ok unmasked =>
        match (conn.selectKey crypto unmasked).1 with
        | .error _ => false
        | .ok selected => (conn.decryptPayload crypto packet unmasked selected.1).isOk

end KeyConn

/-- A connection as a datagram finds it. `pathSpaces` is the packet number space of each path, and
the spaces from `nextDataExtId` on do not exist yet. -/
structure Intake (Opener Sealer : Type) where
  conn : CidPaths
  keys : KeyConn Opener Sealer
  pathSpaces : Nat → SpaceId
  nextDataExtId : Nat

/-- A datagram that begins with a short header. Its packet takes all of it. -/
structure OneRttDatagram where
  addrs : SocketAddr × SocketAddr
  first : UInt8
  rest : Bytes
  short : longHeader first = false

def OneRttDatagram.buf (datagram : OneRttDatagram) : Bytes := datagram.first :: datagram.rest

namespace Intake

def addSpace (intake : Intake Opener Sealer) : SpaceId × Intake Opener Sealer :=
  (.dataExt intake.nextDataExtId,
    { intake with
      keys := intake.keys.setSpace (.dataExt intake.nextDataExtId) .new
      nextDataExtId := intake.nextDataExtId + 1 })

/-- The packet number space of a new path. After a rebinding of addresses it is the one of the path
that uses the connection id. -/
def spaceOfNewPath (intake : Intake Opener Sealer) (cidPid : Option Nat) :
    Except Error SpaceId × Intake Opener Sealer :=
  if !intake.keys.enableMultipath then (.ok .data, intake)
  else
    match cidPid with
    | none => (.ok intake.addSpace.1, intake.addSpace.2)
    | some pid =>
      if (intake.conn.paths.get pid).isSome then (.ok (intake.pathSpaces pid), intake)
      else (.error .internalError, intake)

def insertNewPath (intake : Intake Opener Sealer) (datagram : OneRttDatagram) (dcid : ConnectionId)
    (spaceId : SpaceId) : Except Error Nat × Intake Opener Sealer :=
  let located := intake.conn.getOrCreatePath none dcid datagram.addrs.1 datagram.addrs.2
    datagram.buf.length
  match located.1 with
  | .error error => (.error error, { intake with conn := located.2 })
  | .ok pid =>
    (.ok pid, { intake with
      conn := located.2
      pathSpaces := Function.update intake.pathSpaces pid spaceId })

def getOrCreatePath (intake : Intake Opener Sealer) (recvPid : Option Nat)
    (datagram : OneRttDatagram) (dcid : ConnectionId) : Except Error Nat × Intake Opener Sealer :=
  match intake.conn.cids.findScid dcid with
  | none => (.error .done, intake)
  | some (_, cidPid) =>
    match recvPid with
    | some recvPid =>
      let located := intake.conn.getOrCreatePath (some recvPid) dcid datagram.addrs.1
        datagram.addrs.2 datagram.buf.length
      (located.1, { intake with conn := located.2 })
    | none =>
      let spaced := intake.spaceOfNewPath
        (if intake.conn.cids.zeroLengthScid then none else cidPid)
      match spaced.1 with
      | .error error => (.error error, spaced.2)
      | .ok spaceId => spaced.2.insertNewPath datagram dcid spaceId

/-- The length of the source id of the active path. -/
def scidLen (intake : Intake Opener Sealer) : Except Error Nat :=
  match (intake.conn.paths.paths.find? (·.active)).bind
      (fun path => path.scidSeq.bind intake.conn.cids.scids.get) with
  | none => .error .internalError
  | some item => .ok item.cid.bytes.length

def readHeader (intake : Intake Opener Sealer) (datagram : OneRttDatagram) :
    Except Error (Header × Nat) :=
  if intake.conn.closing then .error .done
  else
    match intake.scidLen with
    | .error error => .error error
    | .ok dcidLen =>
      match Header.fromBytes datagram.buf dcidLen with
      | .error _ => .error .done
      | .ok read => .ok read

def packetOn (intake : Intake Opener Sealer) (datagram : OneRttDatagram) (read : Header × Nat)
    (pid : Nat) : PacketIn :=
  { buf := datagram.buf
    pktType := read.1.pktType
    pktNumOffset := read.2
    length := datagram.buf.length - read.2
    pathSpace := intake.pathSpaces pid
    cidSeq := (intake.conn.cids.findScid read.1.dcid).map (·.1) }

/-- `recv_packet` up to the protection of the packet. -/
def locate (intake : Intake Opener Sealer) (recvPid : Option Nat) (datagram : OneRttDatagram) :
    Except Error PacketIn × Intake Opener Sealer :=
  match intake.readHeader datagram with
  | .error error => (.error error, intake)
  | .ok read =>
    let located :=
      if intake.conn.handshakeCompleted then
        intake.getOrCreatePath recvPid datagram read.1.dcid
      else (intake.conn.paths.getActivePathId, intake)
    match located.1 with
    | .error error => (.error error, located.2)
    | .ok pid => (.ok (located.2.packetOn datagram read pid), located.2)

def recvPacket (intake : Intake Opener Sealer) (crypto : Crypto Opener Sealer)
    (recvPid : Option Nat) (datagram : OneRttDatagram) (now : Instant) (maxPto : Option Duration) :
    Except Error Unit × Intake Opener Sealer :=
  let located := intake.locate recvPid datagram
  match located.1 with
  | .error error => (.error error, located.2)
  | .ok packet =>
    let received := located.2.keys.recvPacket crypto packet now maxPto
    (received.1.map (fun _ => ()), { located.2 with keys := received.2 })

def credit (intake : Intake Opener Sealer) (datagram : OneRttDatagram) : Intake Opener Sealer :=
  match intake.conn.paths.getPathId datagram.addrs with
  | none => intake
  | some pid =>
    { intake with conn := { intake.conn with
      paths := intake.conn.paths.incAntiAmplLimit pid datagram.buf.length } }

def drops (intake : Intake Opener Sealer) (datagram : OneRttDatagram) : Bool :=
  (intake.conn.paths.getPathId datagram.addrs).isNone && !intake.conn.config.isServer

/-- `recv`. The rest of a datagram is skipped quietly, and other errors close the connection. -/
def recv (intake : Intake Opener Sealer) (crypto : Crypto Opener Sealer)
    (datagram : OneRttDatagram) (now : Instant) (maxPto : Option Duration) :
    Except Error Unit × Intake Opener Sealer :=
  if intake.drops datagram then (.ok (), intake)
  else
    let received := (intake.credit datagram).recvPacket crypto
      (intake.conn.paths.getPathId datagram.addrs) datagram now maxPto
    match received.1 with
    | .error .done => (.ok (), received.2)
    | .error error =>
      (.error error, { received.2 with conn := { received.2.conn with closing := true } })
    | .ok _ => (.ok (), received.2)

def authentic (intake : Intake Opener Sealer) (crypto : Crypto Opener Sealer)
    (datagram : OneRttDatagram) : Bool :=
  let located := (intake.credit datagram).locate (intake.conn.paths.getPathId datagram.addrs) datagram
  !intake.drops datagram &&
    match located.1 with
    | .error _ => false
    | .ok packet => located.2.keys.opens crypto packet

end Intake

/-! ## What stays as it was -/

/-- The paths without the credit of their unverified peers. -/
def PathMap.forgetCredit (map : PathMap) : PathMap :=
  { map with paths := map.paths.map ({ · with antiAmplLimit := 0 }) }

/-- Nothing but the credit of the paths has changed. -/
structure Untouched (before after : Intake Opener Sealer) : Prop where
  cids : after.conn.cids = before.conn.cids
  paths : after.conn.paths.forgetCredit = before.conn.paths.forgetCredit
  pathSpaces : after.pathSpaces = before.pathSpaces
  spaces : after.keys.spaces = before.keys.spaces
  nextDataExtId : after.nextDataExtId = before.nextDataExtId
  tls : after.keys.tls = before.keys.tls

structure KeysInUse (before after : TlsSession Opener Sealer) : Prop where
  keyCollection : after.keyCollection = before.keyCollection
  currentKeyPhase : after.currentKeyPhase = before.currentKeyPhase
  prevKey : after.prevKey = before.prevKey

/-- The packet makes the keys of the next phase be derived: it has the other key phase and a number
above the first one of the current phase. -/
def KeyConn.DerivesKey (conn : KeyConn Opener Sealer) (crypto : Crypto Opener Sealer)
    (packet : PacketIn) : Prop :=
  ∃ key unmasked first next, (conn.tls.keyCollection .oneRtt).openKey = some key ∧
    conn.unmask crypto packet key = .ok unmasked ∧ conn.confirmed = true ∧
      conn.enableMultipath = false ∧ conn.tls.currentKeyPhase ≠ unmasked.hdr.keyPhase ∧
        (conn.spaces unmasked.spaceId).firstPktNumRecv = some first ∧
          first < unmasked.hdr.pktNum ∧ conn.tls.nextKey = none ∧
            conn.tls.deriveKeys crypto = .ok next

def CidPaths.UsesId (conn : CidPaths) (path : Path) (pid cidSeq : Nat) (dcid : ConnectionId) : Prop :=
  (path.scidSeq.bind conn.cids.scids.get).map (·.cid) = some dcid ∨
    path.scidSeq = some cidSeq ∧ (conn.cids.scids.get cidSeq).bind (·.pathId) = some pid

/-- There is no slot for a new path. -/
def PathMap.Full (map : PathMap) : Prop :=
  map.maxPaths ≤ map.paths.length ∧ ∀ path ∈ map.paths, path.unused = false

namespace Intake

/-- No path and no packet number space is created for the address. -/
def Refuses (intake : Intake Opener Sealer) (cidPid : Option Nat) : Prop :=
  if intake.keys.enableMultipath then
    ∃ pid, (if intake.conn.cids.zeroLengthScid then none else cidPid) = some pid ∧
      (intake.conn.paths.get pid = none ∨ intake.conn.paths.Full)
  else intake.conn.paths.Full

/-- The datagram is not taken in, its connection id is unknown, or it meets a path that uses the id
and derives no key, or no path is left for its address. -/
def Inert (intake : Intake Opener Sealer) (crypto : Crypto Opener Sealer)
    (datagram : OneRttDatagram) : Prop :=
  intake.drops datagram = false → ∀ read, intake.readHeader datagram = .ok read →
    ∀ cidSeq cidPid, intake.conn.cids.findScid read.1.dcid = some (cidSeq, cidPid) →
      (∀ pid path, intake.conn.paths.getPathId datagram.addrs = some pid →
        intake.conn.paths.get pid = some path →
          intake.conn.UsesId path pid cidSeq read.1.dcid ∧
            ¬ intake.keys.DerivesKey crypto (intake.packetOn datagram read pid)) ∧
      (intake.conn.paths.getPathId datagram.addrs = none → intake.Refuses cidPid)

end Intake

/-! ## Keys -/

private theorem TlsSession.selectKey_keeps (session : TlsSession Opener Sealer)
    (crypto : Crypto Opener Sealer) (confirmed enableMultipath : Bool) {hdr : PacketHeader}
    (space : KeySpace) (short : hdr.pktType = .oneRtt) :
    KeysInUse session (session.selectKey crypto confirmed enableMultipath hdr space).2 ∧
      ((session.selectKey crypto confirmed enableMultipath hdr space).2 = session ↔
        ¬ ∃ first next, confirmed = true ∧ enableMultipath = false ∧
          session.currentKeyPhase ≠ hdr.keyPhase ∧ space.firstPktNumRecv = some first ∧
            first < hdr.pktNum ∧ session.nextKey = none ∧ session.deriveKeys crypto = .ok next) := by
  unfold selectKey
  split_ifs with current
  · rw [short]
    refine ⟨⟨rfl, rfl, rfl⟩, fun _ => ?_, fun _ => rfl⟩
    rintro ⟨first, next, settled, single, other, _⟩
    simp [short, settled, single, other] at current
  · push Not at current
    cases received : space.firstPktNumRecv with
    | none =>
      refine ⟨⟨rfl, rfl, rfl⟩, fun _ => ?_, fun _ => rfl⟩
      rintro ⟨first, _, _, _, _, same, _⟩
      cases same
    | some first =>
      dsimp only
      split_ifs with above
      · unfold selectNext takeNextKey
        cases kept : session.nextKey with
        | some next =>
          refine ⟨⟨rfl, rfl, rfl⟩, fun _ => ?_, fun _ => ?_⟩
          · rintro ⟨_, _, _, _, _, _, _, absent, _⟩
            cases absent
          · cases session
            cases kept
            rfl
        | none =>
          dsimp only
          cases derived : session.deriveKeys crypto with
          | error error =>
            refine ⟨⟨rfl, rfl, rfl⟩, fun _ => ?_, fun _ => rfl⟩
            rintro ⟨_, _, _, _, _, _, _, _, found⟩
            cases found
          | ok next =>
            refine ⟨⟨rfl, rfl, rfl⟩, fun same => ?_, fun idle => ?_⟩
            · have changed := congrArg TlsSession.nextKey same
              rw [kept] at changed
              cases changed
            · refine absurd ⟨first, next, ?_, ?_, current.2.2.1, rfl, above, rfl, rfl⟩ idle
              · simpa using current.1
              · simpa using current.2.2.2
      · refine ⟨⟨rfl, rfl, rfl⟩, fun _ => ?_, fun _ => rfl⟩
        rintro ⟨other, _, _, _, _, same, less, _⟩
        cases same
        exact above less

/-- A packet that no key opens leaves the keys in use; it may derive the next ones. -/
theorem KeyConn.recvPacket_unopened (conn : KeyConn Opener Sealer) {crypto : Crypto Opener Sealer}
    {packet : PacketIn} (short : packet.pktType = .oneRtt)
    (closed : conn.opens crypto packet = false) (now : Instant) (maxPto : Option Duration) :
    ∃ tls, (conn.recvPacket crypto packet now maxPto).2 = { conn with tls } ∧
      KeysInUse conn.tls tls ∧ (tls = conn.tls ↔ ¬ conn.DerivesKey crypto packet) := by
  unfold recvPacket
  unfold opens at closed
  rw [short] at closed ⊢
  simp only [PacketType.toLevel] at closed ⊢
  cases known : (conn.tls.keyCollection .oneRtt).openKey with
  | none =>
    refine ⟨conn.tls, rfl, ⟨rfl, rfl, rfl⟩, fun _ => ?_, fun _ => rfl⟩
    rintro ⟨key, _, _, _, same, _⟩
    rw [known] at same
    cases same
  | some key =>
    rw [known] at closed
    dsimp only at closed ⊢
    cases unmasks : conn.unmask crypto packet key with
    | error error =>
      refine ⟨conn.tls, rfl, ⟨rfl, rfl, rfl⟩, fun _ => ?_, fun _ => rfl⟩
      rintro ⟨other, unmasked, _, _, same, removed, _⟩
      rw [known] at same
      cases same
      rw [unmasks] at removed
      cases removed
    | ok unmasked =>
      rw [unmasks] at closed
      dsimp only at closed ⊢
      have kind := (unmask_short unmasks).1.trans short
      obtain ⟨inUse, same⟩ := conn.tls.selectKey_keeps crypto conn.confirmed
        conn.enableMultipath (conn.spaces unmasked.spaceId) kind
      refine ⟨(conn.selectKey crypto unmasked).2, ?_, inUse, same.trans (not_congr ?_)⟩
      · unfold openPacket
        cases selected : (conn.selectKey crypto unmasked).1 with
        | error error => simp only [selected]
        | ok chosen =>
          rw [selected] at closed
          dsimp only at closed
          simp only [selected]
          cases opened : conn.decryptPayload crypto packet unmasked chosen.1 with
          | error error => rfl
          | ok payload =>
            rw [opened] at closed
            cases closed
      · constructor
        · rintro ⟨first, next, rest⟩
          exact ⟨key, unmasked, first, next, known, unmasks, rest⟩
        · rintro ⟨other, found, first, next, same, removed, rest⟩
          rw [known] at same
          cases same
          rw [unmasks] at removed
          cases removed
          exact ⟨first, next, rest⟩

/-! ## Paths -/

namespace PathMap

private theorem forgetCredit_incAntiAmplLimit (map : PathMap) (pathId pktLen : Nat) :
    (map.incAntiAmplLimit pathId pktLen).forgetCredit = map.forgetCredit := by
  unfold incAntiAmplLimit updateLimit
  split
  · rfl
  · unfold forgetCredit modify
    congr 1
    refine List.ext_getElem? fun index => ?_
    rw [List.getElem?_map, List.getElem?_map, List.getElem?_modify]
    cases map.paths[index]? with
    | none => rfl
    | some path =>
      by_cases own : pathId = index
      · by_cases verified : path.verifiedPeerAddress = true <;> simp [own, verified]
      · simp [own]

theorem get_forgetCredit (map : PathMap) (pathId : Nat) :
    map.forgetCredit.get pathId = (map.get pathId).map ({ · with antiAmplLimit := 0 }) :=
  List.getElem?_map

theorem getPathId_alike {map other : PathMap} (alike : map.forgetCredit = other.forgetCredit) :
    map.getPathId = other.getPathId := by
  have same : map.addrs = other.addrs := (congrArg PathMap.addrs alike :)
  funext addrs
  rw [getPathId, getPathId, same]

theorem getPathId_register (addrs : List ((SocketAddr × SocketAddr) × Nat)) (path : Path)
    (pathId : Nat) :
    ((register addrs path pathId).find? (fun entry =>
      entry.1 = (path.localAddr, path.remoteAddr))).map (·.2) = some pathId := by
  simp [register]

private theorem insertPath_known {map next : PathMap} {path : Path} {pathId : Nat}
    (inserted : map.insertPath path = .ok (pathId, next)) :
    next.getPathId (path.localAddr, path.remoteAddr) = some pathId := by
  unfold insertPath at inserted
  split at inserted
  · split at inserted
    · cases inserted
    · cases inserted
      exact getPathId_register _ _ _
  · cases inserted
    exact getPathId_register _ _ _

private theorem insertPath_full {map : PathMap} (full : map.Full) (path : Path) :
    map.insertPath path = .error .done := by
  have none_unused : map.paths.findIdx? (·.unused) = none := by
    rw [List.findIdx?_eq_none_iff]
    exact full.2
  rw [insertPath, if_pos full.1, none_unused]

private theorem insertPath_room {map : PathMap} (room : ¬ map.Full) (path : Path) :
    ∃ pathId next, map.insertPath path = .ok (pathId, next) := by
  unfold insertPath
  split
  · rename_i limit
    cases found : map.paths.findIdx? (·.unused) with
    | none =>
      rw [List.findIdx?_eq_none_iff] at found
      exact absurd ⟨limit, found⟩ room
    | some pathId => exact ⟨_, _, rfl⟩
  · exact ⟨_, _, rfl⟩

end PathMap

theorem ConnectionIdDeque.markUsed_same {seq pathId : Nat} {queue marked : List ConnectionIdItem}
    (used : markUsed seq pathId queue = some marked) :
    marked = queue ↔ (queue.find? (fun item => item.seq = seq)).bind (·.pathId) = some pathId := by
  induction queue generalizing marked with
  | nil => cases used
  | cons item rest ih =>
    unfold markUsed at used
    split_ifs at used with own
    · cases used
      rw [List.find?_cons_of_pos (by simpa using own), List.cons_eq_cons]
      constructor
      · rintro ⟨same, _⟩
        rw [← same]
        rfl
      · intro same
        refine ⟨?_, rfl⟩
        cases item
        exact congrArg _ (Eq.symm same)
    · obtain ⟨later, found, same⟩ := Option.map_eq_some_iff.mp used
      cases same
      rw [List.find?_cons_of_neg (by simpa using own), ← ih found, List.cons_eq_cons]
      exact and_iff_right rfl

namespace CidPaths

variable {conn : CidPaths} {cidPid : Option Nat} {dcid : ConnectionId}

/-- A known path is left as it is exactly if it uses the id of the packet already. -/
theorem usePath_same {pid cidSeq : Nat} {path : Path} (present : conn.paths.get pid = some path)
    (known : conn.cids.findScid dcid = some (cidSeq, cidPid)) :
    ∃ next, conn.usePath pid cidSeq dcid = (.ok pid, next) ∧
      (next.cids = conn.cids ∧ next.paths.forgetCredit = conn.paths.forgetCredit ↔
        conn.UsesId path pid cidSeq dcid) := by
  unfold usePath UsesId
  rw [present]
  dsimp only
  split_ifs with other
  · obtain ⟨cids, marks⟩ := markScidUsed_of_findScid known pid
    rw [marks]
    refine ⟨_, rfl, ?_⟩
    unfold ConnectionIdMgr.markScidUsed at marks
    cases used : ConnectionIdDeque.markUsed cidSeq pid conn.cids.scids.queue with
    | none =>
      rw [used] at marks
      cases marks
    | some queue =>
      rw [used] at marks
      cases marks
      have marked : ({ conn.cids with scids := { conn.cids.scids with queue } } : ConnectionIdMgr) =
          conn.cids ↔ queue = conn.cids.scids.queue := by
        constructor
        · exact fun same => congrArg (·.scids.queue) same
        · rintro rfl
          rfl
      have moved : (conn.paths.set pid { path with scidSeq := some cidSeq }).forgetCredit =
          conn.paths.forgetCredit ↔ path.scidSeq = some cidSeq := by
        constructor
        · intro same
          have slot := congrArg (PathMap.get · pid) same
          have stored : pid < conn.paths.paths.length := (List.getElem?_eq_some_iff.mp present).1
          rw [PathMap.get_forgetCredit, PathMap.get_forgetCredit, present, PathMap.set,
            PathMap.get, List.getElem?_set_self stored] at slot
          have fields := congrArg Path.scidSeq (Option.some.inj slot)
          exact fields.symm
        · intro same
          have unchanged : ({ path with scidSeq := some cidSeq } : Path) = path := by
            rw [← same]
          have slots : conn.paths.paths.set pid path = conn.paths.paths := by
            obtain ⟨stored, rfl⟩ := List.getElem?_eq_some_iff.mp present
            exact List.set_getElem_self stored
          rw [unchanged, PathMap.set, slots]
      rw [marked, moved, ConnectionIdDeque.markUsed_same used]
      constructor
      · rintro ⟨named, own⟩
        exact .inr ⟨own, named⟩
      · rintro (same | ⟨own, named⟩)
        · exact absurd same other
        · exact ⟨named, own⟩
  · push Not at other
    exact ⟨_, rfl, fun _ => .inl other, fun _ => ⟨rfl, rfl⟩⟩

private theorem getOrCreatePath_full {cidSeq : Nat}
    (known : conn.cids.findScid dcid = some (cidSeq, cidPid)) (full : conn.paths.Full)
    (localAddr remoteAddr : SocketAddr) (bufLen : Nat) :
    conn.getOrCreatePath none dcid localAddr remoteAddr bufLen = (.error .done, conn) := by
  unfold getOrCreatePath
  rw [known]
  dsimp only
  rw [PathMap.insertPath_full full]

private theorem getOrCreatePath_room {cidSeq : Nat}
    (known : conn.cids.findScid dcid = some (cidSeq, cidPid)) (room : ¬ conn.paths.Full)
    (localAddr remoteAddr : SocketAddr) (bufLen : Nat) :
    ∃ pid next, conn.getOrCreatePath none dcid localAddr remoteAddr bufLen = (.ok pid, next) ∧
      next.paths.getPathId (localAddr, remoteAddr) = some pid := by
  unfold getOrCreatePath
  rw [known]
  dsimp only
  generalize fresh : ({ Path.new localAddr remoteAddr false conn.config.maxDatagramSize with
    antiAmplLimit := if conn.config.isServer then bufLen * conn.paths.antiAmplFactor else 0
    scidSeq := some cidSeq
    needSendChallenge := true } : Path) = path
  obtain ⟨pid, paths, inserted⟩ := PathMap.insertPath_room room path
  have named := PathMap.insertPath_known inserted
  rw [← fresh] at named
  rw [inserted]
  dsimp only
  split_ifs
  · obtain ⟨cids, marks⟩ := markScidUsed_of_findScid known pid
    rw [marks]
    exact ⟨pid, _, rfl, named⟩
  · exact ⟨pid, _, rfl, named⟩

end CidPaths

/-! ## Forged datagrams -/

theorem KeysInUse.refl (session : TlsSession Opener Sealer) : KeysInUse session session :=
  ⟨rfl, rfl, rfl⟩

namespace Untouched

variable {before middle after : Intake Opener Sealer}

theorem refl (intake : Intake Opener Sealer) : Untouched intake intake :=
  ⟨rfl, rfl, rfl, rfl, rfl, rfl⟩

theorem symm (same : Untouched before after) : Untouched after before :=
  ⟨same.cids.symm, same.paths.symm, same.pathSpaces.symm, same.spaces.symm,
    same.nextDataExtId.symm, same.tls.symm⟩

theorem trans (first : Untouched before middle) (second : Untouched middle after) :
    Untouched before after :=
  ⟨second.cids.trans first.cids, second.paths.trans first.paths,
    second.pathSpaces.trans first.pathSpaces, second.spaces.trans first.spaces,
    second.nextDataExtId.trans first.nextDataExtId, second.tls.trans first.tls⟩

private theorem iff_of_left (first : Untouched before middle) :
    Untouched before after ↔ Untouched middle after :=
  ⟨first.symm.trans, first.trans⟩

end Untouched

theorem Header.fromBytes_short {datagram : OneRttDatagram} {dcidLen : Nat} {read : Header × Nat}
    (parsed : Header.fromBytes datagram.buf dcidLen = .ok read) : read.1.pktType = .oneRtt := by
  unfold Header.fromBytes at parsed
  cases ran : (Header.readHeader dcidLen).run datagram.buf with
  | error error =>
    rw [ran] at parsed
    cases parsed
  | ok result =>
    obtain ⟨hdr, left⟩ := result
    rw [ran] at parsed
    cases parsed
    obtain ⟨first, rest, led, ran⟩ := run_bind_ok.mp ran
    have leads : Header.readFirst.run datagram.buf =
        .ok (UInt8.ofNat (BigEndian.decode [datagram.first]), datagram.rest) := rfl
    rw [BigEndian.decode_singleton, UInt8.ofNat_toNat, led] at leads
    cases leads
    rw [datagram.short, if_neg Bool.false_ne_true] at ran
    obtain ⟨_, _, _, last⟩ := run_bind_ok.mp ran
    cases last
    rfl

namespace Intake

variable {intake : Intake Opener Sealer} {datagram : OneRttDatagram}

theorem credit_spec (intake : Intake Opener Sealer) (datagram : OneRttDatagram) :
    ∃ paths, intake.credit datagram = { intake with conn := { intake.conn with paths } } ∧
      paths.forgetCredit = intake.conn.paths.forgetCredit := by
  unfold credit
  split
  · exact ⟨intake.conn.paths, rfl, rfl⟩
  · exact ⟨_, rfl, PathMap.forgetCredit_incAntiAmplLimit _ _ _⟩

theorem readHeader_short {read : Header × Nat} (taken : intake.readHeader datagram = .ok read) :
    read.1.pktType = .oneRtt := by
  unfold readHeader at taken
  split_ifs at taken
  cases known : intake.scidLen with
  | error error =>
    rw [known] at taken
    cases taken
  | ok dcidLen =>
    rw [known] at taken
    dsimp only at taken
    cases parsed : Header.fromBytes datagram.buf dcidLen with
    | error error =>
      rw [parsed] at taken
      cases taken
    | ok found =>
      rw [parsed] at taken
      cases taken
      exact Header.fromBytes_short parsed

private theorem readHeader_forgets {paths : PathMap}
    (same : paths.forgetCredit = intake.conn.paths.forgetCredit) :
    ({ intake with conn := { intake.conn with paths } } : Intake Opener Sealer).readHeader datagram =
      intake.readHeader datagram := by
  have active (map : PathMap) : (map.paths.find? (·.active)).bind
      (fun path => path.scidSeq.bind intake.conn.cids.scids.get) =
        (map.forgetCredit.paths.find? (·.active)).bind
          (fun path => path.scidSeq.bind intake.conn.cids.scids.get) := by
    rw [PathMap.forgetCredit, List.find?_map, Option.bind_map]
    rfl
  unfold readHeader scidLen
  dsimp only
  rw [active paths, active intake.conn.paths, same]

variable {dcid : ConnectionId} {cidPid : Option Nat}

/-- A datagram from a new address is refused, or it leaves a trace: its path. -/
theorem getOrCreatePath_new {cidSeq : Nat}
    (fresh : intake.conn.paths.getPathId datagram.addrs = none)
    (known : intake.conn.cids.findScid dcid = some (cidSeq, cidPid)) :
    (intake.getOrCreatePath none datagram dcid).2.keys.tls = intake.keys.tls ∧
      (intake.Refuses cidPid → ∃ error,
        intake.getOrCreatePath none datagram dcid = (.error error, intake)) ∧
      (¬ intake.Refuses cidPid → ∀ keys,
        ¬ Untouched intake { (intake.getOrCreatePath none datagram dcid).2 with keys }) := by
  have inserted (spaceId : SpaceId) : (intake.insertNewPath datagram dcid spaceId).2.keys.tls =
      intake.keys.tls ∧
      (intake.conn.paths.Full →
        intake.insertNewPath datagram dcid spaceId = (.error .done, intake)) ∧
      (¬ intake.conn.paths.Full → ∀ keys,
        ¬ Untouched intake { (intake.insertNewPath datagram dcid spaceId).2 with keys }) := by
    unfold insertNewPath
    by_cases full : intake.conn.paths.Full
    · rw [CidPaths.getOrCreatePath_full known full]
      exact ⟨rfl, fun _ => rfl, fun room => absurd full room⟩
    · obtain ⟨pid, next, created, named⟩ := CidPaths.getOrCreatePath_room known full
        datagram.addrs.1 datagram.addrs.2 datagram.buf.length
      rw [created]
      refine ⟨rfl, fun room => absurd room full, fun _ keys same => ?_⟩
      rw [PathMap.getPathId_alike same.paths, fresh] at named
      cases named
  unfold getOrCreatePath Refuses spaceOfNewPath
  rw [known]
  dsimp only
  by_cases multipath : intake.keys.enableMultipath = true
  · rw [multipath, Bool.not_true, if_neg Bool.false_ne_true, if_pos rfl]
    cases owner : (if intake.conn.cids.zeroLengthScid = true then none else cidPid) with
    | none =>
      refine ⟨?_, ?_, fun _ keys same => ?_⟩
      · dsimp only
        unfold insertNewPath
        dsimp only
        split <;> rfl
      · rintro ⟨pid, absent, _⟩
        cases absent
      · have next := same.nextDataExtId
        have more : ((intake.addSpace.2.insertNewPath datagram dcid
            intake.addSpace.1).2).nextDataExtId = intake.nextDataExtId + 1 := by
          unfold insertNewPath
          dsimp only
          split <;> rfl
        dsimp only at next
        omega
    | some pid =>
      dsimp only
      by_cases stored : (intake.conn.paths.get pid).isSome = true
      · rw [if_pos stored]
        obtain ⟨tls, full, room⟩ := inserted (intake.pathSpaces pid)
        refine ⟨tls, ?_, fun refused => room fun full => refused ⟨pid, rfl, .inr full⟩⟩
        rintro ⟨other, same, absent | filled⟩
        · cases same
          rw [absent] at stored
          cases stored
        · exact ⟨_, full filled⟩
      · rw [if_neg stored]
        refine ⟨rfl, fun _ => ⟨_, rfl⟩, fun refused => absurd ⟨pid, rfl, .inl ?_⟩ refused⟩
        simpa using stored
  · rw [Bool.not_eq_true] at multipath
    rw [multipath, Bool.not_false, if_pos rfl, if_neg Bool.false_ne_true]
    obtain ⟨tls, full, room⟩ := inserted .data
    exact ⟨tls, fun filled => ⟨_, full filled⟩, room⟩

private theorem getOrCreatePath_known {cidSeq pid : Nat}
    {path : Path} (known : intake.conn.cids.findScid dcid = some (cidSeq, cidPid))
    (present : intake.conn.paths.get pid = some path) :
    ∃ next, intake.getOrCreatePath (some pid) datagram dcid = (.ok pid, { intake with conn := next }) ∧
      (next.cids = intake.conn.cids ∧
        next.paths.forgetCredit = intake.conn.paths.forgetCredit ↔
          intake.conn.UsesId path pid cidSeq dcid) := by
  obtain ⟨next, used, same⟩ := CidPaths.usePath_same present known
  refine ⟨next, ?_, same⟩
  unfold getOrCreatePath CidPaths.getOrCreatePath
  rw [known]
  dsimp only
  rw [used]

private theorem getOrCreatePath_missing {cidSeq pid : Nat}
    (known : intake.conn.cids.findScid dcid = some (cidSeq, cidPid))
    (absent : intake.conn.paths.get pid = none) :
    intake.getOrCreatePath (some pid) datagram dcid = (.error .internalError, intake) := by
  unfold getOrCreatePath CidPaths.getOrCreatePath CidPaths.usePath
  rw [known]
  dsimp only
  rw [absent]

inductive Located (intake : Intake Opener Sealer) (datagram : OneRttDatagram) :
    Except Error PacketIn × Intake Opener Sealer → Prop where
  | refused {error : Error} (idle : ∀ crypto, intake.Inert crypto datagram) :
      Located intake datagram (.error error, intake)
  | created {result : Except Error PacketIn} {located : Intake Opener Sealer}
      (short : ∀ packet, result = .ok packet → packet.pktType = .oneRtt)
      (tls : located.keys.tls = intake.keys.tls)
      (moved : ∀ keys, ¬ Untouched intake { located with keys })
      (busy : ∀ crypto, ¬ intake.Inert crypto datagram) : Located intake datagram (result, located)
  | arrived {read : Header × Nat} {pid cidSeq : Nat} {cidPid : Option Nat} {path : Path}
      {next : CidPaths} (taken : intake.readHeader datagram = .ok read)
      (named : intake.conn.paths.getPathId datagram.addrs = some pid)
      (present : intake.conn.paths.get pid = some path)
      (known : intake.conn.cids.findScid read.1.dcid = some (cidSeq, cidPid))
      (same : next.cids = intake.conn.cids ∧
        next.paths.forgetCredit = intake.conn.paths.forgetCredit ↔
          intake.conn.UsesId path pid cidSeq read.1.dcid) :
      Located intake datagram
        (.ok (({ intake with conn := next } : Intake Opener Sealer).packetOn datagram read pid),
          { intake with conn := next })

private theorem locate_cases (completed : intake.conn.handshakeCompleted = true)
    (kept : intake.drops datagram = false) :
    Located intake datagram
      (intake.locate (intake.conn.paths.getPathId datagram.addrs) datagram) := by
  unfold locate
  cases taken : intake.readHeader datagram with
  | error error =>
    refine .refused fun crypto _ read same => ?_
    rw [taken] at same
    cases same
  | ok read =>
    dsimp only
    rw [if_pos completed]
    cases known : intake.conn.cids.findScid read.1.dcid with
    | none =>
      have refused (recvPid : Option Nat) :
          intake.getOrCreatePath recvPid datagram read.1.dcid = (.error .done, intake) := by
        unfold getOrCreatePath
        rw [known]
      rw [refused]
      refine .refused fun crypto _ other same cidSeq cidPid found => ?_
      rw [taken] at same
      cases same
      rw [known] at found
      cases found
    | some entry =>
      obtain ⟨cidSeq, cidPid⟩ := entry
      cases named : intake.conn.paths.getPathId datagram.addrs with
      | none =>
        obtain ⟨tls, quiet, moved⟩ := getOrCreatePath_new named known
        by_cases refuses : intake.Refuses cidPid
        · obtain ⟨error, same⟩ := quiet refuses
          rw [same]
          refine .refused fun crypto _ other same seq owner found => ?_
          rw [taken] at same
          cases same
          rw [known] at found
          cases found
          refine ⟨fun pid path arrived => ?_, fun _ => refuses⟩
          rw [named] at arrived
          cases arrived
        · have busy : ∀ crypto, ¬ intake.Inert crypto datagram := fun crypto inert =>
            refuses ((inert kept read taken cidSeq cidPid known).2 named)
          cases (intake.getOrCreatePath none datagram read.1.dcid).1 with
          | error error => exact .created (fun _ same => nomatch same) tls (moved refuses) busy
          | ok pid =>
            refine .created (fun packet same => ?_) tls (moved refuses) busy
            cases same
            exact readHeader_short taken
      | some pid =>
        cases present : intake.conn.paths.get pid with
        | none =>
          rw [getOrCreatePath_missing known present]
          refine .refused fun crypto _ other same seq owner found => ?_
          refine ⟨fun slot path arrived stored => ?_, fun absent => ?_⟩
          · rw [named] at arrived
            cases arrived
            rw [present] at stored
            cases stored
          · rw [named] at absent
            cases absent
        | some path =>
          obtain ⟨next, located, same⟩ := getOrCreatePath_known known present
          rw [located]
          exact .arrived taken named present known same

/-- `recv_packet` on a packet that is not opened. -/
theorem recvPacket_forged {crypto : Crypto Opener Sealer}
    (completed : intake.conn.handshakeCompleted = true) (kept : intake.drops datagram = false)
    (forged : ∀ packet, (intake.locate (intake.conn.paths.getPathId datagram.addrs) datagram).1 =
      .ok packet → (intake.locate (intake.conn.paths.getPathId datagram.addrs) datagram).2.keys.opens
        crypto packet = false) (now : Instant) (maxPto : Option Duration) :
    KeysInUse intake.keys.tls (intake.recvPacket crypto
        (intake.conn.paths.getPathId datagram.addrs) datagram now maxPto).2.keys.tls ∧
      (Untouched intake (intake.recvPacket crypto (intake.conn.paths.getPathId datagram.addrs)
        datagram now maxPto).2 ↔ intake.Inert crypto datagram) := by
  have cases := locate_cases completed kept
  unfold recvPacket
  generalize intake.locate (intake.conn.paths.getPathId datagram.addrs) datagram = result at *
  cases cases with
  | refused idle => exact ⟨.refl _, fun _ => idle crypto, fun _ => .refl _⟩
  | @created result located short tls moved busy =>
    cases result with
    | error error =>
      exact ⟨tls ▸ .refl _, fun same => absurd same (moved located.keys),
        fun inert => absurd inert (busy crypto)⟩
    | ok packet =>
      obtain ⟨after, received, inUse, _⟩ := located.keys.recvPacket_unopened (short packet rfl)
        (forged packet rfl) now maxPto
      dsimp only
      rw [received]
      exact ⟨tls ▸ inUse, fun same => absurd same (moved _),
        fun inert => absurd inert (busy crypto)⟩
  | @arrived read pid cidSeq cidPid path next taken named present known same =>
    obtain ⟨tls, received, inUse, idle⟩ :=
      intake.keys.recvPacket_unopened (readHeader_short taken) (forged _ rfl) now maxPto
    dsimp only at received ⊢
    rw [received]
    refine ⟨inUse, fun untouched => ?_, fun inert => ?_⟩
    · intro _ other again seq owner found
      rw [taken] at again
      cases again
      rw [known] at found
      cases found
      refine ⟨fun slot stored arrived there => ?_, fun absent => ?_⟩
      · rw [named] at arrived
        cases arrived
        rw [present] at there
        cases there
        have own : next.cids = intake.conn.cids := untouched.cids
        have spared := idle.mp untouched.tls
        rw [packetOn, own] at spared
        exact ⟨same.mp ⟨own, untouched.paths⟩, spared⟩
      · rw [named] at absent
        cases absent
    · obtain ⟨uses, spared⟩ := (inert kept read taken cidSeq cidPid known).1 pid path named present
      obtain ⟨own, paths⟩ := same.mpr uses
      refine ⟨own, paths, rfl, rfl, rfl, idle.mpr ?_⟩
      rw [packetOn, own]
      exact spared

/-- Whether a datagram is inert does not depend on the credit of the paths. -/
theorem Inert.of_alike {crypto : Crypto Opener Sealer} {paths : PathMap} {pid : Nat}
    (alike : paths.forgetCredit = intake.conn.paths.forgetCredit)
    (named : intake.conn.paths.getPathId datagram.addrs = some pid)
    (inert : intake.Inert crypto datagram) :
    ({ intake with conn := { intake.conn with paths } } : Intake Opener Sealer).Inert crypto
      datagram := by
  have addrs := congrFun (PathMap.getPathId_alike alike) datagram.addrs
  intro kept read taken cidSeq cidPid known
  rw [readHeader_forgets alike] at taken
  have dropped : intake.drops datagram = false := by
    rw [drops, ← addrs]
    exact kept
  obtain ⟨quiet, _⟩ := inert dropped read taken cidSeq cidPid known
  refine ⟨fun slot path arrived stored => ?_, fun absent => ?_⟩
  · have slots := congrArg (PathMap.get · slot) alike
    rw [PathMap.get_forgetCredit, PathMap.get_forgetCredit, stored] at slots
    obtain ⟨old, present, same⟩ := Option.map_eq_some_iff.mp slots.symm
    have scid : old.scidSeq = path.scidSeq := (congrArg Path.scidSeq same :)
    obtain ⟨uses, spared⟩ := quiet slot old (addrs ▸ arrived) present
    rw [CidPaths.UsesId, scid] at uses
    exact ⟨uses, spared⟩
  · rw [addrs, named] at absent
    cases absent

private theorem inert_credit (intake : Intake Opener Sealer) (crypto : Crypto Opener Sealer)
    (datagram : OneRttDatagram) :
    (intake.credit datagram).Inert crypto datagram ↔ intake.Inert crypto datagram := by
  cases named : intake.conn.paths.getPathId datagram.addrs with
  | none =>
    rw [credit, named]
  | some pid =>
    obtain ⟨paths, same, alike⟩ := credit_spec intake datagram
    have addrs := (congrFun (PathMap.getPathId_alike alike) datagram.addrs).trans named
    rw [same]
    refine ⟨fun inert => ?_, .of_alike alike named⟩
    exact @Inert.of_alike _ _ { intake with conn := { intake.conn with paths } } datagram crypto
      intake.conn.paths pid alike.symm addrs inert

/-- A packet that is not authentic never changes the keys in use or the key phase, and leaves all
else but the credit of the paths as it was exactly if it is not taken in, comes for an unknown
connection id, meets a path that uses its id without making a key be derived, or finds no room for
a new path. -/
theorem forged_packet_inert (intake : Intake Opener Sealer) (crypto : Crypto Opener Sealer)
    (datagram : OneRttDatagram) (now : Instant) (maxPto : Option Duration)
    (completed : intake.conn.handshakeCompleted = true)
    (forged : intake.authentic crypto datagram = false) :
    KeysInUse intake.keys.tls (intake.recv crypto datagram now maxPto).2.keys.tls ∧
      (Untouched intake (intake.recv crypto datagram now maxPto).2 ↔
        intake.Inert crypto datagram) := by
  unfold recv
  by_cases dropped : intake.drops datagram = true
  · rw [if_pos dropped]
    refine ⟨.refl _, fun _ kept => ?_, fun _ => .refl _⟩
    rw [dropped] at kept
    cases kept
  · rw [if_neg dropped]
    obtain ⟨paths, same, alike⟩ := credit_spec intake datagram
    have addrs := congrFun (PathMap.getPathId_alike alike) datagram.addrs
    have inert := inert_credit intake crypto datagram
    have credited : Untouched intake (intake.credit datagram) := by
      rw [same]
      exact ⟨rfl, alike, rfl, rfl, rfl, rfl⟩
    unfold authentic at forged
    dsimp only at forged
    rw [same] at inert credited forged ⊢
    generalize earlier : ({ intake with conn := { intake.conn with paths } } : Intake Opener Sealer) =
      base at *
    have arrives : base.conn.paths.getPathId datagram.addrs =
        intake.conn.paths.getPathId datagram.addrs := by
      rw [← earlier]
      exact addrs
    have kept : base.drops datagram = false := by
      rw [← earlier, drops, addrs]
      exact Bool.eq_false_of_not_eq_true dropped
    have keys : base.keys.tls = intake.keys.tls := by
      rw [← earlier]
    rw [← arrives] at forged ⊢
    rw [Bool.eq_false_of_not_eq_true dropped, Bool.not_false, Bool.true_and] at forged
    have unopened : ∀ packet,
        (base.locate (base.conn.paths.getPathId datagram.addrs) datagram).1 = .ok packet →
          (base.locate (base.conn.paths.getPathId datagram.addrs) datagram).2.keys.opens
            crypto packet = false := by
      intro packet located
      rw [located] at forged
      exact forged
    have received := recvPacket_forged (by rw [← earlier]; exact completed) kept unopened now maxPto
    rw [← inert, ← received.2, ← keys, credited.iff_of_left]
    refine ⟨?_, ?_⟩
    · dsimp only
      split <;> exact received.1
    · dsimp only
      split
      · rfl
      · exact ⟨fun same => ⟨same.cids, same.paths, same.pathSpaces, same.spaces,
          same.nextDataExtId, same.tls⟩, fun same => ⟨same.cids, same.paths, same.pathSpaces,
          same.spaces, same.nextDataExtId, same.tls⟩⟩
      · rfl

/-- A cipher that opens what ends with its tag. -/
def sampleCrypto : Crypto Unit Unit where
  newMask _ _ := .ok (Vector.replicate 5 0)
  openPayload _ _ _ _ payload :=
    if payload.drop (payload.length - 16) = List.replicate 16 7 then
      .ok (payload.take (payload.length - 16))
    else .error .tlsFail
  deriveOpen := .ok
  deriveSeal := .ok

def sampleScid : ConnectionId := .new [1, 2, 3, 4, 5, 6, 7, 8]

def sampleServer : Intake Unit Unit where
  conn := { CidPaths.start (.default true) (.localhost 443) (.localhost 5000) true sampleScid none
    (.new [9]) none with handshakeCompleted := true }
  keys := { (KeyConn.start false : KeyConn Unit Unit) with
    tls := TlsSession.new.setKeys .oneRtt ⟨some (), some ()⟩, confirmed := true }
  pathSpaces _ := .data
  nextDataExtId := 3

/-- A short header for the server, with a payload that no key opens. -/
def sampleForgery (port : UInt16) : OneRttDatagram where
  addrs := (.localhost 443, .localhost port)
  first := 0x40
  rest := [1, 2, 3, 4, 5, 6, 7, 8] ++ List.replicate 24 0
  short := by decide

/-- From the address of the client a forged packet changes nothing. -/
theorem forged_packet_inert_known :
    (sampleServer.authentic sampleCrypto (sampleForgery 5000) = false ∧
      sampleServer.keys.disableEncryption = false) ∧
      Untouched sampleServer (sampleServer.recv sampleCrypto (sampleForgery 5000) 0 none).2 := by
  refine ⟨⟨by decide +kernel, rfl⟩, (forged_packet_inert sampleServer sampleCrypto
    (sampleForgery 5000) 0 none rfl (by decide +kernel)).2.mpr ?_⟩
  intro _ read taken cidSeq cidPid _
  have header : (sampleServer.readHeader (sampleForgery 5000)).toOption.map (·.1.dcid) =
      some sampleScid := by decide +kernel
  rw [taken] at header
  have dcid : read.1.dcid = sampleScid := Option.some.inj header
  refine ⟨fun pid path named present => ⟨.inl ?_, ?_⟩, fun absent => ?_⟩
  · have first : some pid = some 0 := named.symm.trans (by decide +kernel)
    cases first
    have own : (sampleServer.conn.paths.get 0).map (fun path =>
        (path.scidSeq.bind sampleServer.conn.cids.scids.get).map (·.cid)) =
          some (some sampleScid) := by decide +kernel
    rw [present] at own
    rw [dcid]
    exact Option.some.inj own
  · rintro ⟨_, _, _, _, _, _, _, _, _, received, _⟩
    cases received
  · have known : sampleServer.conn.paths.getPathId (sampleForgery 5000).addrs = some 0 := by
      decide +kernel
    rw [known] at absent
    cases absent

/-- From another address it makes the server create a path. -/
theorem forged_packet_creates_path :
    ¬ ∀ (intake : Intake Unit Unit) (crypto : Crypto Unit Unit) (datagram : OneRttDatagram)
      (now : Instant) (maxPto : Option Duration), intake.conn.handshakeCompleted = true →
        intake.keys.disableEncryption = false → intake.authentic crypto datagram = false →
          Untouched intake (intake.recv crypto datagram now maxPto).2 := by
  intro untouched
  have same := untouched sampleServer sampleCrypto (sampleForgery 6000) 0 none rfl rfl
    (by decide +kernel)
  have before : sampleServer.conn.paths.forgetCredit.paths.length = 1 := by decide +kernel
  have after : (sampleServer.recv sampleCrypto
      (sampleForgery 6000) 0 none).2.conn.paths.forgetCredit.paths.length = 2 := by decide +kernel
  rw [same.paths, before] at after
  cases after

end Intake

end Tquic.Connection
