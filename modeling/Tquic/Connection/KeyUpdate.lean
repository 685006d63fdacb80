import Tquic.Packet
import Tquic.Connection.Space
import Tquic.Lib.Transition
import Mathlib.Logic.Function.Basic

/-! Updates of the 1-RTT keys, after `select_key`, `try_update_key` and `initiate_key_update`
of `tls.rs`, and the part of `recv_packet` of `connection.rs` that removes the protection of a
packet. Ciphers and key derivation are parameters. -/

set_option autoImplicit false

namespace Tquic.Connection

open Lib

/-- The keys of one level. A key to open and a key to seal may be known at different times. -/
structure Keys (Opener Sealer : Type) where
  openKey : Option Opener
  sealKey : Option Sealer

/-- Packet protection: the mask of a header from a sample, the text of a payload, and the
keys of the next phase. -/
structure Crypto (Opener Sealer : Type) where
  newMask : Opener → Bytes → Except Error (Vector UInt8 5)
  openPayload : Opener → Option Nat → Nat → Bytes → Bytes → Except Error Bytes
  deriveOpen : Opener → Except Error Opener
  deriveSeal : Sealer → Except Error Sealer

/-- The part of a packet number space that key updates use. -/
structure KeySpace where
  largestRxPktNum : Nat
  firstPktNumRecv : Option Nat
  firstPktNumSent : Option Nat
  recvPktNumWin : SeqNumWindow
  -- `u64::MAX` until a packet is acknowledged.
  largestAckedPkt : Nat

def KeySpace.new : KeySpace :=
  { largestRxPktNum := 0
    firstPktNumRecv := none
    firstPktNumSent := none
    recvPktNumWin := .empty
    largestAckedPkt := u64Max }

structure TlsSession (Opener Sealer : Type) where
  keyCollection : Level → Keys Opener Sealer
  currentKeyPhase : Bool
  prevKey : Option (Keys Opener Sealer)
  nextKey : Option (Keys Opener Sealer)

namespace TlsSession

variable {Opener Sealer : Type}

def new : TlsSession Opener Sealer :=
  { keyCollection := fun _ => ⟨none, none⟩
    currentKeyPhase := false
    prevKey := none
    nextKey := none }

def setKeys (session : TlsSession Opener Sealer) (level : Level) (keys : Keys Opener Sealer) :
    TlsSession Opener Sealer :=
  { session with keyCollection := Function.update session.keyCollection level keys }

def deriveKeys (session : TlsSession Opener Sealer) (crypto : Crypto Opener Sealer) :
    Except Error (Keys Opener Sealer) :=
  match session.keyCollection .oneRtt with
  | ⟨some openKey, some sealKey⟩ => do
    let nextOpen ← crypto.deriveOpen openKey
    let nextSeal ← crypto.deriveSeal sealKey
    pure ⟨some nextOpen, some nextSeal⟩
  | _ => .error .tlsFail

def takeNextKey (session : TlsSession Opener Sealer) (crypto : Crypto Opener Sealer) :
    Except Error (Keys Opener Sealer) :=
  match session.nextKey with
  | some next => .ok next
  | none => session.deriveKeys crypto

def openKeyOf (keys : Keys Opener Sealer) : Except Error Opener :=
  match keys.openKey with
  | some key => .ok key
  | none => .error .internalError

def selectNext (session : TlsSession Opener Sealer) (crypto : Crypto Opener Sealer) :
    Except Error (Opener × Bool) × TlsSession Opener Sealer :=
  match session.takeNextKey crypto with
  | .error error => (.error error, session)
  | .ok next => ((openKeyOf next).map (·, true), { session with nextKey := some next })

def selectPrev (session : TlsSession Opener Sealer) : Except Error (Opener × Bool) :=
  match session.prevKey with
  | some prev => (openKeyOf prev).map (·, false)
  | none => .error .done

/-- Select the key that opens a packet, and tell whether it is one of the next phase. The
packet number that is compared is the one in the header. -/
def selectKey (session : TlsSession Opener Sealer) (crypto : Crypto Opener Sealer)
    (confirmed enableMultipath : Bool) (hdr : PacketHeader) (space : KeySpace) :
    Except Error (Opener × Bool) × TlsSession Opener Sealer :=
  if !confirmed ∨ hdr.pktType ≠ .oneRtt ∨ session.currentKeyPhase = hdr.keyPhase ∨
      enableMultipath then
    match hdr.pktType.toLevel with
    | .error error => (.error error, session)
    | .ok level => ((openKeyOf (session.keyCollection level)).map (·, false), session)
  else
    match space.firstPktNumRecv with
    | some first =>
      if hdr.pktNum > first then session.selectNext crypto else (session.selectPrev, session)
    | none => (session.selectPrev, session)

def updateKey (session : TlsSession Opener Sealer) (crypto : Crypto Opener Sealer)
    (space : KeySpace) : Except Error (TlsSession Opener Sealer × KeySpace) :=
  match session.takeNextKey crypto with
  | .error error => .error error
  | .ok next =>
    .ok
      ({ keyCollection := Function.update session.keyCollection .oneRtt next
         currentKeyPhase := !session.currentKeyPhase
         prevKey := some (session.keyCollection .oneRtt)
         nextKey := none },
        { space with firstPktNumRecv := none, firstPktNumSent := none })

def noteFirst (session : TlsSession Opener Sealer) (timer : Option Instant) (space : KeySpace)
    (hdr : PacketHeader) (now : Instant) (maxPto : Option Duration) : KeySpace × Option Instant :=
  if space.firstPktNumRecv = none ∧ session.currentKeyPhase = hdr.keyPhase then
    ({ space with firstPktNumRecv := some hdr.pktNum },
      if session.prevKey.isSome then
        match maxPto with
        | some duration => some (now + duration * 3)
        | none => timer
      else timer)
  else (space, timer)

def tryUpdateKey (session : TlsSession Opener Sealer) (crypto : Crypto Opener Sealer)
    (timer : Option Instant) (space : KeySpace) (attemptKeyUpdate : Bool) (hdr : PacketHeader)
    (now : Instant) (maxPto : Option Duration) :
    Except Error (TlsSession Opener Sealer × KeySpace × Option Instant) :=
  if attemptKeyUpdate then
    match session.updateKey crypto space with
    | .error error => .error error
    | .ok (updated, space) => .ok (updated, updated.noteFirst timer space hdr now maxPto)
  else .ok (session, session.noteFirst timer space hdr now maxPto)

def keyUpdateAllowed (enableMultipath : Bool) (space : KeySpace) : Bool :=
  if enableMultipath then false
  else
    match space.firstPktNumSent with
    | some first => first ≤ space.largestAckedPkt
    | none => false

def initiateKeyUpdate (session : TlsSession Opener Sealer) (crypto : Crypto Opener Sealer)
    (space : KeySpace) (enableMultipath : Bool) :
    Except Error (TlsSession Opener Sealer × KeySpace) :=
  if keyUpdateAllowed enableMultipath space then session.updateKey crypto space
  else .error .done

end TlsSession

/-- A packet with its parsed header: where its number is, the length of number and payload,
the packet number space of its path and the sequence number of its destination cid. -/
structure PacketIn where
  buf : Bytes
  pktType : PacketType
  pktNumOffset : Nat
  length : Nat
  pathSpace : SpaceId
  cidSeq : Option Nat

/-- A packet without header protection, with its full packet number. -/
structure Unmasked where
  hdr : PacketHeader
  buf : Bytes
  spaceId : SpaceId
  pktNum : Nat

/-- A packet number as it was written in a header, and in full. -/
structure Numbered where
  encoded : Nat
  pktNum : Nat
  deriving DecidableEq, Repr

/-- The keys of a connection and its packet number spaces. The code does not keep the last
two fields: the keys that open 1-RTT packets, one for each key phase with the last one first,
and the packets of the application data that were received in the current phase. -/
structure KeyConn (Opener Sealer : Type) where
  tls : TlsSession Opener Sealer
  spaces : SpaceId → KeySpace
  confirmed : Bool
  enableMultipath : Bool
  disableEncryption : Bool
  keyDiscardTimer : Option Instant
  -- Packets whose frames are being processed.
  pending : List (SpaceId × Nat)
  readKeys : List Opener
  received : List Numbered

def PacketType.toSpace : PacketType → Except Error SpaceId
  | .initial => .ok .initial
  | .handshake => .ok .handshake
  | .zeroRtt => .ok .data
  | .oneRtt => .ok .data
  | _ => .error .internalError

namespace KeyConn

variable {Opener Sealer : Type}

def start (disableEncryption : Bool) : KeyConn Opener Sealer :=
  { tls := .new
    spaces := fun _ => .new
    confirmed := false
    enableMultipath := false
    disableEncryption
    keyDiscardTimer := none
    pending := []
    readKeys := []
    received := [] }

def setSpace (conn : KeyConn Opener Sealer) (spaceId : SpaceId) (space : KeySpace) :
    KeyConn Opener Sealer :=
  { conn with spaces := Function.update conn.spaces spaceId space }

def getSpaceId (conn : KeyConn Opener Sealer) (packet : PacketIn) : Except Error SpaceId :=
  if conn.enableMultipath ∧ packet.pktType = .oneRtt then .ok packet.pathSpace
  else PacketType.toSpace packet.pktType

def isEncryptionDisabled (conn : KeyConn Opener Sealer) (packet : PacketIn) : Bool :=
  decide (packet.pktType = .oneRtt) && conn.disableEncryption

/-- Remove the header protection, complete the packet number and drop duplicates. -/
def unmask (conn : KeyConn Opener Sealer) (crypto : Crypto Opener Sealer) (packet : PacketIn)
    (key : Opener) : Except Error Unmasked :=
  match decryptHeader (crypto.newMask key) packet.buf packet.pktNumOffset packet.pktType
      (conn.isEncryptionDisabled packet) with
  | .error _ => .error .done
  | .ok (hdr, buf) =>
    match conn.getSpaceId packet with
    | .error error => .error error
    | .ok spaceId =>
      let space := conn.spaces spaceId
      let pktNum := decodePacketNum space.largestRxPktNum hdr.pktNum hdr.pktNumLen
      if space.recvPktNumWin.contains pktNum then .error .done
      else if packet.length < hdr.pktNumLen then .error .done
      else if conn.enableMultipath ∧ packet.cidSeq = none then .error .invalidState
      else .ok { hdr, buf, spaceId, pktNum }

def selectKey (conn : KeyConn Opener Sealer) (crypto : Crypto Opener Sealer)
    (unmasked : Unmasked) : Except Error (Opener × Bool) × TlsSession Opener Sealer :=
  conn.tls.selectKey crypto conn.confirmed conn.enableMultipath unmasked.hdr
    (conn.spaces unmasked.spaceId)

def decryptPayload (conn : KeyConn Opener Sealer) (crypto : Crypto Opener Sealer)
    (packet : PacketIn) (unmasked : Unmasked) (key : Opener) : Except Error Bytes :=
  let payloadOffset := packet.pktNumOffset + unmasked.hdr.pktNumLen
  let payload :=
    (unmasked.buf.drop payloadOffset).take (packet.length - unmasked.hdr.pktNumLen)
  if conn.isEncryptionDisabled packet then .ok payload
  else if unmasked.buf.length < packet.pktNumOffset + packet.length then .error .done
  else
    match crypto.openPayload key (if conn.enableMultipath then packet.cidSeq else none)
        unmasked.pktNum (unmasked.buf.take payloadOffset) payload with
    | .error _ => .error .done
    | .ok plaintext => .ok plaintext

/-- A packet was opened: its frames are processed next. -/
def accept (conn : KeyConn Opener Sealer) (unmasked : Unmasked) (attemptKeyUpdate : Bool)
    (tls : TlsSession Opener Sealer) (space : KeySpace) (timer : Option Instant) :
    KeyConn Opener Sealer :=
  { conn.setSpace unmasked.spaceId space with
    tls
    keyDiscardTimer := timer
    pending := (unmasked.spaceId, unmasked.pktNum) :: conn.pending
    readKeys :=
      if attemptKeyUpdate then (tls.keyCollection .oneRtt).openKey.toList ++ conn.readKeys
      else conn.readKeys
    received :=
      if unmasked.spaceId = .data then
        (if attemptKeyUpdate then [] else conn.received) ++
          (if tls.currentKeyPhase = unmasked.hdr.keyPhase then
            [⟨unmasked.hdr.pktNum, unmasked.pktNum⟩] else [])
      else conn.received }

def openPacket (conn : KeyConn Opener Sealer) (crypto : Crypto Opener Sealer)
    (packet : PacketIn) (unmasked : Unmasked) (now : Instant) (maxPto : Option Duration) :
    Except Error Bytes × KeyConn Opener Sealer :=
  let (selected, tls) := conn.selectKey crypto unmasked
  match selected with
  | .error error => (.error error, { conn with tls })
  | .ok (key, attemptKeyUpdate) =>
    match conn.decryptPayload crypto packet unmasked key with
    | .error error => (.error error, { conn with tls })
    | .ok payload =>
      if payload.isEmpty then (.error .protocolViolation, { conn with tls })
      else
        match tls.tryUpdateKey crypto conn.keyDiscardTimer (conn.spaces unmasked.spaceId)
            attemptKeyUpdate unmasked.hdr now maxPto with
        | .error error => (.error error, { conn with tls })
        | .ok (tls, space, timer) =>
          (.ok payload, conn.accept unmasked attemptKeyUpdate tls space timer)

/-- Receive a packet up to its frames. A packet whose key is not known yet is put aside. -/
def recvPacket (conn : KeyConn Opener Sealer) (crypto : Crypto Opener Sealer)
    (packet : PacketIn) (now : Instant) (maxPto : Option Duration) :
    Except Error (Option Bytes) × KeyConn Opener Sealer :=
  match packet.pktType.toLevel with
  | .error error => (.error error, conn)
  | .ok level =>
    match (conn.tls.keyCollection level).openKey with
    | none => (.ok none, conn)
    | some key =>
      match conn.unmask crypto packet key with
      | .error error => (.error error, conn)
      | .ok unmasked =>
        let (opened, conn) := conn.openPacket crypto packet unmasked now maxPto
        (opened.map some, conn)

/-- The frames of a packet were processed. -/
def recordPacket (conn : KeyConn Opener Sealer) (spaceId : SpaceId) (pktNum : Nat) :
    KeyConn Opener Sealer :=
  let space := conn.spaces spaceId
  conn.setSpace spaceId
    { space with
      recvPktNumWin := space.recvPktNumWin.insert pktNum
      largestRxPktNum := max space.largestRxPktNum pktNum }

/-- What can happen to the keys. -/
inductive Op (Opener Sealer : Type) where
  | recvPacket (packet : PacketIn) (now : Instant) (maxPto : Option Duration)
  | recordPacket
  -- A frame of the packet in progress was refused.
  | abortPacket
  | setReadSecret (level : Level) (key : Opener)
  | setWriteSecret (level : Level) (key : Sealer)
  | dropKeys (level : Level)
  | confirm
  | enableMultipath
  | initiateKeyUpdate
  | sendOneRtt (spaceId : SpaceId) (pktNum : Nat)
  | acked (spaceId : SpaceId) (largest : Nat)
  | timeout (now : Instant)

/-- TLS gives each 1-RTT secret once, and completes after it gave both of them. Only the keys
of the first levels are dropped. -/
def step (crypto : Crypto Opener Sealer) (conn : KeyConn Opener Sealer) :
    Op Opener Sealer → Option (KeyConn Opener Sealer)
  | .recvPacket packet now maxPto => some (conn.recvPacket crypto packet now maxPto).2
  | .recordPacket =>
    match conn.pending with
    | [] => none
    | (spaceId, pktNum) :: rest =>
      some ({ conn with pending := rest }.recordPacket spaceId pktNum)
  | .abortPacket =>
    match conn.pending with
    | [] => none
    | _ :: rest => some { conn with pending := rest }
  | .setReadSecret level key =>
    let keys := conn.tls.keyCollection level
    let installed := conn.tls.setKeys level { keys with openKey := some key }
    if level = .oneRtt then
      if keys.openKey.isSome then none
      else some { conn with tls := installed, readKeys := [key] }
    else some { conn with tls := installed }
  | .setWriteSecret level key =>
    let keys := conn.tls.keyCollection level
    if level = .oneRtt ∧ keys.sealKey.isSome then none
    else some { conn with tls := conn.tls.setKeys level { keys with sealKey := some key } }
  | .dropKeys level =>
    if level = .initial ∨ level = .handshake then
      some { conn with tls := conn.tls.setKeys level ⟨none, none⟩ }
    else none
  | .confirm =>
    let keys := conn.tls.keyCollection .oneRtt
    if keys.openKey.isSome ∧ keys.sealKey.isSome then some { conn with confirmed := true }
    else none
  | .enableMultipath => some { conn with enableMultipath := true }
  | .initiateKeyUpdate =>
    match conn.tls.initiateKeyUpdate crypto (conn.spaces .data) conn.enableMultipath with
    | .error _ => some conn
    | .ok (tls, space) =>
      some
        { conn.setSpace .data space with
          tls
          readKeys := (tls.keyCollection .oneRtt).openKey.toList ++ conn.readKeys
          received := [] }
  | .sendOneRtt spaceId pktNum =>
    let space := conn.spaces spaceId
    some (conn.setSpace spaceId
      { space with firstPktNumSent := some (space.firstPktNumSent.getD pktNum) })
  | .acked spaceId largest =>
    let space := conn.spaces spaceId
    some (conn.setSpace spaceId
      { space with
        largestAckedPkt :=
          if space.largestAckedPkt = u64Max then largest
          else max space.largestAckedPkt largest })
  | .timeout now =>
    match conn.keyDiscardTimer with
    | some deadline =>
      if deadline ≤ now then
        some
          { conn with
            tls := { conn.tls with prevKey := none }
            keyDiscardTimer := none }
      else some conn
    | none => some conn

end KeyConn

end Tquic.Connection
