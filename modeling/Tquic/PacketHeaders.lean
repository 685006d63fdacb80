import Tquic.Packet

/-! Packet headers on the wire, after `packet.rs`: the writer, the parser of a packet and the
parser that only looks for the connection. -/

set_option autoImplicit false

namespace Tquic

open Lib Decoder Encoder

def headerFixedBit : UInt8 := 0x40

def pktTypeMask : UInt8 := 0x30

def retryTagLen : Nat := 16

def versionIsSupported (version : UInt32) : Bool := version = 1

structure Header extends PacketHeader where
  version : UInt32
  dcid : ConnectionId
  scid : ConnectionId
  token : Option Bytes
  deriving DecidableEq

namespace Header

/-! ## Writing -/

def typeCode : PacketType → Option UInt8
  | .initial => some 0x00
  | .zeroRtt => some 0x01
  | .handshake => some 0x02
  | .retry => some 0x03
  | _ => none

/-- The lengths are not checked here. -/
def pktNumLenBits (hdr : Header) : UInt8 := .ofNat (hdr.pktNumLen - 1)

def writeToken (hdr : Header) : Encoder Unit :=
  match hdr.pktType with
  | .initial =>
      match hdr.token with
      | some token => do
          writeVarint token.length
          write token
      | none => writeVarint 0
  | .retry =>
      match hdr.token with
      | some token => write token
      | none => throw .panic
  | _ => return ()

def writeShort (hdr : Header) : Encoder Unit := do
  let keyPhase := if hdr.keyPhase then headerKeyPhaseBit else 0
  writeU8 (headerFixedBit ||| keyPhase ||| hdr.pktNumLenBits).toNat
  write hdr.dcid.bytes

def firstByte (hdr : Header) (code : UInt8) : UInt8 :=
  headerLongFormBit ||| headerFixedBit ||| code <<< 4 ||| hdr.pktNumLenBits

def writeLong (hdr : Header) (code : UInt8) : Encoder Unit := do
  writeU8 (hdr.firstByte code).toNat
  writeU32 hdr.version.toNat
  writeU8 hdr.dcid.bytes.length
  write hdr.dcid.bytes
  writeU8 hdr.scid.bytes.length
  write hdr.scid.bytes
  hdr.writeToken

def writeHeader (hdr : Header) : Encoder Unit :=
  if hdr.pktType = .oneRtt then hdr.writeShort
  else
    match typeCode hdr.pktType with
    | some code => hdr.writeLong code
    | none => throw .internalError

/-- Encode the header into a buffer of `room` bytes: what was written, with its length. -/
def toBytes (hdr : Header) (room : Nat) : Except Error (Bytes × Nat) :=
  match hdr.writeHeader.run { written := [], room } with
  | .error error => .error error
  | .ok (_, sink) => .ok (sink.written, room - sink.room)

/-! ## Reading -/

def readFirst : Decoder UInt8 := UInt8.ofNat <$> readU8

def readVersion : Decoder UInt32 := UInt32.ofNat <$> readU32

def readType (first : UInt8) (version : UInt32) : Decoder PacketType :=
  if version = 0 then return .versionNegotiation
  else
    match ((first &&& pktTypeMask) >>> 4).toNat with
    | 0x00 => return .initial
    | 0x01 => return .zeroRtt
    | 0x02 => return .handshake
    | 0x03 => return .retry
    | _ => throw .invalidPacket

def readCid (version : UInt32) : Decoder Bytes := do
  let cidLen ← readU8
  if versionIsSupported version ∧ cidLen > maxCidLen then throw .invalidPacket else read cidLen

def readToken : PacketType → Decoder (Option Bytes)
  | .initial => do
      let tokenLen ← readVarint
      if tokenLen > 0 then return some (← read tokenLen) else return none
  | .retry => do
      let input ← get
      if input.length < retryTagLen then throw .invalidPacket
      else return some (← read (input.length - retryTagLen))
  | _ => return none

def readShort (dcidLen : Nat) : Decoder Header := do
  let dcid ← read dcidLen
  return {
    pktType := .oneRtt, version := 0, dcid := .new dcid, scid := .new [], pktNum := 0, pktNumLen := 0
    token := none, keyPhase := false }

def readLong (first : UInt8) : Decoder Header := do
  let version ← readVersion
  let pktType ← readType first version
  let dcid ← readCid version
  let scid ← readCid version
  let token ← readToken pktType
  return {
    pktType, version, dcid := .new dcid, scid := .new scid, pktNum := 0, pktNumLen := 0, token
    keyPhase := false }

def readHeader (dcidLen : Nat) : Decoder Header := do
  let first ← readFirst
  if longHeader first then readLong first else readShort dcidLen

/-- Decode the header at the front of `buf`, with the number of bytes it takes. -/
def fromBytes (buf : Bytes) (dcidLen : Nat) : Except Error (Header × Nat) :=
  match (readHeader dcidLen).run buf with
  | .error error => .error error
  | .ok (hdr, rest) => .ok (hdr, buf.length - rest.length)

def readInfo (dcidLen : Nat) : Decoder (Bool × UInt32 × ConnectionId) := do
  let first ← readFirst
  if longHeader first then do
    let version ← readVersion
    let dcid ← readWithU8Length
    return (true, version, .new dcid)
  else do
    let dcid ← read dcidLen
    return (false, 0, .new dcid)

def headerInfo (buf : Bytes) (dcidLen : Nat) : Except Error (Bool × UInt32 × ConnectionId) :=
  match (readInfo dcidLen).run buf with
  | .error error => .error error
  | .ok (info, _) => .ok info

/-! ## Wire images -/

def tokenImage (hdr : Header) : Bytes :=
  match hdr.pktType with
  | .initial => varint (hdr.token.getD []).length ++ hdr.token.getD []
  | .retry => hdr.token.getD []
  | _ => []

def cidsImage (hdr : Header) : Bytes :=
  (BigEndian.encode 1 hdr.dcid.bytes.length ++ hdr.dcid.bytes) ++
    (BigEndian.encode 1 hdr.scid.bytes.length ++ hdr.scid.bytes)

def image (hdr : Header) (code : UInt8) : Bytes :=
  BigEndian.encode 1 (hdr.firstByte code).toNat ++
    (BigEndian.encode 4 hdr.version.toNat ++ (hdr.cidsImage ++ hdr.tokenImage))

/-- Headers that can be written: the token fits behind its length, and a Retry packet has
one. -/
structure Encodable (hdr : Header) : Prop where
  tokenLen : ∀ token, hdr.token = some token → token.length ≤ vintMax
  retryToken : hdr.pktType = .retry → hdr.token ≠ none

variable {hdr : Header}

theorem writes_token (encodable : hdr.Encodable) : Writes hdr.writeToken hdr.tokenImage () := by
  unfold writeToken tokenImage
  cases kind : hdr.pktType with
  | initial =>
      cases carried : hdr.token with
      | none => exact writes_varint (by decide)
      | some token =>
          exact (writes_varint (encodable.tokenLen token carried)).bind (writes_bytes token)
  | retry =>
      cases carried : hdr.token with
      | none => exact absurd carried (encodable.retryToken kind)
      | some token => exact writes_bytes token
  | _ => exact Writes.pure ()

variable {code : UInt8}

theorem writes_image (encodable : hdr.Encodable)
    (known : typeCode hdr.pktType = some code) : Writes hdr.writeHeader (hdr.image code) () := by
  have long : hdr.pktType ≠ .oneRtt := by
    intro short
    rw [short] at known
    cases known
  unfold writeHeader image cidsImage
  rw [if_neg long, known, List.append_assoc, List.append_assoc, List.append_assoc]
  exact (writes_uint 1 _).bind ((writes_uint 4 _).bind ((writes_uint 1 _).bind
    ((writes_bytes _).bind ((writes_uint 1 _).bind ((writes_bytes _).bind
      (writes_token encodable))))))

theorem toBytes_eq (encodable : hdr.Encodable)
    (known : typeCode hdr.pktType = some code) {room : Nat}
    (enough : (hdr.image code).length ≤ room) :
    hdr.toBytes room = .ok (hdr.image code, (hdr.image code).length) := by
  have written := writes_image encodable known { written := [], room } enough
  unfold toBytes
  rw [written]
  simp only [List.nil_append]
  rw [Nat.sub_sub_self enough]

/-! ## The first byte -/

/-- Four bits are left for the length of the packet number. -/
theorem firstByte_bits (code : Fin 4) (bits : Fin 16) :
    let first := headerLongFormBit ||| headerFixedBit ||| UInt8.ofNat code <<< 4 ||| UInt8.ofNat bits
    longHeader first = true ∧ ((first &&& pktTypeMask) >>> 4).toNat = code := by
  revert code bits
  decide

private theorem typeCode_lt {pktType : PacketType} (known : typeCode pktType = some code) :
    code.toNat < 4 := by
  cases pktType <;> cases known <;> decide

theorem firstByte_spec (known : typeCode hdr.pktType = some code) (short : hdr.pktNumLen ≤ 16) :
    longHeader (hdr.firstByte code) = true ∧
      ((hdr.firstByte code &&& pktTypeMask) >>> 4).toNat = code.toNat := by
  have spec := firstByte_bits ⟨code.toNat, typeCode_lt known⟩ ⟨hdr.pktNumLen - 1, by omega⟩
  dsimp only at spec
  rwa [UInt8.ofNat_toNat] at spec

theorem reads_first (first : UInt8) : Reads readFirst (BigEndian.encode 1 first.toNat) first := by
  have read := (@reads_uint 1 first.toNat (by simpa using first.toNat_lt)).map UInt8.ofNat
  rwa [UInt8.ofNat_toNat] at read

theorem reads_version (version : UInt32) :
    Reads readVersion (BigEndian.encode 4 version.toNat) version := by
  have read := (@reads_uint 4 version.toNat (by simpa using version.toNat_lt)).map UInt32.ofNat
  rwa [UInt32.ofNat_toNat] at read

private theorem readType_eq (known : typeCode hdr.pktType = some code)
    (short : hdr.pktNumLen ≤ 16) (negotiated : hdr.version ≠ 0) :
    readType (hdr.firstByte code) hdr.version = pure hdr.pktType := by
  unfold readType
  rw [if_neg negotiated, (firstByte_spec known short).2]
  cases kind : hdr.pktType <;> rw [kind] at known <;> cases known <;> rfl

/-! ## Round trips -/

theorem reads_cid (version : UInt32) (cid : ConnectionId) :
    Reads (readCid version) (BigEndian.encode 1 cid.bytes.length ++ cid.bytes) cid.bytes := by
  have short : cid.bytes.length ≤ maxCidLen := cid.short
  have byte : cid.bytes.length < 256 ^ 1 := lt_of_le_of_lt short (by decide)
  refine (reads_uint byte).bind ?_
  rw [if_neg fun long => absurd long.2 (by omega)]
  exact reads_bytes cid.bytes

/-- What a header looks like when it was read: the packet number and the key phase are still
hidden, and an Initial packet with an empty token is one without a token. -/
def onWire (hdr : Header) : Header :=
  { hdr with
    pktNumLen := 0
    pktNum := 0
    keyPhase := false
    token :=
      match hdr.pktType with
      | .initial => hdr.token.filter fun token => !token.isEmpty
      | .retry => hdr.token
      | _ => none }

private theorem run_token (encodable : hdr.Encodable) {suffix : Bytes}
    (tagged : hdr.pktType = .retry → suffix.length = retryTagLen) :
    (readToken hdr.pktType).run (hdr.tokenImage ++ suffix) = .ok (hdr.onWire.token, suffix) := by
  unfold tokenImage onWire
  cases kind : hdr.pktType with
  | initial =>
      cases carried : hdr.token with
      | none => exact (@reads_varint 0 (by decide)).run_bind rfl
      | some token =>
          rw [List.append_assoc]
          refine (reads_varint (encodable.tokenLen token carried)).run_bind ?_
          cases token with
          | nil => rfl
          | cons byte bytes =>
              have filled : (byte :: bytes).length > 0 := Nat.succ_pos _
              rw [if_pos filled]
              exact (reads_bytes (byte :: bytes)).run_bind rfl
  | retry =>
      cases carried : hdr.token with
      | none => exact absurd carried (encodable.retryToken kind)
      | some token =>
          have tag := tagged kind
          have long : ¬ (token ++ suffix).length < retryTagLen := by
            rw [List.length_append, tag]
            omega
          have cut : (token ++ suffix).length - retryTagLen = token.length := by
            rw [List.length_append, tag, Nat.add_sub_cancel]
          change (readToken .retry).run (token ++ suffix) = _
          unfold readToken
          rw [StateT.run_bind, StateT.run_get]
          simp only [bind, Except.bind, pure, Except.pure, if_neg long, cut]
          exact (reads_bytes token).run_bind rfl
  | _ => rfl

private theorem fromBytes_image (encodable : hdr.Encodable)
    (known : typeCode hdr.pktType = some code) (short : hdr.pktNumLen ≤ 16)
    (negotiated : hdr.version ≠ 0) {suffix : Bytes}
    (tagged : hdr.pktType = .retry → suffix.length = retryTagLen) (dcidLen : Nat) :
    fromBytes (hdr.image code ++ suffix) dcidLen = .ok (hdr.onWire, (hdr.image code).length) := by
  have read : (readHeader dcidLen).run (hdr.image code ++ suffix) = .ok (hdr.onWire, suffix) := by
    unfold image cidsImage
    simp only [List.append_assoc]
    refine (reads_first _).run_bind ?_
    rw [if_pos (firstByte_spec known short).1]
    refine (reads_version _).run_bind ?_
    rw [readType_eq known short negotiated, pure_bind]
    rw [← List.append_assoc (BigEndian.encode 1 _)]
    refine (reads_cid _ _).run_bind ?_
    rw [← List.append_assoc (BigEndian.encode 1 _)]
    refine (reads_cid _ _).run_bind ?_
    rw [StateT.run_bind, run_token encodable tagged, hdr.dcid.new_bytes, hdr.scid.new_bytes]
    rfl
  unfold fromBytes
  rw [read]
  simp only [List.length_append, Nat.add_sub_cancel]

private theorem headerInfo_image (known : typeCode hdr.pktType = some code)
    (short : hdr.pktNumLen ≤ 16) (suffix : Bytes) (dcidLen : Nat) :
    headerInfo (hdr.image code ++ suffix) dcidLen = .ok (true, hdr.version, hdr.dcid) := by
  have length : hdr.dcid.bytes.length < 256 := lt_of_le_of_lt hdr.dcid.short (by decide)
  unfold headerInfo image cidsImage
  simp only [List.append_assoc]
  have read : ∀ rest, (readInfo dcidLen).run (BigEndian.encode 1 (hdr.firstByte code).toNat ++
      (BigEndian.encode 4 hdr.version.toNat ++
        (BigEndian.encode 1 hdr.dcid.bytes.length ++ (hdr.dcid.bytes ++ rest)))) =
      .ok ((true, hdr.version, hdr.dcid), rest) := by
    intro rest
    refine (reads_first _).run_bind ?_
    rw [if_pos (firstByte_spec known short).1]
    refine (reads_version _).run_bind ?_
    rw [← List.append_assoc (BigEndian.encode 1 _)]
    refine (reads_withU8Length length).run_bind ?_
    rw [hdr.dcid.new_bytes]
    rfl
  rw [read]

/-- A header with a version, whose type has a long form and is not Version Negotiation, is read
back from the bytes that were written for it, whatever follows them; a Retry packet ends with
its integrity tag. Both parsers name the same version and destination. -/
theorem long_header_round_trip (hdr : Header) (encodable : hdr.Encodable) (code : UInt8)
    (known : typeCode hdr.pktType = some code) (short : hdr.pktNumLen ≤ 16)
    (negotiated : hdr.version ≠ 0) (suffix : Bytes)
    (tagged : hdr.pktType = .retry → suffix.length = retryTagLen) (dcidLen : Nat) :
    ∃ bytes, (∀ room, bytes.length ≤ room → hdr.toBytes room = .ok (bytes, bytes.length)) ∧
      fromBytes (bytes ++ suffix) dcidLen = .ok (hdr.onWire, bytes.length) ∧
      headerInfo (bytes ++ suffix) dcidLen = .ok (true, hdr.onWire.version, hdr.onWire.dcid) :=
  ⟨hdr.image code, fun _ enough => toBytes_eq encodable known enough,
    fromBytes_image encodable known short negotiated tagged dcidLen,
    headerInfo_image known short suffix dcidLen⟩

def retryHeader : Header :=
  { pktType := .retry, version := 1, dcid := .new [1, 2, 3, 4], scid := .new [9], pktNum := 0
    pktNumLen := 0, token := some [5, 6], keyPhase := false }

theorem retry_header_round_trip :
    ∃ bytes, (∀ room, bytes.length ≤ room → retryHeader.toBytes room = .ok (bytes, bytes.length)) ∧
      fromBytes (bytes ++ List.replicate 16 7) 8 = .ok (retryHeader, bytes.length) ∧
      headerInfo (bytes ++ List.replicate 16 7) 8 = .ok (true, 1, .new [1, 2, 3, 4]) :=
  long_header_round_trip retryHeader
    ⟨fun _ carried => by cases carried; decide, fun _ absent => by cases absent⟩ 0x03 rfl (by decide)
    (by decide) (List.replicate 16 7) (fun _ => rfl) 8

/-- The header comes back as it was, up to the packet number. -/
def Returns (hdr : Header) (suffix : Bytes) (dcidLen : Nat) : Prop :=
  ∃ bytes back, (∀ room, bytes.length ≤ room → hdr.toBytes room = .ok (bytes, bytes.length)) ∧
    fromBytes (bytes ++ suffix) dcidLen = .ok (back, bytes.length) ∧
    { back with pktNum := hdr.pktNum, pktNumLen := hdr.pktNumLen } = hdr

/-- An Initial packet, as the server would see it. -/
def initialHeader : Header :=
  { pktType := .initial, version := 1, dcid := .new [1, 2, 3, 4], scid := .new [9], pktNum := 0
    pktNumLen := 1, token := none, keyPhase := false }

theorem not_returns {hdr back : Header} {suffix : Bytes} {dcidLen len : Nat}
    (encodable : hdr.Encodable) (known : typeCode hdr.pktType = some code)
    (found : fromBytes (hdr.image code ++ suffix) dcidLen = .ok (back, len))
    (differs : { back with pktNum := hdr.pktNum, pktNumLen := hdr.pktNumLen } ≠ hdr) :
    ¬ hdr.Returns suffix dcidLen := by
  rintro ⟨bytes, other, written, read, same⟩
  have room := written (max bytes.length (hdr.image code).length) (Nat.le_max_left _ _)
  rw [toBytes_eq encodable known (Nat.le_max_right _ _)] at room
  cases room
  rw [found] at read
  cases read
  exact differs same

private theorem retry_without_token (retry : hdr.pktType = .retry) (absent : hdr.token = none)
    {room : Nat} {written : Bytes × Nat} : hdr.toBytes room ≠ .ok written := by
  intro encoded
  unfold toBytes at encoded
  cases ran : hdr.writeHeader.run { written := [], room } with
  | error error =>
      rw [ran] at encoded
      cases encoded
  | ok result =>
      unfold writeHeader at ran
      rw [retry] at ran
      obtain ⟨_, _, _, ran⟩ := run_bind_ok.mp ran
      obtain ⟨_, _, _, ran⟩ := run_bind_ok.mp ran
      obtain ⟨_, _, _, ran⟩ := run_bind_ok.mp ran
      obtain ⟨_, _, _, ran⟩ := run_bind_ok.mp ran
      obtain ⟨_, _, _, ran⟩ := run_bind_ok.mp ran
      obtain ⟨_, _, _, ran⟩ := run_bind_ok.mp ran
      unfold writeToken at ran
      rw [retry, absent] at ran
      cases ran

/-- Version 0 makes any packet a Version Negotiation packet. Neither an empty token of an
Initial packet nor the token or the key phase of a Handshake packet is transmitted, long packet
numbers spoil the type, and a Retry packet needs a token. -/
theorem headers_not_returned :
    ¬ Returns { initialHeader with version := 0 } [] 8 ∧
      ¬ Returns { initialHeader with token := some [] } [] 8 ∧
      ¬ Returns { initialHeader with pktType := .handshake, token := some [5] } [] 8 ∧
      ¬ Returns { initialHeader with pktType := .handshake, keyPhase := true } [] 8 ∧
      ¬ Returns { initialHeader with pktNumLen := 17 } [] 8 ∧
      ¬ Returns { retryHeader with token := none } (List.replicate 16 7) 8 := by
  have plain : ∀ {hdr : Header}, hdr.token = none → hdr.pktType ≠ .retry → hdr.Encodable := by
    intro hdr absent other
    refine ⟨fun token carried => ?_, fun retry => absurd retry other⟩
    rw [absent] at carried
    cases carried
  refine ⟨?_, ?_, ?_, ?_, ?_, ?_⟩
  · exact not_returns (plain rfl (by decide)) rfl rfl (by decide)
  · exact not_returns ⟨fun _ carried => (by cases carried; decide), by decide⟩ rfl rfl (by decide)
  · exact not_returns ⟨fun _ carried => (by cases carried; decide), by decide⟩ rfl rfl (by decide)
  · exact not_returns (plain rfl (by decide)) rfl rfl (by decide)
  · exact not_returns (plain rfl (by decide)) rfl rfl (by decide)
  · rintro ⟨bytes, back, written, _⟩
    exact retry_without_token rfl rfl (written bytes.length (Nat.le_refl _))

end Header

end Tquic
