import Tquic.Codec

/-! Address tokens, after `token.rs`, and how an endpoint hands them out and checks them, after
`endpoint.rs`. Authenticated encryption is a parameter. -/

set_option autoImplicit false

namespace Tquic

open Lib

/-- An AEAD algorithm on nonce, associated data and text. Opening works in place: the flag
tells whether the text was authentic, and the buffer is overwritten in either case. -/
structure Aead (Key : Type) where
  tagLen : Nat
  sealInPlace : Key → Bytes → Bytes → Bytes → Bytes
  openInPlace : Key → Bytes → Bytes → Bytes → Bool × Bytes

/-- What was sealed can be opened; the tag stays behind the text. -/
def Aead.Correct {Key : Type} (aead : Aead Key) : Prop :=
  ∀ key nonce aad plain, ∃ tag,
    aead.openInPlace key nonce aad (aead.sealInPlace key nonce aad plain) = (true, plain ++ tag)

/-- A time of the system clock, in nanoseconds from the epoch. Its seconds fit into 63 bits. -/
structure SystemTime where
  nanos : Int
  representable : nanos < 9223372036854775808 * 1000000000

/-- `UNIX_EPOCH.checked_add`. -/
def SystemTime.ofSecs (secs : Nat) : Option SystemTime :=
  if fits : (secs * 1000000000 : Int) < 9223372036854775808 * 1000000000 then
    some ⟨secs * 1000000000, fits⟩
  else none

inductive AddressTokenType where
  | retryToken
  | resumeToken
  deriving DecidableEq, Repr

def AddressTokenType.code : AddressTokenType → Nat
  | .retryToken => 0
  | .resumeToken => 1

structure AddressToken where
  tokenType : AddressTokenType
  issued : SystemTime
  address : SocketAddr
  odcid : Option ConnectionId
  rscid : Option ConnectionId

namespace AddressToken

def nonceLen : Nat := 12

/-- The bytes `quic`. -/
def label : Bytes := [0x71, 0x75, 0x69, 0x63]

def newRetryToken (address : SocketAddr) (odcid rscid : ConnectionId) (now : SystemTime) :
    AddressToken :=
  { tokenType := .retryToken
    issued := now
    address
    odcid := some odcid
    rscid := some rscid }

/-- Seconds from the epoch. -/
def issueTime (token : AddressToken) : Except Error Nat :=
  if token.issued.nanos < 0 then .error .internalError
  else .ok (token.issued.nanos / 1000000000).toNat

def octets : IpAddr → Bytes
  | .v4 octets => octets.toList
  | .v6 octets => octets.toList

/-- The associated data: the address of the client and, for Retry tokens, its port and the
source connection id of the Retry packet. -/
def additionalData (tokenType : AddressTokenType) (address : SocketAddr)
    (rscid : Option ConnectionId) : Except Error Bytes := do
  let writer : Encoder Unit := do
    Encoder.write (octets address.ip)
    if tokenType = .retryToken then
      Encoder.writeU16 address.port.toNat
      match rscid with
      | none => throw .internalError
      | some rscid => Encoder.write rscid.bytes
  let (_, data) ← writer.run { written := [], room := 16 + 2 + 20 }
  pure data.written

def maxTokenLen (tagLen : Nat) : Nat := 4 + 1 + nonceLen + 8 + 21 + tagLen

def writeHeader (tokenType : AddressTokenType) (nonce : Vector UInt8 12) : Encoder Unit := do
  Encoder.write label
  Encoder.writeU8 tokenType.code
  Encoder.write nonce.toList

def writeBody (token : AddressToken) (seconds : Nat) : Encoder Unit := do
  Encoder.writeU64 seconds
  if token.tokenType = .retryToken then
    match token.odcid with
    | none => throw .internalError
    | some odcid =>
        Encoder.writeU8 odcid.bytes.length
        Encoder.write odcid.bytes

variable {Key : Type}

def encode (aead : Aead Key) (key : Key) (nonce : Vector UInt8 12) (token : AddressToken) :
    Except Error Bytes := do
  let (_, header) ← (writeHeader token.tokenType nonce).run
    { written := [], room := maxTokenLen aead.tagLen }
  let seconds ← token.issueTime
  let (_, full) ← (token.writeBody seconds).run header
  let aad ← additionalData token.tokenType token.address token.rscid
  let hdrLen := header.written.length
  pure (full.written.take hdrLen ++
    aead.sealInPlace key nonce.toList aad (full.written.drop hdrLen))

def readHeader : Decoder (AddressTokenType × Bytes) := do
  let found ← Decoder.read 4
  if found ≠ label then throw .invalidToken
  let code ← Decoder.readU8
  let tokenType ← match code with
    | 0 => pure .retryToken
    | 1 => pure .resumeToken
    | _ => throw .invalidToken
  let nonce ← Decoder.read nonceLen
  pure (tokenType, nonce)

def readIssued (lifetime : Duration) (now : SystemTime) : Decoder SystemTime := do
  let secs ← Decoder.readU64
  match SystemTime.ofSecs secs with
  | none => throw .invalidToken
  | some issued =>
      if now.nanos < issued.nanos then throw .invalidToken
      else if now.nanos - issued.nanos > lifetime then throw .invalidToken
      else pure issued

def readOdcid (tokenType : AddressTokenType) (pktDcid : ConnectionId) :
    Decoder (Option ConnectionId) :=
  match tokenType with
  | .resumeToken => pure (some pktDcid)
  | .retryToken => do
      let cidLen ← Decoder.readU8
      if cidLen = 0 then pure none
      else if cidLen ≤ 20 then do
        let cid ← Decoder.read cidLen
        pure (some (ConnectionId.new cid))
      else throw .invalidToken

def readBody (tokenType : AddressTokenType) (pktDcid : ConnectionId) (lifetime : Duration)
    (now : SystemTime) : Decoder (SystemTime × Option ConnectionId) := do
  let issued ← readIssued lifetime now
  let odcid ← readOdcid tokenType pktDcid
  pure (issued, odcid)

/-- Decode a token from the Initial packet that a client sent to `pktDcid`, and return the
buffer as it is left. -/
def decode (aead : Aead Key) (key : Key) (token : Bytes) (address : SocketAddr)
    (pktDcid : ConnectionId) (lifetime : Duration) (now : SystemTime) :
    Except Error AddressToken × Bytes :=
  match readHeader.run token with
  | .error error => (.error error, token)
  | .ok ((tokenType, nonce), body) =>
      let rscid := if tokenType = .retryToken then some pktDcid else none
      match additionalData tokenType address rscid with
      | .error error => (.error error, token)
      | .ok aad =>
          let (authentic, opened) := aead.openInPlace key nonce aad body
          let buffer := token.take (token.length - body.length) ++ opened
          if !authentic then (.error .invalidToken, buffer)
          else
            match (readBody tokenType pktDcid lifetime now).run opened with
            | .error error => (.error error, buffer)
            | .ok ((issued, odcid), _) =>
                (.ok { tokenType, issued, address, odcid, rscid }, buffer)

def typeOf (token : Bytes) : Except Error AddressTokenType :=
  if token.length < 5 then .error .invalidToken
  else
    match token[4]?.map (·.toNat) with
    | some 0 => .ok .retryToken
    | some 1 => .ok .resumeToken
    | _ => .error .invalidToken

end AddressToken

/-! ## Tokens at the endpoint -/

structure TokenConfig (Key : Type) where
  firstKey : Key
  moreKeys : List Key
  lifetime : Duration
  retry : Bool

/-- What becomes of an Initial packet for which there is no connection. -/
inductive Admission where
  /-- A Retry packet is sent. -/
  | retried
  /-- A connection is created for the original destination cid. -/
  | admitted (token : Option AddressToken) (odcid : ConnectionId)

namespace TokenConfig

variable {Key : Type}

def sendRetry (config : TokenConfig Key) (aead : Aead Key) (remote : SocketAddr)
    (dcid rscid : ConnectionId) (nonce : Vector UInt8 12) (now : SystemTime) : Except Error Bytes :=
  (AddressToken.newRetryToken remote dcid rscid now).encode aead config.firstKey nonce

def tryKeys (aead : Aead Key) (address : SocketAddr) (pktDcid : ConnectionId)
    (lifetime : Duration) (now : SystemTime) : List Key → Bytes → Except Error AddressToken
  | [], _ => .error .invalidToken
  | key :: rest, token =>
      match AddressToken.decode aead key token address pktDcid lifetime now with
      | (.ok decoded, _) => .ok decoded
      | (.error .expiredToken, _) => .error .expiredToken
      | (.error _, buffer) => tryKeys aead address pktDcid lifetime now rest buffer

def validateAddressToken (config : TokenConfig Key) (aead : Aead Key) (token : Bytes)
    (address : SocketAddr) (pktDcid : ConnectionId) (now : SystemTime) :
    Except Error AddressToken :=
  tryKeys aead address pktDcid config.lifetime now (config.firstKey :: config.moreKeys) token

/-- The token check of `Endpoint::recv` for an Initial packet with destination cid `dcid`. -/
def recvInitial (config : TokenConfig Key) (aead : Aead Key) (now : SystemTime) (remote : SocketAddr)
    (dcid : ConnectionId) (token : Option Bytes) : Except Error Admission :=
  match token with
  | none => if config.retry then .ok .retried else .ok (.admitted none dcid)
  | some token =>
      match config.validateAddressToken aead token remote dcid now with
      | .ok decoded =>
          match decoded.odcid with
          | some odcid => .ok (.admitted (some decoded) odcid)
          -- The unwrapping that is said to succeed always.
          | none => .error .panic
      | .error _ =>
          match AddressToken.typeOf token with
          | .ok .retryToken => .error .invalidToken
          | _ => .ok .retried

end TokenConfig

end Tquic
