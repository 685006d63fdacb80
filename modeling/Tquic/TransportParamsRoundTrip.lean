import Tquic.FrameRoundTrip
import Tquic.TransportParams

/-! Transport parameters that were decoded can be encoded again. They come back unless one of
the two parameters whose default is not zero is zero. -/

set_option autoImplicit false

namespace Tquic

open Lib

namespace PreferredAddress

/-- What stands for an address: it is not the unspecified one with port 0, and it has no flow
label and no scope. -/
structure Canonical (address : PreferredAddress) : Prop where
  ipv4 : ∀ addr, address.ipv4Address = some addr → ¬ (addr.ip = .replicate 4 0 ∧ addr.port = 0)
  ipv6 : ∀ addr, address.ipv6Address = some addr →
    ¬ (addr.ip = .replicate 16 0 ∧ addr.port = 0) ∧ addr.flowinfo = 0 ∧ addr.scopeId = 0

def ipv4Image : Option SocketAddrV4 → Bytes
  | some addr => addr.ip.toList ++ BigEndian.encode 2 addr.port.toNat
  | none => (Vector.replicate 4 (0 : UInt8)).toList ++ BigEndian.encode 2 0

def ipv6Image : Option SocketAddrV6 → Bytes
  | some addr => addr.ip.toList ++ BigEndian.encode 2 addr.port.toNat
  | none => (Vector.replicate 16 (0 : UInt8)).toList ++ BigEndian.encode 2 0

def image (address : PreferredAddress) : Bytes :=
  ipv4Image address.ipv4Address ++ (ipv6Image address.ipv6Address ++
    (BigEndian.encode 1 address.connectionId.bytes.length ++
      (address.connectionId.bytes ++ address.statelessResetToken.toList)))

private theorem length_ipv4Image (addr : Option SocketAddrV4) : (ipv4Image addr).length = 6 := by
  cases addr <;> simp [ipv4Image]

private theorem length_ipv6Image (addr : Option SocketAddrV6) : (ipv6Image addr).length = 18 := by
  cases addr <;> simp [ipv6Image]

theorem length_image (address : PreferredAddress) : address.image.length = address.wireLen := by
  simp only [image, wireLen, List.length_append, length_ipv4Image, length_ipv6Image,
    BigEndian.length_encode, Vector.length_toList]
  omega

theorem fills_ipv4 (addr : Option SocketAddrV4) : Fills (writeIpv4 addr) (ipv4Image addr) () := by
  cases addr with
  | none => exact (fills_bytes _).bind (fills_uint 2 _)
  | some addr => exact (fills_bytes _).bind (fills_uint 2 _)

theorem fills_ipv6 (addr : Option SocketAddrV6) : Fills (writeIpv6 addr) (ipv6Image addr) () := by
  cases addr with
  | none => exact (fills_bytes _).bind (fills_uint 2 _)
  | some addr => exact (fills_bytes _).bind (fills_uint 2 _)

private theorem fills_image (address : PreferredAddress) : Fills address.toBytes address.image () :=
  (fills_ipv4 _).bind ((fills_ipv6 _).bind
    ((fills_uint 1 _).bind ((fills_bytes _).bind (fills_bytes _))))

theorem reads_port (port : UInt16) :
    Reads Decoder.readU16 (BigEndian.encode 2 port.toNat) port.toNat :=
  reads_uint (by simpa using port.toNat_lt)

private theorem reads_ipv4 {addr : Option SocketAddrV4}
    (canonical : ∀ found, addr = some found → ¬ (found.ip = .replicate 4 0 ∧ found.port = 0)) :
    Reads readIpv4 (ipv4Image addr) addr := by
  cases addr with
  | none =>
      refine (Frame.reads_array (.replicate 4 0)).bind ((reads_port 0).last ?_)
      rfl
  | some addr =>
      have named : ¬ (addr.ip = .replicate 4 0 ∧ addr.port.toNat = 0) := by
        rintro ⟨unspecified, zero⟩
        exact canonical addr rfl ⟨unspecified, UInt16.toNat_inj.mp zero⟩
      refine (Frame.reads_array addr.ip).bind ((reads_port addr.port).last ?_)
      rw [if_neg named, UInt16.ofNat_toNat]

private theorem reads_ipv6 {addr : Option SocketAddrV6} (canonical : ∀ found, addr = some found →
      ¬ (found.ip = .replicate 16 0 ∧ found.port = 0) ∧ found.flowinfo = 0 ∧ found.scopeId = 0) :
    Reads readIpv6 (ipv6Image addr) addr := by
  cases addr with
  | none =>
      refine (Frame.reads_array (.replicate 16 0)).bind ((reads_port 0).last ?_)
      rfl
  | some addr =>
      obtain ⟨specified, flowinfo, scopeId⟩ := canonical addr rfl
      have named : ¬ (addr.ip = .replicate 16 0 ∧ addr.port.toNat = 0) := by
        rintro ⟨unspecified, zero⟩
        exact specified ⟨unspecified, UInt16.toNat_inj.mp zero⟩
      refine (Frame.reads_array addr.ip).bind ((reads_port addr.port).last ?_)
      obtain ⟨ip, port, _, _⟩ := addr
      cases flowinfo
      cases scopeId
      rw [if_neg named, UInt16.ofNat_toNat]
      rfl

theorem reads_image {address : PreferredAddress} (canonical : address.Canonical) :
    Reads fromBytes address.image address := by
  have short : address.connectionId.bytes.length ≤ 20 := address.connectionId.short
  have len : Reads Decoder.readU8 (BigEndian.encode 1 address.connectionId.bytes.length)
      address.connectionId.bytes.length := reads_uint (by norm_num; omega)
  refine (reads_ipv4 canonical.ipv4).bind ((reads_ipv6 canonical.ipv6).bind (len.bind
    ((reads_bytes _).bind ((Frame.reads_array _).last ?_))))
  rw [ConnectionId.new_bytes]

theorem readU16_eq_zero {port : Nat} {input rest : Bytes}
    (read : Decoder.readU16.run input = .ok (port, rest)) (zero : UInt16.ofNat port = 0) :
    port = 0 := by
  have small : port < 65536 := (readUint_ok read).1
  have value := congrArg UInt16.toNat zero
  rwa [UInt16.toNat_ofNat', Nat.mod_eq_of_lt small] at value

private theorem fromBytes_canonical {address : PreferredAddress} {input rest : Bytes}
    (read : fromBytes.run input = .ok (address, rest)) : address.Canonical := by
  obtain ⟨ipv4, _, readV4, read⟩ := run_bind_ok.mp read
  obtain ⟨ipv6, _, readV6, read⟩ := run_bind_ok.mp read
  obtain ⟨_, _, _, read⟩ := run_bind_ok.mp read
  obtain ⟨_, _, _, read⟩ := run_bind_ok.mp read
  obtain ⟨_, _, _, read⟩ := run_bind_ok.mp read
  obtain ⟨rfl, rfl⟩ := Reader.run_pure_ok.mp read
  constructor
  · obtain ⟨ip, _, _, readV4⟩ := run_bind_ok.mp readV4
    obtain ⟨port, _, readPort, readV4⟩ := run_bind_ok.mp readV4
    obtain ⟨same, _⟩ := Reader.run_pure_ok.mp readV4
    rintro addr found ⟨unspecified, zero⟩
    dsimp only at found
    rw [← same] at found
    split_ifs at found with missing
    cases found
    exact missing ⟨unspecified, readU16_eq_zero readPort zero⟩
  · obtain ⟨ip, _, _, readV6⟩ := run_bind_ok.mp readV6
    obtain ⟨port, _, readPort, readV6⟩ := run_bind_ok.mp readV6
    obtain ⟨same, _⟩ := Reader.run_pure_ok.mp readV6
    intro addr found
    dsimp only at found
    rw [← same] at found
    split_ifs at found with missing
    cases found
    refine ⟨?_, rfl, rfl⟩
    rintro ⟨unspecified, zero⟩
    exact missing ⟨unspecified, readU16_eq_zero readPort zero⟩

end PreferredAddress

namespace TransportParams

/-! ## Wire images -/

def paramImage : Nat × Option Bytes → Bytes
  | (_, none) => []
  | (id, some val) => varint id ++ (varint val.length ++ val)

/-- Zero is not sent. -/
def nonzero (value : Nat) : Option Bytes := if value ≠ 0 then some (varint value) else none

def flag (set : Bool) : Option Bytes := if set then some [] else none

/-- A parameter that only a server sends. -/
def fromServer (isServer : Bool) (val : Option Bytes) : Option Bytes := if isServer then val else none

/-- The parameters in the order in which they are written. -/
def params (tp : TransportParams) (isServer : Bool) : List (Nat × Option Bytes) :=
  [(0x00, fromServer isServer (tp.originalDestinationConnectionId.map (·.bytes))),
    (0x01, nonzero tp.maxIdleTimeout),
    (0x02, fromServer isServer (tp.statelessResetToken.map (BigEndian.encode 16 ·.toNat))),
    (0x03, nonzero tp.maxUdpPayloadSize),
    (0x04, nonzero tp.initialMaxData),
    (0x05, nonzero tp.initialMaxStreamDataBidiLocal),
    (0x06, nonzero tp.initialMaxStreamDataBidiRemote),
    (0x07, nonzero tp.initialMaxStreamDataUni),
    (0x08, nonzero tp.initialMaxStreamsBidi),
    (0x09, nonzero tp.initialMaxStreamsUni),
    (0x0a, nonzero tp.ackDelayExponent),
    (0x0b, nonzero tp.maxAckDelay),
    (0x0c, flag tp.disableActiveMigration),
    (0x0d, tp.preferredAddress.map (·.image)),
    (0x0e, if 2 ≤ tp.activeConnIdLimit then some (varint tp.activeConnIdLimit) else none),
    (0x0f, tp.initialSourceConnectionId.map (·.bytes)),
    (0x10, fromServer isServer (tp.retrySourceConnectionId.map (·.bytes))),
    (0x0f739bbc1b666d05, flag tp.enableMultipath),
    (0xbaad, flag tp.disableEncryption)]

def image (tp : TransportParams) (isServer : Bool) : Bytes :=
  (tp.params isServer).flatMap paramImage

/-! ## Parameters that were decoded -/

/-- What holds of all parameters that the peer of `isServer` decodes. -/
structure WellFormed (isServer : Bool) (tp : TransportParams) : Prop where
  maxIdleTimeout : tp.maxIdleTimeout ≤ vintMax
  maxUdpPayloadSize : 1200 ≤ tp.maxUdpPayloadSize ∧ tp.maxUdpPayloadSize ≤ vintMax
  initialMaxData : tp.initialMaxData ≤ vintMax
  initialMaxStreamDataBidiLocal : tp.initialMaxStreamDataBidiLocal ≤ vintMax
  initialMaxStreamDataBidiRemote : tp.initialMaxStreamDataBidiRemote ≤ vintMax
  initialMaxStreamDataUni : tp.initialMaxStreamDataUni ≤ vintMax
  initialMaxStreamsBidi : tp.initialMaxStreamsBidi ≤ maxStreamsPerType
  initialMaxStreamsUni : tp.initialMaxStreamsUni ≤ maxStreamsPerType
  ackDelayExponent : tp.ackDelayExponent ≤ 20
  maxAckDelay : tp.maxAckDelay < 2 ^ 14
  preferredAddress : ∀ address, tp.preferredAddress = some address → address.Canonical
  activeConnIdLimit : 2 ≤ tp.activeConnIdLimit ∧ tp.activeConnIdLimit ≤ vintMax
  serverOnly : isServer = false →
    tp.originalDestinationConnectionId = none ∧ tp.statelessResetToken = none ∧
      tp.preferredAddress = none ∧ tp.retrySourceConnectionId = none

/-- Every value is small enough to be written. -/
structure Encodable (tp : TransportParams) : Prop where
  maxIdleTimeout : tp.maxIdleTimeout ≤ vintMax
  maxUdpPayloadSize : tp.maxUdpPayloadSize ≤ vintMax
  initialMaxData : tp.initialMaxData ≤ vintMax
  initialMaxStreamDataBidiLocal : tp.initialMaxStreamDataBidiLocal ≤ vintMax
  initialMaxStreamDataBidiRemote : tp.initialMaxStreamDataBidiRemote ≤ vintMax
  initialMaxStreamDataUni : tp.initialMaxStreamDataUni ≤ vintMax
  initialMaxStreamsBidi : tp.initialMaxStreamsBidi ≤ vintMax
  initialMaxStreamsUni : tp.initialMaxStreamsUni ≤ vintMax
  ackDelayExponent : tp.ackDelayExponent ≤ vintMax
  maxAckDelay : tp.maxAckDelay ≤ vintMax
  activeConnIdLimit : tp.activeConnIdLimit ≤ vintMax

theorem WellFormed.encodable {isServer : Bool} {tp : TransportParams}
    (wellFormed : tp.WellFormed isServer) : tp.Encodable where
  maxIdleTimeout := wellFormed.maxIdleTimeout
  maxUdpPayloadSize := wellFormed.maxUdpPayloadSize.2
  initialMaxData := wellFormed.initialMaxData
  initialMaxStreamDataBidiLocal := wellFormed.initialMaxStreamDataBidiLocal
  initialMaxStreamDataBidiRemote := wellFormed.initialMaxStreamDataBidiRemote
  initialMaxStreamDataUni := wellFormed.initialMaxStreamDataUni
  initialMaxStreamsBidi := wellFormed.initialMaxStreamsBidi.trans (by decide)
  initialMaxStreamsUni := wellFormed.initialMaxStreamsUni.trans (by decide)
  ackDelayExponent := wellFormed.ackDelayExponent.trans (by decide)
  maxAckDelay := wellFormed.maxAckDelay.le.trans (by decide)
  activeConnIdLimit := wellFormed.activeConnIdLimit.2

private theorem default_wellFormed (isServer : Bool) : default.WellFormed isServer where
  maxIdleTimeout := by decide
  maxUdpPayloadSize := by decide
  initialMaxData := by decide
  initialMaxStreamDataBidiLocal := by decide
  initialMaxStreamDataBidiRemote := by decide
  initialMaxStreamDataUni := by decide
  initialMaxStreamsBidi := by decide
  initialMaxStreamsUni := by decide
  ackDelayExponent := by decide
  maxAckDelay := by decide
  preferredAddress := by rintro _ ⟨⟩
  activeConnIdLimit := by decide
  serverOnly := fun _ => ⟨rfl, rfl, rfl, rfl⟩

variable {input rest : Bytes}

theorem readChecked_ok {valid : Nat → Bool} {value : Nat}
    (read : (readChecked valid).run input = .ok (value, rest)) :
    valid value = true ∧ value ≤ vintMax := by
  obtain ⟨found, left, first, checked⟩ := run_bind_ok.mp read
  split_ifs at checked with passed
  · obtain ⟨rfl, _⟩ := Reader.run_pure_ok.mp checked
    exact ⟨passed, (readVarint_ok first).1⟩
  · cases checked

/-- A field that holds a variable-length integer. -/
theorem setField_ok {α : Type} {reader : Decoder α} {set : α → TransportParams}
    {tp : TransportParams}
    (read : (do return set (← reader) : Decoder TransportParams).run input = .ok (tp, rest)) :
    ∃ value left, reader.run input = .ok (value, left) ∧ set value = tp := by
  obtain ⟨value, left, first, returned⟩ := run_bind_ok.mp read
  exact ⟨value, left, first, (Reader.run_pure_ok.mp returned).1⟩

variable {reader : Decoder TransportParams}

theorem serverParam_ok {isServer : Bool} {tp : TransportParams}
    (read : (if isServer then throw .transportParameterError else reader).run input =
      .ok (tp, rest)) :
    isServer = false ∧ reader.run input = .ok (tp, rest) := by
  cases isServer with
  | true => cases read
  | false => exact ⟨rfl, read⟩

private theorem setParam_wellFormed {isServer : Bool} {id : Nat} {tp next : TransportParams}
    {val rest : Bytes} (wellFormed : tp.WellFormed (!isServer))
    (read : (setParam isServer id tp).run val = .ok (next, rest)) :
    next.WellFormed (!isServer) := by
  unfold setParam at read
  split at read
  -- The parameters that only a server sends are stored by a client.
  case h_1 =>
    obtain ⟨rfl, read⟩ := serverParam_ok read
    obtain ⟨_, _, _, rfl⟩ := setField_ok read
    exact { wellFormed with serverOnly := by rintro ⟨⟩ }
  case h_3 =>
    obtain ⟨rfl, read⟩ := serverParam_ok read
    obtain ⟨_, _, _, rfl⟩ := setField_ok read
    exact { wellFormed with serverOnly := by rintro ⟨⟩ }
  case h_14 =>
    obtain ⟨rfl, read⟩ := serverParam_ok read
    obtain ⟨address, _, found, rfl⟩ := setField_ok read
    refine { wellFormed with serverOnly := by rintro ⟨⟩, preferredAddress := ?_ }
    rintro _ ⟨⟩
    exact PreferredAddress.fromBytes_canonical found
  case h_17 =>
    obtain ⟨rfl, read⟩ := serverParam_ok read
    obtain ⟨_, _, _, rfl⟩ := setField_ok read
    exact { wellFormed with serverOnly := by rintro ⟨⟩ }
  case h_2 =>
    obtain ⟨_, _, found, rfl⟩ := setField_ok read
    exact { wellFormed with maxIdleTimeout := (readVarint_ok found).1 }
  case h_4 =>
    obtain ⟨_, _, found, rfl⟩ := setField_ok read
    obtain ⟨large, small⟩ := readChecked_ok found
    exact { wellFormed with maxUdpPayloadSize := ⟨of_decide_eq_true large, small⟩ }
  case h_5 =>
    obtain ⟨_, _, found, rfl⟩ := setField_ok read
    exact { wellFormed with initialMaxData := (readVarint_ok found).1 }
  case h_6 =>
    obtain ⟨_, _, found, rfl⟩ := setField_ok read
    exact { wellFormed with initialMaxStreamDataBidiLocal := (readVarint_ok found).1 }
  case h_7 =>
    obtain ⟨_, _, found, rfl⟩ := setField_ok read
    exact { wellFormed with initialMaxStreamDataBidiRemote := (readVarint_ok found).1 }
  case h_8 =>
    obtain ⟨_, _, found, rfl⟩ := setField_ok read
    exact { wellFormed with initialMaxStreamDataUni := (readVarint_ok found).1 }
  case h_9 =>
    obtain ⟨_, _, found, rfl⟩ := setField_ok read
    exact { wellFormed with initialMaxStreamsBidi := of_decide_eq_true (readChecked_ok found).1 }
  case h_10 =>
    obtain ⟨_, _, found, rfl⟩ := setField_ok read
    exact { wellFormed with initialMaxStreamsUni := of_decide_eq_true (readChecked_ok found).1 }
  case h_11 =>
    obtain ⟨_, _, found, rfl⟩ := setField_ok read
    exact { wellFormed with ackDelayExponent := of_decide_eq_true (readChecked_ok found).1 }
  case h_12 =>
    obtain ⟨_, _, found, rfl⟩ := setField_ok read
    exact { wellFormed with maxAckDelay := of_decide_eq_true (readChecked_ok found).1 }
  case h_15 =>
    obtain ⟨_, _, found, rfl⟩ := setField_ok read
    obtain ⟨large, small⟩ := readChecked_ok found
    exact { wellFormed with activeConnIdLimit := ⟨of_decide_eq_true large, small⟩ }
  case h_16 =>
    obtain ⟨_, _, _, rfl⟩ := setField_ok read
    exact { wellFormed with }
  case h_13 | h_18 | h_19 | h_20 =>
    obtain ⟨rfl, _⟩ := Reader.run_pure_ok.mp read
    exact { wellFormed with }

variable {foundParams : List Nat} {buf : Bytes}

/-- One turn: an identifier that is new, its value, and the rest. -/
theorem decodeParams_cons {isServer : Bool} {turns : Nat}
    {tp after : TransportParams} {byte : UInt8}
    (decoded : decodeParams isServer (turns + 1) foundParams tp (byte :: buf) = .ok after) :
    ∃ id left val rest next ignored, Decoder.readVarint.run (byte :: buf) = .ok (id, left) ∧
      Decoder.readWithVarintLength.run left = .ok (val, rest) ∧
      (setParam isServer id tp).run val = .ok (next, ignored) ∧ id ∉ foundParams ∧
      decodeParams isServer turns (id :: foundParams) next rest = .ok after := by
  unfold decodeParams at decoded
  cases first : Decoder.readVarint.run (byte :: buf) with
  | error error =>
      rw [first] at decoded
      cases decoded
  | ok read =>
      rw [first] at decoded
      simp only [bind, Except.bind] at decoded
      split_ifs at decoded with seen
      cases second : Decoder.readWithVarintLength.run read.2 with
      | error error =>
          rw [second] at decoded
          cases decoded
      | ok value =>
          rw [second] at decoded
          dsimp only at decoded
          cases third : (setParam isServer read.1 tp).run value.1 with
          | error error =>
              rw [third] at decoded
              cases decoded
          | ok stored =>
              rw [third] at decoded
              exact ⟨read.1, read.2, value.1, value.2, stored.1, stored.2, rfl, second, third, seen,
                decoded⟩

private theorem decodeParams_wellFormed {isServer : Bool} {turns : Nat}
    {tp after : TransportParams} (wellFormed : tp.WellFormed (!isServer))
    (decoded : decodeParams isServer turns foundParams tp buf = .ok after) :
    after.WellFormed (!isServer) := by
  induction turns generalizing foundParams tp buf with
  | zero =>
      cases buf with
      | nil =>
          cases decoded
          exact wellFormed
      | cons => cases decoded
  | succ turns ih =>
      cases buf with
      | nil =>
          cases decoded
          exact wellFormed
      | cons byte buf =>
          obtain ⟨_, _, _, _, _, _, _, _, stored, _, later⟩ := decodeParams_cons decoded
          exact ih (setParam_wellFormed wellFormed stored) later

theorem decode_wellFormed {isServer : Bool} {tp : TransportParams} {len : Nat}
    (decoded : decode buf isServer = .ok (tp, len)) : tp.WellFormed (!isServer) := by
  unfold decode at decoded
  cases looped : decodeParams isServer buf.length [] default buf with
  | error error =>
      rw [looped] at decoded
      cases decoded
  | ok after =>
      rw [looped] at decoded
      cases decoded
      exact decodeParams_wellFormed (default_wellFormed _) looped

/-! ## Writing -/

variable {writer : Encoder Unit}

theorem fills_when {condition : Bool} {param : Nat × Option Bytes}
    (absent : condition = false → param.2 = none)
    (present : condition = true → Fills writer (paramImage param) ()) :
    Fills (writeWhen condition writer) (paramImage param) () := by
  unfold writeWhen
  cases condition with
  | true => exact present rfl
  | false =>
      obtain ⟨id, val⟩ := param
      cases absent rfl
      exact Fills.pure ()

theorem fills_param {id len : Nat} {val : Bytes} (known : id ≤ vintMax)
    (length : val.length = len) (small : len ≤ vintMax) (fills : Fills writer val ()) :
    Fills (do
      Encoder.writeVarint id
      Encoder.writeVarint len
      writer : Encoder Unit) (paramImage (id, some val)) () := by
  subst length
  exact (fills_varint known).bind ((fills_varint small).bind fills)

theorem fills_int {id value : Nat} (known : id ≤ vintMax) (small : value ≤ vintMax) :
    Fills (writeInt id value) (paramImage (id, some (varint value))) () :=
  fills_param known (length_varint value) ((encodeVarintLen_le value).trans (by decide))
    (fills_varint small)

theorem fills_nonzero {id value : Nat} (known : id ≤ vintMax) (small : value ≤ vintMax) :
    Fills (writeWhen (value ≠ 0) (writeInt id value)) (paramImage (id, nonzero value)) () := by
  refine fills_when ?_ ?_
  · intro zero
    exact if_neg (of_decide_eq_false zero)
  · intro set
    rw [nonzero, if_pos (of_decide_eq_true set)]
    exact fills_int known small

theorem fills_flag {id : Nat} (known : id ≤ vintMax) (set : Bool) :
    Fills (writeWhen set (writeFlag id)) (paramImage (id, flag set)) () := by
  cases set with
  | false => exact Fills.pure ()
  | true =>
      have same : paramImage (id, flag true) = varint id ++ varint 0 := by
        simp [paramImage, flag]
      rw [same]
      exact (fills_varint known).bind (fills_varint (by decide))

theorem fills_some {α : Type} {id : Nat} {value : Option α} {writer : α → Encoder Unit}
    {bytes : α → Bytes} (fills : ∀ value, Fills (writer value) (paramImage (id, some (bytes value))) ()) :
    Fills (writeSome value writer) (paramImage (id, value.map bytes)) () := by
  cases value with
  | none => exact Fills.pure ()
  | some value => exact fills value

theorem fills_fromServer {id : Nat} {isServer : Bool} {val : Option Bytes}
    (fills : Fills writer (paramImage (id, val)) ()) :
    Fills (writeWhen isServer writer) (paramImage (id, fromServer isServer val)) () := by
  cases isServer with
  | false => exact Fills.pure ()
  | true => exact fills

theorem length_cid (cid : ConnectionId) : cid.bytes.length ≤ vintMax :=
  cid.short.trans (by decide)

theorem fills_cid {id : Nat} (known : id ≤ vintMax) (cid : ConnectionId) :
    Fills (writeCid id cid) (paramImage (id, some cid.bytes)) () :=
  fills_param known rfl (length_cid cid) (fills_bytes _)

private theorem fills_token {id : Nat} (known : id ≤ vintMax) (token : BitVec 128) :
    Fills (writeToken id token) (paramImage (id, some (BigEndian.encode 16 token.toNat))) () :=
  fills_param known (BigEndian.length_encode 16 _) (by decide) (fills_uint 16 _)

theorem wireLen_le (address : PreferredAddress) : address.wireLen ≤ vintMax := by
  have short : address.connectionId.bytes.length ≤ 20 := address.connectionId.short
  unfold PreferredAddress.wireLen vintMax
  omega

theorem fills_preferredAddress {id : Nat} (known : id ≤ vintMax) (address : PreferredAddress) :
    Fills (writePreferredAddress id address) (paramImage (id, some address.image)) () :=
  fills_param known address.length_image (wireLen_le address) address.fills_image

theorem fills_params {tp : TransportParams} (encodable : tp.Encodable) (isServer : Bool) :
    Fills (tp.writeParams isServer) (tp.image isServer) () := by
  have limit : Fills (writeWhen (2 ≤ tp.activeConnIdLimit) (writeInt 0x0e tp.activeConnIdLimit))
      (paramImage (0x0e, if 2 ≤ tp.activeConnIdLimit then some (varint tp.activeConnIdLimit)
        else none)) () := by
    refine fills_when ?_ ?_
    · intro few
      exact if_neg (of_decide_eq_false few)
    · intro enough
      rw [if_pos (of_decide_eq_true enough)]
      exact fills_int (by decide) encodable.activeConnIdLimit
  simp only [image, params, List.flatMap_cons, List.flatMap_nil, List.append_nil]
  refine (fills_fromServer (fills_some (fills_cid (by decide)))).bind ?_
  refine (fills_nonzero (by decide) encodable.maxIdleTimeout).bind ?_
  refine (fills_fromServer (fills_some (fills_token (by decide)))).bind ?_
  refine (fills_nonzero (by decide) encodable.maxUdpPayloadSize).bind ?_
  refine (fills_nonzero (by decide) encodable.initialMaxData).bind ?_
  refine (fills_nonzero (by decide) encodable.initialMaxStreamDataBidiLocal).bind ?_
  refine (fills_nonzero (by decide) encodable.initialMaxStreamDataBidiRemote).bind ?_
  refine (fills_nonzero (by decide) encodable.initialMaxStreamDataUni).bind ?_
  refine (fills_nonzero (by decide) encodable.initialMaxStreamsBidi).bind ?_
  refine (fills_nonzero (by decide) encodable.initialMaxStreamsUni).bind ?_
  refine (fills_nonzero (by decide) encodable.ackDelayExponent).bind ?_
  refine (fills_nonzero (by decide) encodable.maxAckDelay).bind ?_
  refine (fills_flag (by decide) _).bind ?_
  refine (fills_some (fills_preferredAddress (by decide))).bind ?_
  refine limit.bind ?_
  refine (fills_some (fills_cid (by decide))).bind ?_
  refine (fills_fromServer (fills_some (fills_cid (by decide)))).bind ?_
  exact (fills_flag (by decide) _).bind (fills_flag (by decide) _)

/-! ## Reading -/

/-- Storing the parameters one after the other turns the first record into the second. -/
inductive Sets (isServer : Bool) :
    List (Nat × Option Bytes) → TransportParams → TransportParams → Prop where
  | nil {tp} : Sets isServer [] tp tp
  | absent {id params tp after} :
      Sets isServer params tp after → Sets isServer ((id, none) :: params) tp after
  | present {id val params tp next after ignored} :
      id ≤ vintMax → val.length ≤ vintMax →
      (setParam isServer id tp).run val = .ok (next, ignored) → Sets isServer params next after →
      Sets isServer ((id, some val) :: params) tp after

theorem Sets.cons {isServer : Bool} {param : Nat × Option Bytes} {params : List (Nat × Option Bytes)}
    {tp next after : TransportParams} (first : Sets isServer [param] tp next)
    (later : Sets isServer params next after) : Sets isServer (param :: params) tp after := by
  cases first with
  | absent last =>
      cases last
      exact .absent later
  | present known small stored last =>
      cases last
      exact .present known small stored later

private theorem decodeParams_succ (isServer : Bool) (turns : Nat) (foundParams : List Nat)
    (tp : TransportParams) (filled : buf ≠ []) :
    decodeParams isServer (turns + 1) foundParams tp buf = (do
      let (id, buf) ← Decoder.readVarint.run buf
      if id ∈ foundParams then throw .transportParameterError
      else
        let (val, buf) ← Decoder.readWithVarintLength.run buf
        let (tp, _) ← (setParam isServer id tp).run val
        decodeParams isServer turns (id :: foundParams) tp buf) := by
  cases buf with
  | nil => exact absurd rfl filled
  | cons => rfl

/-- The loop reads the parameters back, in the order in which they were written. -/
theorem Sets.decodes {isServer : Bool} {params : List (Nat × Option Bytes)}
    {tp after : TransportParams} (sets : Sets isServer params tp after) {turns : Nat}
    (unique : (params.map Prod.fst).Nodup) (fresh : ∀ id ∈ foundParams, id ∉ params.map Prod.fst)
    (enough : (params.flatMap paramImage).length ≤ turns) :
    decodeParams isServer turns foundParams tp (params.flatMap paramImage) = .ok after := by
  induction sets generalizing turns foundParams with
  | nil => cases turns <;> rfl
  | absent _ ih =>
      refine ih (List.nodup_cons.mp unique).2 ?_ enough
      intro id found member
      exact fresh id found (List.mem_cons_of_mem _ member)
  | @present id val params tp next after ignored known small stored _ ih =>
      obtain ⟨absent, unique⟩ := List.nodup_cons.mp unique
      have unseen : id ∉ foundParams := fun found => fresh id found List.mem_cons_self
      have positive := encodeVarintLen_pos id
      have bytes : ((id, some val) :: params).flatMap paramImage =
          varint id ++ ((varint val.length ++ val) ++ params.flatMap paramImage) := by
        simp [paramImage]
      rw [bytes] at enough ⊢
      simp only [List.length_append, length_varint] at enough
      obtain ⟨turns, rfl⟩ : ∃ fewer, turns = fewer + 1 := ⟨turns - 1, by omega⟩
      have filled : varint id ++ ((varint val.length ++ val) ++ params.flatMap paramImage) ≠ [] := by
        intro empty
        have length := congrArg List.length empty
        simp only [List.length_append, length_varint, List.length_nil] at length
        omega
      rw [decodeParams_succ _ _ _ _ filled, reads_varint known]
      simp only [bind, Except.bind]
      rw [if_neg unseen, reads_withVarintLength small]
      dsimp only
      rw [stored]
      refine ih unique ?_ (by omega)
      intro other found
      cases found with
      | head => exact absent
      | tail _ found => exact fun member => fresh other found (List.mem_cons_of_mem _ member)

section Fields

variable {isServer : Bool} {id : Nat} {tp : TransportParams}

theorem sets_int {value : Nat} (set : TransportParams → Nat → TransportParams)
    (known : id ≤ vintMax)
    (reads : ∀ tp, Reads (setParam isServer id tp) (varint value) (set tp value)) :
    Sets isServer [(id, some (varint value))] tp (set tp value) := by
  have stored := reads tp []
  rw [List.append_nil] at stored
  have small : (varint value).length ≤ vintMax := by
    rw [length_varint]
    exact (encodeVarintLen_le value).trans (by decide)
  exact .present known small stored .nil

/-- Zero is not written, and the default is kept in its place. -/
theorem sets_nonzero {value initial : Nat} (get : TransportParams → Nat)
    (set : TransportParams → Nat → TransportParams) (known : id ≤ vintMax)
    (same : ∀ tp, set tp (get tp) = tp) (unset : get tp = initial)
    (reads : ∀ tp, Reads (setParam isServer id tp) (varint value) (set tp value)) :
    Sets isServer [(id, nonzero value)] tp (set tp (if value = 0 then initial else value)) := by
  by_cases zero : value = 0
  · have absent : nonzero value = none := if_neg (not_not.mpr zero)
    rw [absent, if_pos zero, ← unset, same]
    exact .absent .nil
  · have present : nonzero value = some (varint value) := if_pos zero
    rw [present, if_neg zero]
    exact sets_int set known reads

theorem sets_zero {value : Nat} (get : TransportParams → Nat)
    (set : TransportParams → Nat → TransportParams) (known : id ≤ vintMax)
    (same : ∀ tp, set tp (get tp) = tp) (unset : get tp = 0)
    (reads : ∀ tp, Reads (setParam isServer id tp) (varint value) (set tp value)) :
    Sets isServer [(id, nonzero value)] tp (set tp value) := by
  have sets := sets_nonzero get set known same unset reads
  have kept : (if value = 0 then 0 else value) = value := by
    split_ifs with zero
    · exact zero.symm
    · rfl
  rwa [kept] at sets

theorem sets_flag {value : Bool} (get : TransportParams → Bool)
    (set : TransportParams → Bool → TransportParams) (known : id ≤ vintMax)
    (same : ∀ tp, set tp (get tp) = tp) (unset : get tp = false)
    (stored : ∀ tp, (setParam isServer id tp).run [] = .ok (set tp true, [])) :
    Sets isServer [(id, flag value)] tp (set tp value) := by
  cases value with
  | false =>
      have kept : set tp false = tp := unset ▸ same tp
      rw [kept]
      exact .absent .nil
  | true => exact .present known (by decide) (stored tp) .nil

theorem sets_some {α : Type} {value : Option α} {bytes : α → Bytes}
    (get : TransportParams → Option α) (set : TransportParams → Option α → TransportParams)
    (known : id ≤ vintMax) (same : ∀ tp, set tp (get tp) = tp) (unset : get tp = none)
    (small : ∀ found, (bytes found).length ≤ vintMax) (stored : ∀ found tp, value = some found →
      ∃ ignored, (setParam isServer id tp).run (bytes found) = .ok (set tp (some found), ignored)) :
    Sets isServer [(id, value.map bytes)] tp (set tp value) := by
  cases value with
  | none =>
      have kept : set tp none = tp := unset ▸ same tp
      rw [kept]
      exact .absent .nil
  | some found =>
      obtain ⟨ignored, read⟩ := stored found tp rfl
      exact .present known (small found) read .nil

end Fields

theorem reads_checked {valid : Nat → Bool} {value : Nat} (small : value ≤ vintMax)
    (passed : valid value = true) : Reads (readChecked valid) (varint value) value := by
  refine (reads_varint small).last ?_
  rw [if_pos passed]

theorem fromServer_eq {isServer : Bool} {α : Type} {value : Option α} {bytes : α → Bytes}
    (clients : isServer = false → value = none) :
    fromServer isServer (value.map bytes) = value.map bytes := by
  cases isServer with
  | true => rfl
  | false =>
      rw [clients rfl]
      rfl

theorem server_of_some {isServer : Bool} {α : Type} {value : Option α} {found : α}
    (clients : isServer = false → value = none) (present : value = some found) :
    isServer = true := by
  cases isServer with
  | true => rfl
  | false =>
      rw [clients rfl] at present
      cases present

theorem run_cid (set : ConnectionId → TransportParams)
    (cid : ConnectionId) (reads : ∀ bytes, reader.run bytes = .ok (set (.new bytes), bytes)) :
    reader.run cid.bytes = .ok (set cid, cid.bytes) := by
  rw [reads, cid.new_bytes]

theorem run_of_reads {bytes : Bytes} {next : TransportParams}
    (reads : Reads reader bytes next) : reader.run bytes = .ok (next, []) := by
  have read := reads []
  rwa [List.append_nil] at read

private theorem reads_token (token : BitVec 128) :
    Reads (Decoder.readUint 16) (BigEndian.encode 16 token.toNat) token.toNat :=
  reads_uint (by simpa using token.isLt)

/-- What comes back: the two parameters whose default is not zero take it instead of zero. -/
def received (tp : TransportParams) : TransportParams :=
  { tp with
    ackDelayExponent := if tp.ackDelayExponent = 0 then 3 else tp.ackDelayExponent
    maxAckDelay := if tp.maxAckDelay = 0 then 25 else tp.maxAckDelay }

/-- The parameters, read one by one, set every field that was sent. -/
theorem sets_params {isServer : Bool} {tp : TransportParams} (wellFormed : tp.WellFormed isServer) :
    Sets (!isServer) (tp.params isServer) default tp.received := by
  have streams : maxStreamsPerType ≤ vintMax := by decide
  have exponent : 20 ≤ vintMax := by decide
  have delay : 2 ^ 14 ≤ vintMax := by decide
  have clients := wellFormed.serverOnly
  have udp := wellFormed.maxUdpPayloadSize
  have limit := wellFormed.activeConnIdLimit
  have udpSent : nonzero tp.maxUdpPayloadSize = some (varint tp.maxUdpPayloadSize) :=
    if_pos (by omega)
  unfold params
  rw [fromServer_eq fun client => (clients client).1,
    fromServer_eq fun client => (clients client).2.1,
    fromServer_eq fun client => (clients client).2.2.2, if_pos limit.1, udpSent]
  refine .cons (sets_some (·.originalDestinationConnectionId)
    (fun tp cid => { tp with originalDestinationConnectionId := cid }) (by decide) (fun _ => rfl) rfl
    length_cid ?_) ?_
  · intro cid tp found
    cases server_of_some (fun client => (clients client).1) found
    exact ⟨cid.bytes, run_cid (fun cid => { tp with originalDestinationConnectionId := some cid })
      cid fun _ => rfl⟩
  refine .cons (sets_zero (·.maxIdleTimeout) (fun tp value => { tp with maxIdleTimeout := value })
    (by decide) (fun _ => rfl) rfl
    fun _ => (reads_varint wellFormed.maxIdleTimeout).last rfl) ?_
  refine .cons (sets_some (·.statelessResetToken)
    (fun tp token => { tp with statelessResetToken := token }) (by decide) (fun _ => rfl) rfl
    (fun _ => by rw [BigEndian.length_encode]; decide) ?_) ?_
  · intro token tp found
    cases server_of_some (fun client => (clients client).2.1) found
    refine ⟨[], run_of_reads ((reads_token token).last ?_)⟩
    rw [BitVec.ofNat_toNat, BitVec.setWidth_eq]
  refine .cons (sets_int (fun tp value => { tp with maxUdpPayloadSize := value }) (by decide)
    fun _ => (reads_checked udp.2 (decide_eq_true udp.1)).last rfl) ?_
  refine .cons (sets_zero (·.initialMaxData) (fun tp value => { tp with initialMaxData := value })
    (by decide) (fun _ => rfl) rfl
    fun _ => (reads_varint wellFormed.initialMaxData).last rfl) ?_
  refine .cons (sets_zero (·.initialMaxStreamDataBidiLocal)
    (fun tp value => { tp with initialMaxStreamDataBidiLocal := value }) (by decide)
    (fun _ => rfl) rfl
    fun _ => (reads_varint wellFormed.initialMaxStreamDataBidiLocal).last rfl) ?_
  refine .cons (sets_zero (·.initialMaxStreamDataBidiRemote)
    (fun tp value => { tp with initialMaxStreamDataBidiRemote := value }) (by decide)
    (fun _ => rfl) rfl
    fun _ => (reads_varint wellFormed.initialMaxStreamDataBidiRemote).last rfl) ?_
  refine .cons (sets_zero (·.initialMaxStreamDataUni)
    (fun tp value => { tp with initialMaxStreamDataUni := value }) (by decide) (fun _ => rfl) rfl
    fun _ => (reads_varint wellFormed.initialMaxStreamDataUni).last rfl) ?_
  refine .cons (sets_zero (·.initialMaxStreamsBidi)
    (fun tp value => { tp with initialMaxStreamsBidi := value }) (by decide) (fun _ => rfl) rfl
    fun _ => (reads_checked (wellFormed.initialMaxStreamsBidi.trans streams)
      (decide_eq_true wellFormed.initialMaxStreamsBidi)).last rfl) ?_
  refine .cons (sets_zero (·.initialMaxStreamsUni)
    (fun tp value => { tp with initialMaxStreamsUni := value }) (by decide) (fun _ => rfl) rfl
    fun _ => (reads_checked (wellFormed.initialMaxStreamsUni.trans streams)
      (decide_eq_true wellFormed.initialMaxStreamsUni)).last rfl) ?_
  refine .cons (sets_nonzero (·.ackDelayExponent)
    (fun tp value => { tp with ackDelayExponent := value }) (by decide) (fun _ => rfl) rfl
    fun _ => (reads_checked (wellFormed.ackDelayExponent.trans exponent)
      (decide_eq_true wellFormed.ackDelayExponent)).last rfl) ?_
  refine .cons (sets_nonzero (·.maxAckDelay)
    (fun tp value => { tp with maxAckDelay := value }) (by decide) (fun _ => rfl) rfl
    fun _ => (reads_checked (wellFormed.maxAckDelay.le.trans delay)
      (decide_eq_true wellFormed.maxAckDelay)).last rfl) ?_
  refine .cons (sets_flag (·.disableActiveMigration)
    (fun tp set => { tp with disableActiveMigration := set }) (by decide) (fun _ => rfl) rfl
    fun _ => rfl) ?_
  refine .cons (sets_some (·.preferredAddress)
    (fun tp address => { tp with preferredAddress := address }) (by decide) (fun _ => rfl) rfl
    (fun address => address.length_image.trans_le (wireLen_le address)) ?_) ?_
  · intro address tp found
    cases server_of_some (fun client => (clients client).2.2.1) found
    have canonical := wellFormed.preferredAddress address found
    exact ⟨[], run_of_reads ((PreferredAddress.reads_image canonical).last rfl)⟩
  refine .cons (sets_int (fun tp value => { tp with activeConnIdLimit := value }) (by decide)
    fun _ => (reads_checked limit.2 (decide_eq_true limit.1)).last rfl) ?_
  refine .cons (sets_some (·.initialSourceConnectionId)
    (fun tp cid => { tp with initialSourceConnectionId := cid }) (by decide) (fun _ => rfl) rfl
    length_cid ?_) ?_
  · intro cid tp _
    exact ⟨cid.bytes, run_cid (fun cid => { tp with initialSourceConnectionId := some cid })
      cid fun _ => rfl⟩
  refine .cons (sets_some (·.retrySourceConnectionId)
    (fun tp cid => { tp with retrySourceConnectionId := cid }) (by decide) (fun _ => rfl) rfl
    length_cid ?_) ?_
  · intro cid tp found
    cases server_of_some (fun client => (clients client).2.2.2) found
    exact ⟨cid.bytes, run_cid (fun cid => { tp with retrySourceConnectionId := some cid })
      cid fun _ => rfl⟩
  refine .cons (sets_flag (·.enableMultipath)
    (fun tp set => { tp with enableMultipath := set }) (by decide) (fun _ => rfl) rfl
    fun _ => rfl) ?_
  exact sets_flag (·.disableEncryption) (fun tp set => { tp with disableEncryption := set })
    (by decide) (fun _ => rfl) rfl fun _ => rfl

/-! ## Round trips -/

private theorem params_unique (tp : TransportParams) (isServer : Bool) :
    ((tp.params isServer).map Prod.fst).Nodup := by
  have ids : (tp.params isServer).map Prod.fst =
      [0x00, 0x01, 0x02, 0x03, 0x04, 0x05, 0x06, 0x07, 0x08, 0x09, 0x0a, 0x0b, 0x0c, 0x0d, 0x0e, 0x0f,
        0x10, 0x0f739bbc1b666d05, 0xbaad] := rfl
  rw [ids]
  decide

theorem decode_image {isServer : Bool} {tp : TransportParams} (wellFormed : tp.WellFormed isServer) :
    decode (tp.image isServer) (!isServer) = .ok (tp.received, (tp.image isServer).length) := by
  have decoded := (sets_params wellFormed).decodes (params_unique tp isServer)
    (fun _ found => absurd found List.not_mem_nil) (Nat.le_refl _)
  unfold decode image
  rw [decoded]
  rfl

theorem encode_eq {tp : TransportParams} (encodable : tp.Encodable) {isServer : Bool} {room : Nat}
    (enough : (tp.image isServer).length ≤ room) :
    tp.encode isServer room = .ok (tp.image isServer, (tp.image isServer).length) := by
  have written := (fills_params encodable isServer).writes { written := [], room } enough
  unfold encode
  rw [written]
  simp only [List.nil_append]
  rw [Nat.sub_sub_self enough]

theorem encode_refused {tp : TransportParams} (encodable : tp.Encodable) {isServer : Bool}
    {room : Nat} (few : room < (tp.image isServer).length) :
    ∃ error, tp.encode isServer room = .error error := by
  obtain ⟨error, failed⟩ := (fills_params encodable isServer).refuses { written := [], room } few
  unfold encode
  rw [failed]
  exact ⟨error, rfl⟩

/-- In a buffer that is large enough the parameters are encoded, and the peer decodes the same
parameters from all the bytes. -/
def RoundTrips (tp : TransportParams) (isServer : Bool) : Prop :=
  ∃ len, ∀ room, len ≤ room → ∃ bytes, tp.encode isServer room = .ok (bytes, len) ∧
    decode bytes (!isServer) = .ok (tp, len)

private theorem received_eq_iff (tp : TransportParams) :
    tp.received = tp ↔ tp.ackDelayExponent ≠ 0 ∧ tp.maxAckDelay ≠ 0 := by
  constructor
  · intro same
    have exponent := congrArg ackDelayExponent same
    have delay := congrArg maxAckDelay same
    simp only [received] at exponent delay
    constructor
    · intro zero
      rw [if_pos zero] at exponent
      omega
    · intro zero
      rw [if_pos zero] at delay
      omega
  · rintro ⟨exponent, delay⟩
    unfold received
    rw [if_neg exponent, if_neg delay]

theorem roundTrips_iff {isServer : Bool} {tp : TransportParams}
    (wellFormed : tp.WellFormed isServer) :
    tp.RoundTrips isServer ↔ tp.ackDelayExponent ≠ 0 ∧ tp.maxAckDelay ≠ 0 := by
  rw [← received_eq_iff]
  have back := decode_image wellFormed
  constructor
  · rintro ⟨len, trips⟩
    obtain ⟨bytes, encoded, decoded⟩ :=
      trips (max len (tp.image isServer).length) (Nat.le_max_left _ _)
    rw [encode_eq wellFormed.encodable (Nat.le_max_right _ _)] at encoded
    cases encoded
    rw [back] at decoded
    exact congrArg Prod.fst (Except.ok.inj decoded)
  · intro same
    rw [same] at back
    exact ⟨_, fun room enough => ⟨_, encode_eq wellFormed.encodable enough, back⟩⟩

/-- Parameters that a peer of this role decodes can be sent by this role, and are decoded again
as they were if and only if neither the ACK delay exponent nor the maximum ACK delay is zero. -/
theorem decoded_params_round_trip (tp : TransportParams) (isServer : Bool)
    (decodable : ∃ raw len, decode raw (!isServer) = .ok (tp, len)) :
    tp.RoundTrips isServer ↔ tp.ackDelayExponent ≠ 0 ∧ tp.maxAckDelay ≠ 0 := by
  obtain ⟨raw, len, decoded⟩ := decodable
  have wellFormed := decode_wellFormed decoded
  rw [Bool.not_not] at wellFormed
  exact roundTrips_iff wellFormed

/-- A client sends a maximum ACK delay of one millisecond, and nothing else. -/
theorem short_ack_delay_round_trip :
    decode [0x0b, 0x01, 0x01] true = .ok ({ default with maxAckDelay := 1 }, 3) ∧
      RoundTrips { default with maxAckDelay := 1 } false := by
  have decoded : decode [0x0b, 0x01, 0x01] true = .ok ({ default with maxAckDelay := 1 }, 3) := rfl
  exact ⟨decoded, (decoded_params_round_trip _ false ⟨_, _, decoded⟩).mpr ⟨by decide, by decide⟩⟩

/-- An ACK delay exponent of zero is decoded, and comes back as three. -/
theorem zero_exponent_not_sent :
    ¬ ∀ (tp : TransportParams) (isServer : Bool),
      (∃ raw len, decode raw (!isServer) = .ok (tp, len)) → tp.RoundTrips isServer := by
  intro always
  have decoded : decode [0x0a, 0x01, 0x00] true = .ok ({ default with ackDelayExponent := 0 }, 3) :=
    rfl
  have trips := always { default with ackDelayExponent := 0 } false ⟨_, _, decoded⟩
  exact ((roundTrips_iff (decode_wellFormed decoded)).mp trips).1 rfl

end TransportParams

end Tquic
