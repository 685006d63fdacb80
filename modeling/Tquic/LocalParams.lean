import Tquic.Connection.FlowLimits
import Tquic.TransportParamsRoundTrip

/-! The transport parameters that a configuration admits, after `lib.rs`, and the buffer into
which a connection encodes its own, after `connection.rs`. -/

set_option autoImplicit false

namespace Tquic

open Lib Connection

/-- What a configuration says about the transport parameters. -/
structure Config where
  windows : WindowConfig := {}
  maxIdleTimeout : Nat := 0
  maxUdpPayloadSize : Nat := 65527
  initialMaxStreamsBidi : Nat := 200
  initialMaxStreamsUni : Nat := 100
  ackDelayExponent : Nat := 3
  maxAckDelay : Nat := 25
  activeConnIdLimit : Nat := 2
  enableMultipath : Bool := false
  disableEncryption : Bool := false

namespace Config

def setMaxIdleTimeout (config : Config) (v : Nat) : Config :=
  { config with maxIdleTimeout := min v vintMax }

def setRecvUdpPayloadSize (config : Config) (v : UInt16) : Config :=
  { config with maxUdpPayloadSize := min v.toNat vintMax }

def setInitialMaxStreamsBidi (config : Config) (v : Nat) : Config :=
  { config with initialMaxStreamsBidi := min v vintMax }

def setInitialMaxStreamsUni (config : Config) (v : Nat) : Config :=
  { config with initialMaxStreamsUni := min v vintMax }

def setAckDelayExponent (config : Config) (v : Nat) : Config :=
  { config with ackDelayExponent := min v vintMax }

def setMaxAckDelay (config : Config) (v : Nat) : Config :=
  { config with maxAckDelay := min v vintMax }

/-- Lower values are ignored. -/
def setActiveConnectionIdLimit (config : Config) (v : Nat) : Config :=
  if 2 ≤ v then { config with activeConnIdLimit := min v vintMax } else config

def setEnableMultipath (config : Config) (v : Bool) : Config := { config with enableMultipath := v }

def enableEncryption (config : Config) (v : Bool) : Config := { config with disableEncryption := !v }

/-- What the setters can make of the default configuration, in any order. Those of the windows
touch nothing else. -/
inductive Admitted : Config → Prop where
  | default : Admitted {}
  | windows {config} {windows : WindowConfig} (admitted : windows.Admitted)
      (before : Admitted config) : Admitted { config with windows }
  | maxIdleTimeout {config} (v : Nat) (before : Admitted config) :
      Admitted (config.setMaxIdleTimeout v)
  | recvUdpPayloadSize {config} (v : UInt16) (before : Admitted config) :
      Admitted (config.setRecvUdpPayloadSize v)
  | initialMaxStreamsBidi {config} (v : Nat) (before : Admitted config) :
      Admitted (config.setInitialMaxStreamsBidi v)
  | initialMaxStreamsUni {config} (v : Nat) (before : Admitted config) :
      Admitted (config.setInitialMaxStreamsUni v)
  | ackDelayExponent {config} (v : Nat) (before : Admitted config) :
      Admitted (config.setAckDelayExponent v)
  | maxAckDelay {config} (v : Nat) (before : Admitted config) : Admitted (config.setMaxAckDelay v)
  | activeConnectionIdLimit {config} (v : Nat) (before : Admitted config) :
      Admitted (config.setActiveConnectionIdLimit v)
  | multipath {config} (v : Bool) (before : Admitted config) :
      Admitted (config.setEnableMultipath v)
  | encryption {config} (v : Bool) (before : Admitted config) : Admitted (config.enableEncryption v)

def localTransportParams (config : Config) : TransportParams :=
  { TransportParams.default with
    maxIdleTimeout := config.maxIdleTimeout
    maxUdpPayloadSize := config.maxUdpPayloadSize
    initialMaxData := config.windows.initialMaxData
    initialMaxStreamDataBidiLocal := config.windows.initialMaxStreamDataBidiLocal
    initialMaxStreamDataBidiRemote := config.windows.initialMaxStreamDataBidiRemote
    initialMaxStreamDataUni := config.windows.initialMaxStreamDataUni
    initialMaxStreamsBidi := config.initialMaxStreamsBidi
    initialMaxStreamsUni := config.initialMaxStreamsUni
    ackDelayExponent := config.ackDelayExponent
    maxAckDelay := config.maxAckDelay
    activeConnIdLimit := config.activeConnIdLimit
    enableMultipath := config.enableMultipath
    disableEncryption := config.disableEncryption }

end Config

/-- What a connection puts into the parameters of its configuration. -/
structure LocalIds where
  originalDestination : Option ConnectionId
  initialSource : Option ConnectionId
  retrySource : Option ConnectionId
  resetToken : Option (BitVec 128)
  /-- One of the first ids is of zero length, which rules out multipath. -/
  zeroLength : Bool

def LocalIds.apply (ids : LocalIds) (tp : TransportParams) : TransportParams :=
  { tp with
    originalDestinationConnectionId := ids.originalDestination
    initialSourceConnectionId := ids.initialSource
    retrySourceConnectionId := ids.retrySource
    statelessResetToken := ids.resetToken
    enableMultipath := tp.enableMultipath && !ids.zeroLength }

/-- The bytes that the TLS session sends. -/
def Connection.setTransportParams (tp : TransportParams) (isServer : Bool) : Except Error Bytes :=
  match tp.encode isServer 128 with
  | .error error => .error error
  | .ok (rawParams, len) => .ok (rawParams.take len)

/-! ## How long the parameters are -/

namespace TransportParams

def intLen (value : Nat) : Nat := if value ≠ 0 then 2 + encodeVarintLen value else 0

def idLen : Option ConnectionId → Nat
  | some cid => 2 + cid.bytes.length
  | none => 0

def addressLen : Option PreferredAddress → Nat
  | some address => 2 + address.wireLen
  | none => 0

def serverLen (tp : TransportParams) : Nat :=
  idLen tp.originalDestinationConnectionId + (if tp.statelessResetToken.isSome then 18 else 0) +
    idLen tp.retrySourceConnectionId

def intsLen (tp : TransportParams) : Nat :=
  intLen tp.maxIdleTimeout + intLen tp.maxUdpPayloadSize + intLen tp.initialMaxData +
    intLen tp.initialMaxStreamDataBidiLocal + intLen tp.initialMaxStreamDataBidiRemote +
    intLen tp.initialMaxStreamDataUni + intLen tp.initialMaxStreamsBidi +
    intLen tp.initialMaxStreamsUni + intLen tp.ackDelayExponent + intLen tp.maxAckDelay +
    (if 2 ≤ tp.activeConnIdLimit then 2 + encodeVarintLen tp.activeConnIdLimit else 0)

/-- The numbers of the parameters for multipath and for plain packets are long. -/
def flagsLen (tp : TransportParams) : Nat :=
  (if tp.disableActiveMigration then 2 else 0) + (if tp.enableMultipath then 9 else 0) +
    (if tp.disableEncryption then 5 else 0)

def wireLen (tp : TransportParams) (isServer : Bool) : Nat :=
  (if isServer then tp.serverLen else 0) + idLen tp.initialSourceConnectionId + tp.intsLen +
    addressLen tp.preferredAddress + tp.flagsLen

theorem length_present {id : Nat} (short : id ≤ 63) {val : Bytes} (fits : val.length ≤ 63) :
    (paramImage (id, some val)).length = 2 + val.length := by
  have one : encodeVarintLen id = 1 := if_pos short
  have marked : encodeVarintLen val.length = 1 := if_pos fits
  simp only [paramImage, List.length_append, length_varint, one, marked]
  omega

theorem length_present_int {id : Nat} (short : id ≤ 63) (value : Nat) :
    (paramImage (id, some (varint value))).length = 2 + encodeVarintLen value := by
  have small := encodeVarintLen_le value
  rw [length_present short (by rw [length_varint]; omega), length_varint]

private theorem length_int {id : Nat} (short : id ≤ 63) (value : Nat) :
    (paramImage (id, nonzero value)).length = intLen value := by
  unfold nonzero intLen
  split_ifs
  · exact length_present_int short value
  · rfl

private theorem length_limit (limit : Nat) :
    (paramImage (0x0e, if 2 ≤ limit then some (varint limit) else none)).length =
      if 2 ≤ limit then 2 + encodeVarintLen limit else 0 := by
  split_ifs
  · exact length_present_int (by decide) limit
  · rfl

theorem length_id {id : Nat} (short : id ≤ 63) (cid : Option ConnectionId) :
    (paramImage (id, cid.map (·.bytes))).length = idLen cid := by
  cases cid with
  | none => rfl
  | some cid =>
      have few : cid.bytes.length ≤ 20 := cid.short
      exact length_present short (few.trans (by decide))

private theorem length_token (token : Option (BitVec 128)) :
    (paramImage (0x02, token.map (BigEndian.encode 16 ·.toNat))).length =
      if token.isSome then 18 else 0 := by
  cases token with
  | none => rfl
  | some token =>
      have whole := BigEndian.length_encode 16 token.toNat
      exact (length_present (by decide) (whole.trans_le (by decide))).trans (by rw [whole]; rfl)

private theorem length_address (address : Option PreferredAddress) :
    (paramImage (0x0d, address.map (·.image))).length = addressLen address := by
  cases address with
  | none => rfl
  | some address =>
      have few : address.connectionId.bytes.length ≤ 20 := address.connectionId.short
      have whole := address.length_image
      have fits : address.image.length ≤ 63 := by
        rw [whole, PreferredAddress.wireLen]
        omega
      exact (length_present (by decide) fits).trans (by rw [whole]; rfl)

theorem length_fromServer {id : Nat} (isServer : Bool) (val : Option Bytes) :
    (paramImage (id, fromServer isServer val)).length =
      if isServer then (paramImage (id, val)).length else 0 := by
  cases isServer <;> rfl

theorem length_flag (id : Nat) (set : Bool) :
    (paramImage (id, flag set)).length = if set then encodeVarintLen id + 1 else 0 := by
  cases set with
  | false => rfl
  | true =>
      simp only [paramImage, flag, if_true, List.length_append, length_varint, List.length_nil]
      rfl

theorem length_image (tp : TransportParams) (isServer : Bool) :
    (tp.image isServer).length = tp.wireLen isServer := by
  have migration : encodeVarintLen 0x0c + 1 = 2 := rfl
  have multipath : encodeVarintLen 0x0f739bbc1b666d05 + 1 = 9 := rfl
  have plain : encodeVarintLen 0xbaad + 1 = 5 := rfl
  simp only [image, params, List.flatMap_cons, List.flatMap_nil, List.append_nil,
    List.length_append]
  rw [length_fromServer, length_fromServer, length_fromServer, length_id (by decide), length_token,
    length_address, length_id (by decide), length_id (by decide), length_limit, length_flag,
    length_flag, length_flag, migration, multipath, plain]
  simp (disch := decide) only [length_int]
  unfold wireLen serverLen intsLen flagsLen
  cases isServer with
  | true =>
      simp only [if_true]
      ac_rfl
  | false =>
      simp only [Bool.false_eq_true, if_false, Nat.zero_add]
      ac_rfl

private theorem encode_ok_iff {tp : TransportParams} (encodable : tp.Encodable) {isServer : Bool}
    {room : Nat} : (∃ bytes, tp.encode isServer room = .ok bytes) ↔ tp.wireLen isServer ≤ room := by
  rw [← length_image]
  constructor
  · rintro ⟨bytes, encoded⟩
    by_contra long
    obtain ⟨error, refused⟩ := encode_refused encodable (Nat.lt_of_not_le long)
    rw [refused] at encoded
    cases encoded
  · intro fits
    exact ⟨_, encode_eq encodable fits⟩

end TransportParams

/-! ## When they fit -/

/-- The setters admit only values that can be encoded. -/
theorem Config.Admitted.encodable {config : Config} (admitted : config.Admitted) :
    config.localTransportParams.Encodable := by
  induction admitted with
  | default => constructor <;> decide
  | windows admitted _ ih =>
      have held := admitted.encodable
      exact { ih with
        initialMaxData := held.initialMaxData
        initialMaxStreamDataBidiLocal := held.initialMaxStreamDataBidiLocal
        initialMaxStreamDataBidiRemote := held.initialMaxStreamDataBidiRemote
        initialMaxStreamDataUni := held.initialMaxStreamDataUni }
  | maxIdleTimeout v _ ih => exact { ih with maxIdleTimeout := Nat.min_le_right _ _ }
  | recvUdpPayloadSize v _ ih => exact { ih with maxUdpPayloadSize := Nat.min_le_right _ _ }
  | initialMaxStreamsBidi v _ ih => exact { ih with initialMaxStreamsBidi := Nat.min_le_right _ _ }
  | initialMaxStreamsUni v _ ih => exact { ih with initialMaxStreamsUni := Nat.min_le_right _ _ }
  | ackDelayExponent v _ ih => exact { ih with ackDelayExponent := Nat.min_le_right _ _ }
  | maxAckDelay v _ ih => exact { ih with maxAckDelay := Nat.min_le_right _ _ }
  | activeConnectionIdLimit v _ ih =>
      unfold setActiveConnectionIdLimit
      split_ifs
      · exact { ih with activeConnIdLimit := Nat.min_le_right _ _ }
      · exact ih
  | multipath v _ ih => exact { ih with }
  | encryption v _ ih => exact { ih with }

theorem LocalIds.encodable_apply (ids : LocalIds) {tp : TransportParams} (encodable : tp.Encodable) :
    (ids.apply tp).Encodable :=
  { encodable with }

namespace Connection

theorem setTransportParams_ok_iff {tp : TransportParams} (encodable : tp.Encodable)
    {isServer : Bool} :
    (∃ raw, setTransportParams tp isServer = .ok raw) ↔ tp.wireLen isServer ≤ 128 := by
  rw [← TransportParams.encode_ok_iff encodable]
  unfold setTransportParams
  cases tp.encode isServer 128 with
  | ok encoded => exact ⟨fun _ => ⟨_, rfl⟩, fun _ => ⟨_, rfl⟩⟩
  | error error =>
      constructor
      · rintro ⟨_, ⟨⟩⟩
      · rintro ⟨_, ⟨⟩⟩

/-- What a connection makes of an admitted configuration fits into the buffer if and only if the
parameters that are present take at most 128 bytes: two bytes in front of every value and id, the
values and ids themselves, and what the flags take. -/
theorem transport_params_fit_iff (config : Config) (ids : LocalIds) (isServer : Bool)
    (admitted : config.Admitted) :
    (∃ raw, setTransportParams (ids.apply config.localTransportParams) isServer = .ok raw) ↔
      (ids.apply config.localTransportParams).wireLen isServer ≤ 128 :=
  setTransportParams_ok_iff (ids.encodable_apply admitted.encodable)

def idsAfterRetry (len : Nat) : LocalIds :=
  { originalDestination := some (.new (.replicate 20 1))
    initialSource := some (.new (.replicate len 2))
    retrySource := some (.new (.replicate len 3))
    resetToken := some 4
    zeroLength := false }

theorem transport_params_fit_default :
    ∃ raw, setTransportParams ((idsAfterRetry 8).apply (Config.localTransportParams {})) true =
      .ok raw :=
  (transport_params_fit_iff {} (idsAfterRetry 8) true .default).mpr (by decide)

/-- With ids of full length the default limits are already too much. -/
theorem transport_params_do_not_fit :
    ¬ ∀ (config : Config) (ids : LocalIds) (isServer : Bool), config.Admitted →
      ∃ raw, setTransportParams (ids.apply config.localTransportParams) isServer = .ok raw := by
  intro always
  have fits := always {} (idsAfterRetry 20) true .default
  have encodable := (idsAfterRetry 20).encodable_apply Config.Admitted.default.encodable
  exact absurd ((setTransportParams_ok_iff encodable).mp fits) (by decide)

end Connection

end Tquic
