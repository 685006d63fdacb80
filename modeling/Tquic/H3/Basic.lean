import Tquic.Codec

/-! The errors of HTTP/3 and the codec under them, after `h3/error.rs`. -/

set_option autoImplicit false

namespace Tquic.H3

open Lib

inductive Http3Error where
  | noError
  | generalProtocolError
  | internalError
  | streamCreationError
  | closedCriticalStream
  | frameUnexpected
  | frameError
  | excessiveLoad
  | idError
  | settingsError
  | missingSettings
  | requestRejected
  | requestCancelled
  | requestIncomplete
  | messageError
  | connectError
  | versionFallback
  | qpackDecompressionFailed
  | qpackEncoderStreamError
  | qpackDecoderStreamError
  | transportError (error : Error)
  | streamBlocked
  | done
  /-- The code panics: an `unwrap` or `unreachable!` that is reached, or a subtraction below
  zero. -/
  | panic
  deriving DecidableEq, Repr

/-- The conversion behind the operator `?`. A panic stays one. -/
def Http3Error.ofError : Error → Http3Error
  | .done => .done
  | .panic => .panic
  | error => .transportError error

abbrev Http3Decoder (α : Type) := Reader UInt8 Http3Error α

abbrev Http3Encoder (α : Type) := Writer UInt8 Http3Error α

namespace Http3Decoder

def read (len : Nat) : Http3Decoder Bytes := mapError Http3Error.ofError (Decoder.read len)

def readU8 : Http3Decoder Nat := mapError Http3Error.ofError Decoder.readU8

def readVarint : Http3Decoder Nat := mapError Http3Error.ofError Decoder.readVarint

end Http3Decoder

namespace Http3Encoder

def write (src : Bytes) : Http3Encoder Unit := mapError Http3Error.ofError (Encoder.write src)

def writeU8 (value : Nat) : Http3Encoder Unit := mapError Http3Error.ofError (Encoder.writeU8 value)

def writeVarint (value : Nat) : Http3Encoder Unit :=
  mapError Http3Error.ofError (Encoder.writeVarint value)

end Http3Encoder

theorem reads_bytes (bytes : Bytes) : Reads (Http3Decoder.read bytes.length) bytes bytes :=
  (Tquic.reads_bytes bytes).mapError Http3Error.ofError

theorem reads_varint {value : Nat} (small : value ≤ vintMax) :
    Reads Http3Decoder.readVarint (varint value) value :=
  (Tquic.reads_varint small).mapError Http3Error.ofError

theorem reads_u8 {value : Nat} (small : value < 256) :
    Reads Http3Decoder.readU8 [UInt8.ofNat value] value :=
  (@Tquic.reads_uint 1 value small).mapError Http3Error.ofError

theorem writes_u8 (value : Nat) : Writes (Http3Encoder.writeU8 value) [UInt8.ofNat value] () :=
  (Tquic.writes_uint 1 value).mapError Http3Error.ofError

theorem writes_bytes (bytes : Bytes) : Writes (Http3Encoder.write bytes) bytes () :=
  (Tquic.writes_bytes bytes).mapError Http3Error.ofError

theorem writes_varint {value : Nat} (small : value ≤ vintMax) :
    Writes (Http3Encoder.writeVarint value) (varint value) () :=
  (Tquic.writes_varint small).mapError Http3Error.ofError

end Tquic.H3
