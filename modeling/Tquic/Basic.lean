import Mathlib.Algebra.Group.Nat.Defs
import Mathlib.Data.Nat.Basic

/-! Vocabulary shared by the connection modules. Offsets, sizes and identifiers
are natural numbers: the code keeps them below `2^62` by decoding them from
variable-length integers, so its 64-bit additions do not wrap. -/

set_option autoImplicit false

namespace Tquic

abbrev Bytes := List UInt8

/-- A point in time, in nanoseconds from an arbitrary origin. -/
abbrev Instant := Int

abbrev Duration := Nat

/-- `Duration::MAX`: `2^64 - 1` seconds and 999999999 nanoseconds. -/
def durationMax : Duration := 2 ^ 64 * 1000000000 - 1

def saturatingDurationSince (later earlier : Instant) : Duration := (later - earlier).toNat

/-- The errors the modelled functions return. -/
inductive Error where
  | done
  | internalError
  | protocolViolation
  | frameEncodingError
  | flowControlError
  | finalSizeError
  | streamStateError
  | streamLimitError
  | streamStopped (errorCode : Nat)
  | streamReset (errorCode : Nat)
  | connectionIdLimitError
  | transportParameterError
  | bufferTooShort
  | invalidPacket
  | invalidToken
  | expiredToken
  | tlsFail
  | invalidState
  /-- The code panics: an `unwrap` or `unreachable!` that is reached. -/
  | panic
  deriving DecidableEq, Repr

inductive Shutdown where
  | read
  | write
  deriving DecidableEq, Repr

def maxCidLen : Nat := 20

/-- A connection id: at most `maxCidLen` bytes. -/
structure ConnectionId where
  bytes : Bytes
  short : bytes.length ≤ maxCidLen
  deriving DecidableEq

/-- Longer slices are cut. -/
def ConnectionId.new (bytes : Bytes) : ConnectionId :=
  ⟨bytes.take maxCidLen, List.length_take_le maxCidLen bytes⟩

theorem ConnectionId.new_bytes (cid : ConnectionId) : ConnectionId.new cid.bytes = cid := by
  have whole : cid.bytes.take maxCidLen = cid.bytes := List.take_of_length_le cid.short
  cases cid with
  | mk bytes short => simp only [ConnectionId.new, ConnectionId.mk.injEq]; exact whole

def ConnectionId.isEmpty (cid : ConnectionId) : Bool := cid.bytes.isEmpty

inductive IpAddr where
  | v4 (octets : Vector UInt8 4)
  | v6 (octets : Vector UInt8 16)
  deriving DecidableEq

structure SocketAddr where
  ip : IpAddr
  port : UInt16
  deriving DecidableEq

def SocketAddr.localhost (port : UInt16) : SocketAddr := { ip := .v4 #v[127, 0, 0, 1], port }

abbrev ResetToken := BitVec 128

/-- Largest value of a variable-length integer. -/
def vintMax : Nat := 4611686018427387903

def maxStreamsPerType : Nat := 1 <<< 60

end Tquic
