import Tquic.Connection.StreamMapOperations
import Tquic.H3.Basic
import Tquic.Lib.Stateful

/-! What HTTP/3 uses of a transport connection: its streams and the errors that close it, after
`connection/connection.rs`. -/

set_option autoImplicit false

namespace Tquic.H3

open Lib Connection

/-- The codes on the wire. No code stands for a panic. -/
def Http3Error.toWire : Http3Error → Nat
  | .noError => 0x100
  | .generalProtocolError => 0x101
  | .internalError => 0x102
  | .streamCreationError => 0x103
  | .closedCriticalStream => 0x104
  | .frameUnexpected => 0x105
  | .frameError => 0x106
  | .excessiveLoad => 0x107
  | .idError => 0x108
  | .settingsError => 0x109
  | .missingSettings => 0x10A
  | .requestRejected => 0x10B
  | .requestCancelled => 0x10C
  | .requestIncomplete => 0x10D
  | .messageError => 0x10E
  | .connectError => 0x10F
  | .versionFallback => 0x110
  | .qpackDecompressionFailed => 0x200
  | .qpackEncoderStreamError => 0x201
  | .qpackDecoderStreamError => 0x202
  | .transportError _ => 0x102
  | .streamBlocked => 0x102
  | .done => 0x102
  | .panic => 0x102

structure ConnectionError where
  isApp : Bool
  errorCode : Nat
  reason : String
  deriving DecidableEq

structure Written where
  streamId : Nat
  bytes : Bytes
  fin : Bool
  deriving DecidableEq

structure QuicConn where
  streams : StreamMap
  localError : Option ConnectionError
  isClosed : Bool
  isDraining : Bool
  -- History: what the streams took, the newest last. No function reads it.
  accepted : List Written

namespace QuicConn

def onStreams {α : Type} (steps : StreamMap → Except Error α × StreamMap) :
    Stateful QuicConn Error α :=
  Stateful.zoom QuicConn.streams (fun streams conn => { conn with streams }) steps

def streamRead (streamId outLen : Nat) : Stateful QuicConn Error (Bytes × Bool) :=
  onStreams (·.streamRead streamId outLen)

def streamWrite (streamId : Nat) (buf : Bytes) (fin : Bool) : Stateful QuicConn Error Nat := do
  let written ← onStreams (·.streamWrite streamId buf fin)
  modify fun conn =>
    { conn with
      accepted := conn.accepted ++
        [{ streamId, bytes := buf.take written, fin := fin && written == buf.length }] }
  return written

def streamNew (streamId urgency : Nat) (incremental : Bool) : Stateful QuicConn Error Unit :=
  onStreams (·.streamSetPriority streamId urgency incremental)

def streamSetPriority (streamId urgency : Nat) (incremental : Bool) :
    Stateful QuicConn Error Unit :=
  onStreams (·.streamSetPriority streamId urgency incremental)

def streamShutdown (streamId : Nat) (direction : Shutdown) (err : Nat) :
    Stateful QuicConn Error Unit :=
  onStreams (·.streamShutdown streamId direction err)

def streamWantWrite (streamId : Nat) (want : Bool) : Stateful QuicConn Error Unit :=
  onStreams (·.wantWrite streamId want)

def streamWritable (streamId len : Nat) : Stateful QuicConn Error Bool :=
  onStreams (·.streamWritable streamId len)

def streamCapacity (conn : QuicConn) (streamId : Nat) : Except Error Nat :=
  conn.streams.streamCapacity streamId

def streamReadable (conn : QuicConn) (streamId : Nat) : Bool :=
  match conn.streams.get streamId with
  | some stream => stream.isReadable
  | none => false

/-- The final size is known and everything was read. -/
def streamFinished (conn : QuicConn) (streamId : Nat) : Bool :=
  match conn.streams.get streamId with
  | some stream => stream.recv.isFin
  | none => true

/-- What is there to be read of a stream; a chunk counts as one more than its bytes. -/
def unread (conn : QuicConn) (streamId : Nat) : Nat :=
  match conn.streams.get streamId with
  | none => 0
  | some stream => stream.recv.data.total fun entry => entry.2.len + 1

def close (app : Bool) (err : Nat) (reason : String) : Stateful QuicConn Error Unit := do
  let conn ← get
  if conn.isClosed || conn.isDraining then throw .done
  else if conn.localError.isSome then throw .done
  else set { conn with localError := some { isApp := app, errorCode := err, reason } }

end QuicConn

/-- Steps of HTTP/3 on something of its own and on the connection under it. -/
abbrev Http3M (σ α : Type) : Type := Stateful (σ × QuicConn) Http3Error α

variable {σ α : Type}

def call (steps : Stateful QuicConn Error α) : Http3M σ α :=
  Stateful.zoom Prod.snd (fun conn state => (state.1, conn)) (steps.withErrors Http3Error.ofError)

/-- Close the connection with an error and return it. The result is `Done` where the connection
is closed already. A panic is not an error that could be reported. -/
def closeWith (error : Http3Error) (reason : String) : Http3M σ α := do
  if error = .panic then throw .panic
  else
    call (QuicConn.close true error.toWire reason)
    throw error

end Tquic.H3
