import Tquic.Connection.RecvBuf
import Tquic.Connection.SendBuf

/-! A stream, after `Stream` of `connection/stream.rs`. The application context is left
out: no modelled function reads it. The bit flags are three fields. -/

set_option autoImplicit false

namespace Tquic.Connection

structure Stream where
  bidi : Bool
  byLocal : Bool
  urgency : Nat
  incremental : Bool
  recv : RecvBuf
  send : SendBuf
  writeThresh : Nat
  wantRead : Bool
  wantWrite : Bool
  closed : Bool

namespace Stream

def new (bidi byLocal : Bool) (maxTxData maxRxData maxWindow : Nat) : Stream :=
  { bidi, byLocal, urgency := 127, incremental := true
    recv := .new maxRxData maxWindow
    send := .new maxTxData
    writeThresh := 1
    wantRead := bidi || !byLocal
    wantWrite := bidi || byLocal
    closed := false }

def isReadable (stream : Stream) : Bool := stream.recv.ready

def isWritable (stream : Stream) : Bool :=
  !stream.send.isFin && !stream.send.isShutdown &&
    stream.send.writeOff + stream.writeThresh ≤ stream.send.maxData

def isSendable (stream : Stream) : Bool := stream.send.ready

def isComplete (stream : Stream) : Bool :=
  match stream.bidi, stream.byLocal with
  | true, _ => stream.send.isComplete && stream.recv.isComplete
  | false, true => stream.send.isComplete
  | false, false => stream.recv.isComplete

def isDraining (stream : Stream) : Bool := stream.recv.isShutdown

def isClosed (stream : Stream) : Bool := stream.closed

def markClosed (stream : Stream) : Stream := { stream with closed := true }

def markWantwrite (stream : Stream) (flag : Bool) : Except Error Stream :=
  if !stream.bidi && !stream.byLocal then .error .internalError
  else .ok { stream with wantWrite := flag }

def markWantread (stream : Stream) (flag : Bool) : Except Error Stream :=
  if !stream.bidi && stream.byLocal then .error .internalError
  else .ok { stream with wantRead := flag }

end Stream

end Tquic.Connection
