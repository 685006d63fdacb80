import Tquic.Basic
import Tquic.Lib.OrdMap
import Mathlib.Data.Finset.Basic

/-! The connections of an endpoint, its queues of tickable and sendable connections and the
loops that serve them, after `endpoint.rs`. What a connection does is a parameter. The routing
tables are left out: the connection that a datagram belongs to is given with it. -/

set_option autoImplicit false

namespace Tquic

open Lib

/-- What a call leaves of a connection, and whether it marked itself tickable. -/
structure Reaction (σ : Type) where
  state : σ
  ticks : Bool

/-- What the endpoint uses of a connection, with the callbacks of the application. -/
structure Behaviour (σ : Type) where
  isClosed : σ → Bool
  isDraining : σ → Bool
  isReady : σ → Bool
  timeout : σ → Option Duration
  onCreated : σ → Reaction σ
  recv : σ → Bytes → Except Error Unit × Reaction σ
  reset : σ → Reaction σ
  onTimeout : σ → Instant → Reaction σ
  /-- The events and streams that `process_connection` handles. -/
  process : σ → Reaction σ
  /-- The callbacks for a connection that is removed. -/
  cleanUp : σ → Reaction σ
  /-- The length of the datagram that `send` wrote. -/
  send : σ → Except Error Nat × σ

/-- A connection with its flags `Tickable` and `Sendable`. -/
structure Conn (σ : Type) where
  state : σ
  tickable : Bool
  sendable : Bool

structure Endpoint (σ : Type) where
  isServer : Bool
  maxConcurrentConns : Nat
  batchSize : Nat
  conns : OrdMap Nat (Conn σ)
  nextIndex : Nat
  timers : OrdMap Nat Instant
  tickable : Finset Nat
  sendable : Finset Nat
  /-- The number of packets that wait to be sent. -/
  packets : Nat
  closed : Bool

namespace Endpoint

variable {σ : Type}

def new (isServer : Bool) (maxConcurrentConns batchSize : Nat) : Endpoint σ :=
  { isServer
    maxConcurrentConns
    batchSize
    conns := ∅
    nextIndex := 0
    timers := ∅
    tickable := ∅
    sendable := ∅
    packets := 0
    closed := false }

/-! ## Connections and queues -/

def store (endpoint : Endpoint σ) (idx : Nat) (conn : Conn σ) : Endpoint σ :=
  { endpoint with conns := endpoint.conns.insert idx conn }

/-- `mark_tickable` of the connection with the given index. -/
def markTickable (endpoint : Endpoint σ) (idx : Nat) (tickable : Bool) : Endpoint σ :=
  match endpoint.conns.get? idx with
  | none => endpoint
  | some conn =>
      if tickable = conn.tickable then endpoint
      else
        { endpoint.store idx { conn with tickable } with
          tickable :=
            if tickable then insert idx endpoint.tickable else endpoint.tickable.erase idx }

/-- `mark_sendable` of the connection with the given index. -/
def markSendable (endpoint : Endpoint σ) (idx : Nat) (sendable : Bool) : Endpoint σ :=
  match endpoint.conns.get? idx with
  | none => endpoint
  | some conn =>
      if sendable = conn.sendable then endpoint
      else
        { endpoint.store idx { conn with sendable } with
          sendable :=
            if sendable then insert idx endpoint.sendable else endpoint.sendable.erase idx }

def react (endpoint : Endpoint σ) (idx : Nat) (conn : Conn σ) (reaction : Reaction σ) :
    Endpoint σ :=
  let stored := endpoint.store idx { conn with state := reaction.state }
  if reaction.ticks then stored.markTickable idx true else stored

def insertConn (endpoint : Endpoint σ) (state : σ) : Nat × Endpoint σ :=
  let idx := endpoint.nextIndex
  (idx, { endpoint.store idx { state, tickable := false, sendable := false } with
    nextIndex := idx + 1 })

def updateTimer (behaviour : Behaviour σ) (endpoint : Endpoint σ) (idx : Nat) (now : Instant) :
    Endpoint σ :=
  match endpoint.conns.get? idx with
  | none => endpoint
  | some conn =>
      match behaviour.timeout conn.state with
      | none => { endpoint with timers := endpoint.timers.erase idx }
      | some duration => { endpoint with timers := endpoint.timers.insert idx (now + duration) }

/-! ## Calls of the application -/

/-- Create a client connection. `configured` is what the session, the token and the start of
the handshake make of it. -/
def connect (behaviour : Behaviour σ) (endpoint : Endpoint σ) (state : σ)
    (configured : Except Error σ) : Endpoint σ :=
  if endpoint.isServer || endpoint.closed then endpoint
  else
    let (idx, inserted) := endpoint.insertConn state
    match configured with
    | .error _ => inserted
    | .ok state =>
        let conn := { state, tickable := false, sendable := false }
        (inserted.react idx conn (behaviour.onCreated state)).markTickable idx true

def deliver (behaviour : Behaviour σ) (endpoint : Endpoint σ) (idx : Nat) (buf : Bytes) :
    Except Error Unit × Endpoint σ :=
  match endpoint.conns.get? idx with
  | none => (.ok (), endpoint)
  | some conn =>
      let (result, reaction) := behaviour.recv conn.state buf
      (result, endpoint.react idx conn reaction)

/-- Deliver the buffered 0-RTT packets of a new connection, up to the first error. -/
def deliverAll (behaviour : Behaviour σ) (idx : Nat) : List Bytes → Endpoint σ → Endpoint σ
  | [], endpoint => endpoint
  | buf :: rest, endpoint =>
      match endpoint.deliver behaviour idx buf with
      | (.error _, failed) => failed
      | (.ok (), delivered) => deliverAll behaviour idx rest delivered

/-- What a datagram without a connection leads to. -/
inductive Unmatched (σ : Type) where
  | ignored
  /-- The endpoint answers with a Version Negotiation, Retry or Stateless Reset packet. -/
  | answered
  /-- An Initial packet creates a connection; `buffered` are its early 0-RTT packets. -/
  | created (state : σ) (buffered : List Bytes)

/-- A datagram for the connection with index `target`, if the routes know one. -/
def recv (behaviour : Behaviour σ) (endpoint : Endpoint σ) (target : Option Nat) (reset : Bool)
    (buf : Bytes) (unmatched : Unmatched σ) : Endpoint σ :=
  match target.bind (fun idx => (endpoint.conns.get? idx).map (idx, ·)) with
  | some (idx, _) =>
      let marked := endpoint.markTickable idx true
      if reset then
        match marked.conns.get? idx with
        | none => marked
        | some conn => marked.react idx conn (behaviour.reset conn.state)
      else (marked.deliver behaviour idx buf).2
  | none =>
      match unmatched with
      | .ignored => endpoint
      | .answered => { endpoint with packets := endpoint.packets + 1 }
      | .created state buffered =>
          if !endpoint.isServer || endpoint.closed ||
              endpoint.conns.size ≥ endpoint.maxConcurrentConns then endpoint
          else
            let (idx, inserted) := endpoint.insertConn state
            let conn := { state, tickable := false, sendable := false }
            let announced :=
              (inserted.react idx conn (behaviour.onCreated state)).markTickable idx true
            match announced.deliver behaviour idx buf with
            | (.error _, failed) => failed
            | (.ok (), delivered) => deliverAll behaviour idx buffered delivered

def expire (behaviour : Behaviour σ) (now : Instant) (endpoint : Endpoint σ) (idx : Nat) :
    Endpoint σ :=
  let popped := { endpoint with timers := endpoint.timers.erase idx }
  let marked := popped.markTickable idx true
  match marked.conns.get? idx with
  | none => marked
  | some conn => marked.react idx conn (behaviour.onTimeout conn.state now)

/-- Every expired timer is taken once: no callback adds one. -/
def onTimeout (behaviour : Behaviour σ) (endpoint : Endpoint σ) (now : Instant) : Endpoint σ :=
  ((endpoint.timers.entries.filter (fun entry => entry.2 ≤ now)).map (·.1)).foldl
    (expire behaviour now) endpoint

def callConn (endpoint : Endpoint σ) (idx : Nat) (reaction : Reaction σ) : Endpoint σ :=
  match endpoint.conns.get? idx with
  | none => endpoint
  | some conn => endpoint.react idx conn reaction

/-- Run the callbacks of `close` on the connections. -/
def closeConns (behaviour : Behaviour σ) : List Nat → Endpoint σ → Endpoint σ
  | [], endpoint => endpoint
  | idx :: rest, endpoint =>
      match endpoint.conns.get? idx with
      | none => closeConns behaviour rest endpoint
      | some conn =>
          closeConns behaviour rest (endpoint.react idx conn (behaviour.cleanUp conn.state))

def close (behaviour : Behaviour σ) (endpoint : Endpoint σ) (force : Bool) : Endpoint σ :=
  let shut := { endpoint with closed := true }
  if !force then shut
  else
    { closeConns behaviour (shut.conns.entries.map (·.1)) shut with timers := ∅, conns := ∅ }

/-! ## The loop over the tickable connections -/

/-- The loop of `process_connections` keeps the connections that are still ready. -/
structure Ticking (σ : Type) where
  endpoint : Endpoint σ
  ready : List Nat

/-- `process_connection`; `false` if the connection is closed. -/
def processConnection (behaviour : Behaviour σ) (now : Instant) (ticking : Ticking σ) (idx : Nat) :
    Bool × Ticking σ :=
  match ticking.endpoint.conns.get? idx with
  | none => (true, ticking)
  | some conn =>
      if behaviour.isClosed conn.state then (false, ticking)
      else
        let reaction := behaviour.process conn.state
        let handled := ticking.endpoint.react idx conn reaction
        if behaviour.isClosed reaction.state then (false, { ticking with endpoint := handled })
        else
          let timed := (handled.markSendable idx true).updateTimer behaviour idx now
          (true,
            { endpoint := timed.markTickable idx false
              ready := if behaviour.isReady reaction.state then ticking.ready ++ [idx]
                else ticking.ready })

def removeConn (behaviour : Behaviour σ) (endpoint : Endpoint σ) (idx : Nat) : Endpoint σ :=
  match endpoint.conns.get? idx with
  | none => endpoint
  | some conn =>
      let notified := endpoint.react idx conn (behaviour.cleanUp conn.state)
      let unmarked := (notified.markTickable idx false).markSendable idx false
      { unmarked with timers := unmarked.timers.erase idx, conns := unmarked.conns.erase idx }

/-- One iteration for the index that `tickable_next` gives. -/
def tickIteration (behaviour : Behaviour σ) (now : Instant) (ticking : Ticking σ) (idx : Nat) :
    Ticking σ :=
  match processConnection behaviour now ticking idx with
  | (true, processed) => processed
  | (false, processed) =>
      { processed with endpoint := processed.endpoint.removeConn behaviour idx }

/-- Iterations for the given indices. The queue is a hash set: any member may come next. -/
def runTicks (behaviour : Behaviour σ) (now : Instant) : List Nat → Ticking σ → Option (Ticking σ)
  | [], ticking => some ticking
  | idx :: rest, ticking =>
      if idx ∈ ticking.endpoint.tickable then
        runTicks behaviour now rest (tickIteration behaviour now ticking idx)
      else none

/-! ## The loop over the sendable connections -/

/-- The loop of `send_packets_out` keeps the connections that tried to send. -/
structure Sending (σ : Type) where
  endpoint : Endpoint σ
  sent : List Nat

/-- Hand a full batch to the sender, which answers with `handed`. -/
def sendBatch (sending : Sending σ) (handed : Except Error Nat) : Except Error Unit × Sending σ :=
  let endpoint := sending.endpoint
  if endpoint.packets ≥ endpoint.batchSize then
    match handed with
    | .error error => (.error error, sending)
    | .ok done =>
        (.ok (), { sending with endpoint := { endpoint with
          packets := endpoint.packets - min done endpoint.packets } })
  else (.ok (), sending)

/-- One iteration for the index that `sendable_next` gives. An error leaves the loop. -/
def sendIteration (behaviour : Behaviour σ) (sending : Sending σ) (idx : Nat)
    (handed : Except Error Nat) : Except Error Unit × Sending σ :=
  let endpoint := sending.endpoint
  match endpoint.conns.get? idx with
  | none => sendBatch sending handed
  | some conn =>
      if behaviour.isDraining conn.state || behaviour.isClosed conn.state then
        (.ok (), { sending with endpoint := endpoint.markSendable idx false })
      else
        match behaviour.send conn.state with
        | (.ok _, state) =>
            let stored := endpoint.store idx { conn with state }
            sendBatch
              { endpoint := { stored with packets := stored.packets + 1 }
                sent := sending.sent.insert idx } handed
        | (.error .done, state) =>
            let stored := endpoint.store idx { conn with state }
            sendBatch
              { endpoint := stored.markSendable idx false, sent := sending.sent.insert idx } handed
        | (.error error, state) =>
            (.error error, { sending with endpoint := endpoint.store idx { conn with state } })

/-- Iterations for the given indices, each with the answer of the sender to a full batch. -/
def runSends (behaviour : Behaviour σ) :
    List (Nat × Except Error Nat) → Sending σ → Option (Except Error Unit × Sending σ)
  | [], sending => some (.ok (), sending)
  | (idx, handed) :: rest, sending =>
      if idx ∈ sending.endpoint.sendable then
        match sendIteration behaviour sending idx handed with
        | (.ok (), next) => runSends behaviour rest next
        | (.error error, next) => if rest.isEmpty then some (.error error, next) else none
      else none

/-- The loop that sends the remaining packets; `handed` gives the answers of the sender. Each
round but the last takes a packet, so the number of packets bounds the rounds. -/
def flush (handed : Nat → Except Error Nat) : Nat → Nat → Nat → Except Error Unit × Nat
  | 0, _, packets => (.ok (), packets)
  | fuel + 1, turn, packets =>
      if packets = 0 then (.ok (), 0)
      else
        match handed turn with
        | .error error => (.error error, packets)
        | .ok done =>
            if done = 0 then (.ok (), packets)
            else flush handed fuel (turn + 1) (packets - min done packets)

/-- The choices that the hash sets and the sender make in a call of `process_connections`. -/
structure Schedule where
  ticks : List Nat
  sends : List (Nat × Except Error Nat)
  flushed : Nat → Except Error Nat
  now : Instant

/-- The end of `send_packets_out`. -/
def finishSending (behaviour : Behaviour σ) (sending : Sending σ) (schedule : Schedule) :
    Except Error Unit × Endpoint σ :=
  let timed := sending.sent.foldl
    (fun endpoint idx => endpoint.updateTimer behaviour idx schedule.now) sending.endpoint
  let (result, packets) := flush schedule.flushed timed.packets 0 timed.packets
  (result, { timed with packets })

/-- `process_connections`. The loops end when their queues are empty, so a schedule that is
not complete is refused. -/
def processConnections (behaviour : Behaviour σ) (endpoint : Endpoint σ) (schedule : Schedule) :
    Option (Endpoint σ) :=
  match runTicks behaviour schedule.now schedule.ticks { endpoint, ready := [] } with
  | none => none
  | some ticking =>
      if ticking.endpoint.tickable ≠ ∅ then none
      else
        match runSends behaviour schedule.sends { endpoint := ticking.endpoint, sent := [] } with
        | none => none
        | some (.error _, sending) => some sending.endpoint
        | some (.ok (), sending) =>
            if sending.endpoint.sendable ≠ ∅ then none
            else
              match finishSending behaviour sending schedule with
              | (.error _, finished) => some finished
              | (.ok (), finished) =>
                  some (ticking.ready.foldl (fun endpoint idx => endpoint.markTickable idx true)
                    finished)

/-! ## Steps -/

inductive Op (σ : Type) where
  | connect (state : σ) (configured : Except Error σ)
  | recv (target : Option Nat) (reset : Bool) (buf : Bytes) (unmatched : Unmatched σ)
  | onTimeout (now : Instant)
  | processConnections (schedule : Schedule)
  | callConn (idx : Nat) (reaction : Reaction σ)
  | close (force : Bool)

def step (behaviour : Behaviour σ) (endpoint : Endpoint σ) : Op σ → Option (Endpoint σ)
  | .connect state configured => some (endpoint.connect behaviour state configured)
  | .recv target reset buf unmatched => some (endpoint.recv behaviour target reset buf unmatched)
  | .onTimeout now => some (endpoint.onTimeout behaviour now)
  | .processConnections schedule => endpoint.processConnections behaviour schedule
  | .callConn idx reaction => some (endpoint.callConn idx reaction)
  | .close force => some (endpoint.close behaviour force)

end Endpoint

end Tquic
