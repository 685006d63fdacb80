import Tquic.Connection.Path
import Tquic.Connection.Rtt
import Tquic.Lib.Transition

/-! The idle timer of a connection, after `timer.rs` and the ends of `recv_packet` and
`send_packet` in `connection.rs`. It is restarted by every packet that is processed, and by
the first ack-eliciting packet that is sent afterwards. -/

set_option autoImplicit false

namespace Tquic.Connection

open Lib

inductive Timer where
  | lossDetection
  | ack
  | pacer
  | idle
  | handshake
  | draining
  | keyDiscard
  | keepAlive
  | pathChallenge
  deriving DecidableEq, Repr

structure TimerTable where
  expires : Timer → Option Instant

namespace TimerTable

def default : TimerTable := ⟨fun _ => none⟩

def set (timers : TimerTable) (timer : Timer) (time : Instant) : TimerTable :=
  ⟨fun other => if other = timer then some time else timers.expires other⟩

def get (timers : TimerTable) (timer : Timer) : Option Instant := timers.expires timer

def stop (timers : TimerTable) (timer : Timer) : TimerTable :=
  ⟨fun other => if other = timer then none else timers.expires other⟩

def isExpired (timers : TimerTable) (timer : Timer) (after : Instant) : Bool :=
  (timers.get timer).any (· ≤ after)

end TimerTable

/-- What the idle timer depends on. Times of transport parameters are in milliseconds. -/
structure IdleConn where
  timers : TimerTable
  sentAckElicitingSinceRecvPkt : Bool
  closing : Bool
  closed : Bool
  localMaxIdleTimeout : Nat
  peerMaxIdleTimeout : Nat
  -- The estimator of the active path.
  activeRtt : Option RttEstimator
  -- History: an ack-eliciting packet was sent since a packet was last processed. No
  -- function reads it.
  elicitedSinceRecv : Bool
  -- History: an ack-eliciting packet was ever sent.
  elicited : Bool

namespace IdleConn

def new (localMaxIdleTimeout : Nat) (activeRtt : Option RttEstimator) : IdleConn :=
  { timers := .default
    sentAckElicitingSinceRecvPkt := false
    closing := false
    closed := false
    localMaxIdleTimeout
    peerMaxIdleTimeout := 0
    activeRtt
    elicitedSinceRecv := false
    elicited := false }

def isDraining (conn : IdleConn) : Bool := (conn.timers.get .draining).isSome

/-- The minimum of the two advertised values, but at least three times the PTO. -/
def idleTimeout (conn : IdleConn) : Option Duration :=
  if conn.localMaxIdleTimeout = 0 ∧ conn.peerMaxIdleTimeout = 0 then none
  else
    let advertised :=
      if conn.localMaxIdleTimeout = 0 then conn.peerMaxIdleTimeout
      else if conn.peerMaxIdleTimeout = 0 then conn.localMaxIdleTimeout
      else min conn.localMaxIdleTimeout conn.peerMaxIdleTimeout
    let pathPto := (conn.activeRtt.map (·.ptoBase)).getD 0
    some (max (millis advertised) (3 * pathPto))

def restartIdle (conn : IdleConn) (now : Instant) : IdleConn :=
  match conn.idleTimeout with
  | none => conn
  | some idleTimeout => { conn with timers := conn.timers.set .idle (now + idleTimeout) }

/-- The end of `recv_packet` for a packet whose frames were processed. -/
def recvPacket (conn : IdleConn) (now : Instant) : IdleConn :=
  { conn.restartIdle now with elicitedSinceRecv := false }

/-- Version Negotiation and Retry packets are processed without a look at the timer. -/
def recvWithoutFrames (conn : IdleConn) : IdleConn := { conn with elicitedSinceRecv := false }

/-- The end of `send_packet`. -/
def sendPacket (conn : IdleConn) (now : Instant) (ackEliciting : Bool) : IdleConn :=
  let restarted :=
    if ackEliciting && !conn.sentAckElicitingSinceRecvPkt then conn.restartIdle now else conn
  if ackEliciting then
    { restarted with
      sentAckElicitingSinceRecvPkt := true, elicitedSinceRecv := true, elicited := true }
  else restarted

/-- The handlers of the other timers are left out: none of them sets the idle timer. -/
def onTimer (conn : IdleConn) (now : Instant) (timer : Timer) : IdleConn :=
  if conn.timers.isExpired timer now then
    let stopped := { conn with timers := conn.timers.stop timer }
    match timer with
    | .idle | .draining | .handshake => { stopped with closed := true }
    | _ => stopped
  else conn

def onTimeout (conn : IdleConn) (now : Instant) : IdleConn :=
  [.lossDetection, .ack, .pacer, .idle, .handshake, .draining, .keyDiscard, .keepAlive,
    .pathChallenge].foldl (fun conn timer => conn.onTimer now timer) conn

/-! ## Steps -/

inductive Op where
  | recvPacket (now : Instant)
  | recvWithoutFrames
  | sendPacket (now : Instant) (ackEliciting : Bool)
  | onTimeout (now : Instant)
  /-- The transport parameters of the peer. -/
  | peerParams (maxIdleTimeout : Nat)
  /-- Another path becomes active or a round-trip time is measured. -/
  | measure (activeRtt : Option RttEstimator)
  | setTimer (timer : Timer) (time : Instant)
  | stopTimer (timer : Timer)
  | close
  deriving DecidableEq

def step (conn : IdleConn) : Op → Option IdleConn
  | .recvPacket now =>
    if conn.closing || conn.isDraining || conn.closed then none else some (conn.recvPacket now)
  | .recvWithoutFrames =>
    if conn.closing || conn.isDraining || conn.closed then none else some conn.recvWithoutFrames
  | .sendPacket now ackEliciting =>
    if conn.isDraining || conn.closed then none else some (conn.sendPacket now ackEliciting)
  | .onTimeout now => some (conn.onTimeout now)
  | .peerParams peerMaxIdleTimeout => some { conn with peerMaxIdleTimeout }
  | .measure activeRtt => some { conn with activeRtt }
  | .setTimer timer time =>
    if timer = .idle then none else some { conn with timers := conn.timers.set timer time }
  | .stopTimer timer =>
    if timer = .idle then none else some { conn with timers := conn.timers.stop timer }
  | .close => some { conn with closing := true }

/-- The idle timer runs from `now` on, if there is one. -/
def Restarted (conn : IdleConn) (now : Instant) : Prop :=
  ∀ idleTimeout : Duration, conn.idleTimeout = some idleTimeout →
    conn.timers.get .idle = some (now + idleTimeout)

private theorem restartIdle_restarted (conn : IdleConn) (now : Instant) :
    (conn.restartIdle now).Restarted now := by
  unfold restartIdle
  cases timeout : conn.idleTimeout with
  | none =>
    intro idleTimeout found
    rw [timeout] at found
    cases found
  | some idleTimeout =>
    intro later found
    have same : conn.idleTimeout = some later := found
    rw [timeout] at same
    cases same
    rfl

private theorem sendPacket_restarted_iff (conn : IdleConn) (now : Instant) :
    (conn.sendPacket now true).Restarted now ↔
      conn.sentAckElicitingSinceRecvPkt = false ∨ conn.Restarted now := by
  unfold sendPacket
  rw [if_pos rfl, Bool.true_and]
  cases before : conn.sentAckElicitingSinceRecvPkt with
  | false => exact iff_of_true (conn.restartIdle_restarted now) (.inl rfl)
  | true => exact ⟨.inr, fun either => either.resolve_left (by decide)⟩

/-! ## Runs -/

/-- The flag is never taken back: it tells whether an ack-eliciting packet was ever sent. -/
def Recorded (conn : IdleConn) : Prop := conn.sentAckElicitingSinceRecvPkt = conn.elicited

private theorem onTimer_flags (conn : IdleConn) (now : Instant) (timer : Timer) :
    (conn.onTimer now timer).sentAckElicitingSinceRecvPkt = conn.sentAckElicitingSinceRecvPkt ∧
      (conn.onTimer now timer).elicited = conn.elicited := by
  unfold onTimer
  split
  · cases timer <;> exact ⟨rfl, rfl⟩
  · exact ⟨rfl, rfl⟩

private theorem onTimeout_recorded {conn : IdleConn} (recorded : conn.Recorded) (now : Instant) :
    (conn.onTimeout now).Recorded := by
  unfold onTimeout
  generalize [Timer.lossDetection, Timer.ack, Timer.pacer, Timer.idle, Timer.handshake,
    Timer.draining, Timer.keyDiscard, Timer.keepAlive, Timer.pathChallenge] = order
  induction order generalizing conn with
  | nil => exact recorded
  | cons timer rest ih =>
    obtain ⟨flag, elicited⟩ := conn.onTimer_flags now timer
    exact ih (by rw [Recorded, flag, elicited]; exact recorded)

theorem restartIdle_flags (conn : IdleConn) (now : Instant) :
    (conn.restartIdle now).sentAckElicitingSinceRecvPkt = conn.sentAckElicitingSinceRecvPkt ∧
      (conn.restartIdle now).elicited = conn.elicited := by
  unfold restartIdle
  split <;> exact ⟨rfl, rfl⟩

theorem step_recorded {conn next : IdleConn} {op : Op} (recorded : conn.Recorded)
    (stepped : conn.step op = some next) : next.Recorded := by
  cases op with
  | sendPacket now ackEliciting =>
    dsimp only [step] at stepped
    split_ifs at stepped
    cases stepped
    obtain ⟨flag, elicited⟩ := conn.restartIdle_flags now
    unfold sendPacket
    cases ackEliciting with
    | true => rfl
    | false => exact recorded
  | recvPacket now =>
    dsimp only [step] at stepped
    split_ifs at stepped
    cases stepped
    obtain ⟨flag, elicited⟩ := conn.restartIdle_flags now
    exact flag.trans (recorded.trans elicited.symm)
  | onTimeout now =>
    cases stepped
    exact onTimeout_recorded recorded now
  | recvWithoutFrames | setTimer | stopTimer =>
    dsimp only [step] at stepped
    split_ifs at stepped
    cases stepped
    exact recorded
  | peerParams | measure | close =>
    cases stepped
    exact recorded

/-- In every run, the first ack-eliciting packet after a processed packet restarts the idle
timer exactly if none was ever sent before, or if the timer needs no restart. -/
theorem first_elicit_restarts_iff {localMaxIdleTimeout : Nat} {activeRtt : Option RttEstimator}
    {conn next : IdleConn} {now : Instant}
    (reached : Run step anyStep (.new localMaxIdleTimeout activeRtt) conn)
    (stepped : conn.step (.sendPacket now true) = some next) :
    (conn.elicitedSinceRecv = false → next.Restarted now) ↔
      conn.elicitedSinceRecv = true ∨ conn.elicited = false ∨ conn.Restarted now := by
  have recorded : conn.Recorded :=
    reached.invariant (fun _ _ _ recorded _ stepped => step_recorded recorded stepped) rfl
  have sent : next = conn.sendPacket now true := by
    dsimp only [step] at stepped
    split_ifs at stepped
    exact (Option.some.inj stepped).symm
  rw [sent, sendPacket_restarted_iff, recorded]
  cases conn.elicitedSinceRecv with
  | true => exact iff_of_true (fun first => by cases first) (.inl rfl)
  | false => exact ⟨fun holds => .inr (holds rfl), fun either _ => either.resolve_left (by decide)⟩

/-- The first ack-eliciting packet of a server restarts the timer that an arrival has set. -/
theorem first_elicit_restarts_initially :
    ∃ conn next, Run step anyStep (.new 30000 none) conn ∧
      conn.step (.sendPacket 5000000000 true) = some next ∧ conn.elicitedSinceRecv = false ∧
      conn.timers.get .idle = some 31000000000 ∧ next.Restarted 5000000000 := by
  have reached := Run.of_exec (show exec step (.new 30000 none)
    [.recvPacket 1000000000, .sendPacket 2000000000 false] = some _ from rfl)
  refine ⟨_, _, reached, rfl, rfl, rfl, ?_⟩
  exact (first_elicit_restarts_iff reached rfl).mpr (.inr (.inl rfl)) rfl

/-- A packet arrives a second after the first one was sent. The packet that is sent 19 seconds
later is the first one since, but the timer stays where the arrival has put it. -/
theorem first_elicit_not_restarted :
    ∃ conn next, Run step anyStep (.new 30000 none) conn ∧
      conn.step (.sendPacket 20000000000 true) = some next ∧ conn.elicitedSinceRecv = false ∧
      next.timers.get .idle = some 31000000000 ∧ ¬ next.Restarted 20000000000 := by
  have reached := Run.of_exec (show exec step (.new 30000 none)
    [.sendPacket 0 true, .recvPacket 1000000000] = some _ from rfl)
  refine ⟨_, _, reached, rfl, rfl, rfl, fun restarted => ?_⟩
  have late := restarted 30000000000 (by decide +kernel)
  exact absurd late (by decide)

end IdleConn

end Tquic.Connection
