import Tquic.Connection.CidAssignment
import Tquic.Connection.SendPacket

/-! The way from the paths of a connection to a datagram, after `send`, `select_send_path` and
`select_send_packet_type` of `connection.rs`. Multipath QUIC is not in use and the handshake is
over, so that 1-RTT keys are the only ones; until then nothing is sent here. -/

set_option autoImplicit false

namespace Tquic.Connection

def StreamMap.needSendStreamFrames (map : StreamMap) : Bool :=
  !map.sendable.entries.isEmpty || map.needSendMaxData || map.sendCapacity.blockedAt.isSome ||
    map.concurrencyControl.shouldUpdateLocalMaxStreams true ||
    map.concurrencyControl.shouldUpdateLocalMaxStreams false ||
    decide (map.almostFull ≠ ∅) || !map.dataBlocked.entries.isEmpty ||
    !map.reset.entries.isEmpty || !map.stopped.entries.isEmpty ||
    map.concurrencyControl.streamsBlockedAtBidi.isSome ||
    map.concurrencyControl.streamsBlockedAtUni.isSome

/-- Whether `select_send_packet_type` gives a 1-RTT packet. All lost frames have been processed. -/
def PacketSender.needSend (sender : PacketSender) : Bool :=
  let conn := sender.conn
  conn.localError.isSome || conn.crypto.ready || conn.needSendAck || sender.lossProbes > 0 ||
    conn.needSendHandshakeDoneFrame ||
    (conn.isServer && conn.handshakeCompleted && conn.needSendNewToken) ||
    conn.path.needSendValidationFrames conn.isServer || conn.dplpmtud.shouldProbe ||
    conn.needSendPing || !conn.cids.dcidsToRetire.isEmpty || !conn.cids.scidsToAdvertise.isEmpty ||
    conn.streams.needSendStreamFrames || !conn.buffered.isEmpty

/-- An unvalidated path that has to be probed goes first. -/
def CidPaths.selectSendPath (conn : CidPaths) : Except Error Nat :=
  match conn.paths.paths.findIdx? fun path =>
      path.dcidSeq.isSome && path.needSendValidationFrames conn.config.isServer with
  | some pathId => .ok pathId
  | none => conn.paths.getActivePathId

/-- The ids and paths of a connection, with what it needs beside them for a packet. -/
structure PathSender where
  conn : CidPaths
  sender : PacketSender

namespace PathSender

def onPath (state : PathSender) (pathId : Nat) (path : Path) : PacketSender :=
  { state.sender with
    conn :=
      { state.sender.conn with
        pathId, path, pathsLen := state.conn.paths.paths.length, cids := state.conn.cids } }

def store (state : PathSender) (pathId : Nat) (sender : PacketSender) : PathSender :=
  { conn :=
      { state.conn with
        cids := sender.conn.cids, paths := state.conn.paths.set pathId sender.conn.path }
    sender }

/-- What is noted of the path once a packet was written. -/
def noteSent (state : PathSender) (pathId written : Nat) : PathSender :=
  let conn := state.sender.conn
  let paths :=
    match conn.st.challenge with
    | none => state.conn.paths
    | some data =>
      state.conn.paths.modify pathId (·.onPathChalSent data written conn.now)
  { state with conn := { state.conn with paths := paths.decAntiAmplLimit pathId written } }

def room (state : PathSender) (out : Bytes) (pathId : Nat) (path : Path) : Nat :=
  state.conn.paths.cmpAntiAmplLimit pathId (min out.length path.maxDatagramSize)

/-- A packet with a short header is the last one of its datagram. -/
def send (state : PathSender) (out : Bytes) : Except Error Nat × PathSender :=
  if out.length < minClientInitialLen then (.error .bufferTooShort, state)
  else if state.sender.draining || !state.conn.handshakeCompleted then (.error .done, state)
  else
    match state.conn.selectSendPath with
    | .error error => (.error error, state)
    | .ok pathId =>
      match state.conn.paths.get pathId with
      | none => (.error .internalError, state)
      | some path =>
        let sender := state.onPath pathId path
        let left := state.room out pathId path
        if left = 0 || !sender.needSend then (.error .done, state)
        else
          match sender.sendPacket out left .oneRtt true false with
          -- The writers do not end.
          | none => (.error .panic, state)
          | some (.error error, after) =>
            (.error (if error = .bufferTooShort then .done else error),
              state.store pathId after)
          | some (.ok packet, after) =>
            (.ok packet.bytes.length,
              (state.store pathId after).noteSent pathId packet.bytes.length)

/-! ## A path without an id -/

/-- There is something to send, on a path that has no destination id. -/
def stranded (state : PathSender) (out : Bytes) : Bool :=
  minClientInitialLen ≤ out.length && !state.sender.draining && state.conn.handshakeCompleted &&
    match state.conn.selectSendPath with
    | .error _ => false
    | .ok pathId =>
      (state.conn.paths.get pathId).any fun path =>
        path.dcidSeq.isNone && state.room out pathId path ≠ 0 &&
          (state.onPath pathId path).needSend

variable {state : PathSender} {out : Bytes}

private theorem cmpAntiAmplLimit_le (map : PathMap) (pathId left : Nat) :
    map.cmpAntiAmplLimit pathId left ≤ left := by
  unfold PathMap.cmpAntiAmplLimit
  split_ifs
  · exact le_refl left
  · split
    · exact le_refl left
    · split_ifs
      · exact le_refl left
      · exact Nat.min_le_left _ _

private theorem set_present {map : PathMap} {pathId : Nat} {path : Path}
    (present : map.get pathId = some path) :
    map.set pathId path = map := by
  obtain ⟨bound, rfl⟩ := List.getElem?_eq_some_iff.mp present
  unfold PathMap.set
  rw [List.set_getElem_self bound]

/-- No packet can be planned for the path, and the next call of `send` finds it as it is. -/
theorem send_stranded (stuck : state.stranded out = true) :
    state.sender.draining = false ∧
      ∃ next, state.send out = (.error .internalError, next) ∧ next.stranded out = true := by
  have whole := stuck
  unfold stranded at stuck
  simp only [Bool.and_eq_true, decide_eq_true_eq, Bool.not_eq_true'] at stuck
  obtain ⟨⟨⟨large, draining⟩, completed⟩, chosen⟩ := stuck
  cases selected : state.conn.selectSendPath with
  | error error => simp [selected] at chosen
  | ok pathId =>
    simp only [selected] at chosen
    obtain ⟨path, present, waits⟩ := (Option.any_eq_true _ _).mp chosen
    simp only [Bool.and_eq_true, decide_eq_true_eq, Option.isNone_iff_eq_none] at waits
    obtain ⟨⟨dcid, room⟩, due⟩ := waits
    have fits : ¬ out.length < state.room out pathId path := by
      have short :=
        cmpAntiAmplLimit_le state.conn.paths pathId (min out.length path.maxDatagramSize)
      unfold PathSender.room
      omega
    have planned : (state.onPath pathId path).plan out.length (state.room out pathId path) .oneRtt =
        .error .internalError := by
      unfold PacketSender.plan onPath
      simp only [if_neg fits, draining, dcid]
      rfl
    have unsent : (state.onPath pathId path).sendPacket out (state.room out pathId path) .oneRtt true
        false = some (.error .internalError, state.onPath pathId path) := by
      unfold PacketSender.sendPacket
      rw [planned]
    have same : state.store pathId (state.onPath pathId path) =
        { state with sender := state.onPath pathId path } :=
      congrArg (fun paths => PathSender.mk { state.conn with paths } _) (set_present present)
    refine ⟨draining, { state with sender := state.onPath pathId path }, ?_, whole⟩
    unfold send
    rw [if_neg (Nat.not_lt_of_le large), if_neg (by simp [draining, completed]), selected]
    dsimp only
    rw [present]
    dsimp only
    rw [if_neg (by simp [room, due]), unsent]
    exact congrArg (Prod.mk _) same

end PathSender

end Tquic.Connection
