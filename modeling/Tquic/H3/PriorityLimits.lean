import Tquic.H3.FrameRoundTrip
import Tquic.H3.StreamSafety
import Tquic.H3.WriteFraming

/-! The streams that PRIORITY_UPDATE frames may name. The client compares the id of the stream with
the limit, the server compares it with the limit times four. -/

set_option autoImplicit false

namespace Tquic.H3

open Lib Connection Stateful

private theorem Http3Priority.length_fieldValue_le (priority : Http3Priority) :
    priority.fieldValue.length ≤ 5 := by
  have values : ∀ bound ≤ 7, ∀ incremental : Bool,
      ("u=" ++ toString bound ++ if incremental then ",i" else "").toUTF8.data.toList.length ≤ 5 := by
    decide +kernel
  have bound : priority.subjectToBound ≤ 7 :=
    Nat.max_le.mpr ⟨Nat.zero_le 7, Nat.min_le_right _ _⟩
  exact values _ bound _

private theorem streamWritable_room {map : StreamMap} {id len : Nat} {stream : Stream}
    (room : StreamMap.Room map id len stream) : map.streamWritable id len = (.ok true, map) := by
  have capacity : map.streamCapacity id =
      .ok (min map.sendCapacity.capacity (stream.send.maxData - stream.send.writeOff)) := by
    unfold StreamMap.streamCapacity SendBuf.capacity
    rw [room.found]
    dsimp only
    rw [room.running]
  unfold StreamMap.streamWritable
  rw [capacity]
  dsimp only
  rw [if_pos (Nat.le_min.mpr ⟨room.connection, room.window⟩)]

namespace Http3Connection

/-- The stream is a request that the limit lets the client open. -/
def WithinLimit (limit id : Nat) : Prop := id % 4 = 0 ∧ id / 4 < limit

def priorityUpdate (id : Nat) (priority : Http3Priority) : Http3Frame :=
  .priorityUpdateRequest id priority.fieldValue

/-! ## The client -/

/-- Nothing but the id of the stream stands in the way of the frame: the endpoint is a client, the
stream is not closed, and the control stream has room. -/
structure MaySend (client : Http3Connection × QuicConn) (id : Nat) (priority : Http3Priority) :
    Prop where
  role : client.1.isServer = false
  live : client.2.streams.isClosed id = false
  control : ∃ controlId, client.1.localControlStreamId = some controlId ∧
    client.2.streams.MayWrite controlId ∧
    client.2.Ready controlId (priorityUpdate id priority).image.length

def Sends (client : Http3Connection × QuicConn) (id : Nat) (priority : Http3Priority) : Prop :=
  ((sendPriorityUpdateForRequest id priority).run client).1 = .ok ()

theorem wellFormed_priorityUpdate {id : Nat} (small : id ≤ vintMax) (priority : Http3Priority) :
    (priorityUpdate id priority).WellFormed := by
  refine ⟨?_, small⟩
  have value := priority.length_fieldValue_le
  have short := encodeVarintLen_le id
  change (varint id ++ priority.fieldValue).length ≤ vintMax
  rw [List.length_append, length_varint]
  unfold vintMax
  omega

private theorem length_priorityUpdate (id : Nat) (priority : Http3Priority) :
    (priorityUpdate id priority).image.length =
      4 + encodeVarintLen id + encodeVarintLen (encodeVarintLen id + priority.fieldValue.length) +
        priority.fieldValue.length := by
  have kind : encodeVarintLen priorityUpdateFrameRequestType = 4 := rfl
  change (varint priorityUpdateFrameRequestType ++
    (varint (varint id ++ priority.fieldValue).length ++ (varint id ++ priority.fieldValue))).length = _
  simp only [List.length_append, length_varint, kind]
  omega

private theorem writeFrame_ready {http3 : Http3Connection} {conn : QuicConn} {controlId : Nat}
    {frame : Http3Frame} (wellFormed : frame.WellFormed) (may : conn.streams.MayWrite controlId)
    (ready : conn.Ready controlId frame.image.length) :
    Ends (fun _ _ => True) (fun _ _ => False)
      ((writeFrame controlId frame frame.image.length).run (http3, conn)) := by
  unfold writeFrame
  rw [Http3Frame.encode_of_wellFormed wellFormed (Nat.le_refl _)]
  refine ends_bind.mpr (ends_ok.mpr (ends_bind.mpr (ends_call.mpr ?_)))
  exact (QuicConn.streamWrite_payload false ready may).mono (fun _ _ _ => trivial)
    fun _ _ impossible => impossible

/-- The client compares the identifier with the number of streams. -/
theorem sends_iff {client : Http3Connection × QuicConn} {id limit : Nat} {priority : Http3Priority}
    (may : MaySend client id priority) (small : limit ≤ vintMax)
    (granted : client.2.streams.concurrencyControl.peerMaxStreams true = limit) :
    Sends client id priority ↔ id % 4 = 0 ∧ id ≤ limit := by
  obtain ⟨controlId, control, mine, ready⟩ := may.control
  have length := length_priorityUpdate id priority
  have tested : (decide (id % 4 ≠ 0) || decide (limit < id)) = !decide (id % 4 = 0 ∧ id ≤ limit) := by
    rw [decide_not, Bool.decide_and, Bool.not_and, ← decide_not, ← decide_not]
    simp only [Nat.not_le]
  by_cases allowed : id % 4 = 0 ∧ id ≤ limit
  · refine iff_of_true ?_ allowed
    have wellFormed := wellFormed_priorityUpdate (allowed.2.trans small) priority
    have ends : Ends (fun _ _ => True) (fun _ _ => False)
        ((sendPriorityUpdateForRequest id priority).run client) := by
      obtain ⟨stream, room, _⟩ := ready.room
      have writable := streamWritable_room room
      unfold sendPriorityUpdateForRequest
      refine ends_bind.mpr (ends_get.mpr ?_)
      dsimp only
      rw [may.role, control, if_neg Bool.false_ne_true]
      dsimp only
      rw [may.live, granted, tested, decide_eq_true allowed, ← length]
      refine ends_bind.mpr (ends_attempt.mpr (ends_onStreams ?_ ?_))
      · intro value streams asked
        rw [writable] at asked
        cases asked
        exact writeFrame_ready wellFormed mine ready
      · intro error streams asked
        rw [writable] at asked
        cases asked
    exact ends.succeeds.elim fun _ sent => sent
  · refine iff_of_false (fun sent => ?_) allowed
    have ends : Ends (fun _ _ => False) (fun _ _ => True)
        ((sendPriorityUpdateForRequest id priority).run client) := by
      unfold sendPriorityUpdateForRequest
      refine ends_bind.mpr (ends_get.mpr ?_)
      dsimp only
      rw [may.role, control, if_neg Bool.false_ne_true]
      dsimp only
      rw [may.live, granted, tested, decide_eq_false allowed]
      exact trivial
    exact ends.of_ok (Prod.ext sent rfl)

/-! ## The server -/

structure MayReceive (server : Http3Connection × QuicConn) (id : Nat) : Prop where
  role : server.1.isServer = true
  live : server.2.streams.isClosed id = false

/-- Whatever the frame says about the stream becomes the update that is kept. -/
def Accepts (server : Http3Connection × QuicConn) (id : Nat) : Prop :=
  ∀ value, (((onPriorityUpdateRequestFrameReceived id value).run server).2.1.streams.get? id).bind
    (·.priorityUpdate) = some value

theorem getOrCreate_server {state : Http3Connection × QuicConn} (role : state.1.isServer = true)
    (id : Nat) : Ends (fun _ _ => True) (fun _ _ => False) ((getOrCreate id false).run state) := by
  unfold getOrCreate
  refine ends_bind.mpr (ends_get.mpr ?_)
  dsimp only
  cases state.1.streams.get? id with
  | some stream => exact trivial
  | none =>
      dsimp only
      rw [role, if_neg (by simp)]
      exact trivial

theorem updated_setStream (http3 : Http3Connection) (id : Nat) (stream : Http3Stream) (value : Bytes) :
    ((http3.setStream id { stream with priorityUpdate := some value }).streams.get? id).bind
      (·.priorityUpdate) = some value := by
  change ((http3.streams.insert id _).get? id).bind _ = _
  rw [OrdMap.get?_insert, if_pos rfl]
  rfl

/-- The server compares it with the identifiers of so many streams. -/
theorem accepts_iff {server : Http3Connection × QuicConn} {id limit : Nat}
    (may : MayReceive server id)
    (advertised : (server.2.streams.concurrencyControl.limit false true).maxStreams = limit) :
    Accepts server id ↔ id % 4 = 0 ∧ id ≤ limit * 4 := by
  by_cases allowed : id % 4 = 0 ∧ id ≤ limit * 4
  · refine iff_of_true (fun value => ?_) allowed
    have ends : Ends (fun _ after => (after.1.streams.get? id).bind (·.priorityUpdate) = some value)
        (fun _ after => (after.1.streams.get? id).bind (·.priorityUpdate) = some value)
        ((onPriorityUpdateRequestFrameReceived id value).run server) := by
      unfold onPriorityUpdateRequestFrameReceived
      refine ends_bind.mpr (ends_get.mpr ?_)
      dsimp only
      rw [may.role, may.live, advertised, if_neg (by decide), if_neg (not_not.mpr allowed.1),
        if_neg (by omega), if_neg Bool.false_ne_true]
      refine ends_bind.mpr (ends_attempt.mpr ((getOrCreate_server may.role id).mono ?_ ?_))
      · intro stream after _
        refine ends_bind.mpr (ends_modify.mpr ?_)
        have kept := updated_setStream after.1 id stream value
        split_ifs
        · exact kept
        · exact kept
      · exact fun _ _ impossible => impossible.elim
    exact ends.invariant
  · refine iff_of_false (fun accepts => ?_) allowed
    have unchanged : ∀ value,
        ((onPriorityUpdateRequestFrameReceived id value).run server).2.1 = server.1 := by
      intro value
      have ends : Ends (fun _ after => after.1 = server.1) (fun _ after => after.1 = server.1)
          ((onPriorityUpdateRequestFrameReceived id value).run server) := by
        have closes : ∀ reason, Ends (fun _ after => after.1 = server.1)
            (fun _ after => after.1 = server.1)
            ((closeWith .idError reason : ConnM (Nat × Http3Event)).run server) := fun reason =>
          (closeWith_ends .idError reason server).mono (fun _ _ impossible => impossible.elim)
            fun _ _ kept => kept.2.1
        unfold onPriorityUpdateRequestFrameReceived
        refine ends_bind.mpr (ends_get.mpr ?_)
        dsimp only
        rw [may.role, advertised, if_neg (by decide)]
        split_ifs with other beyond
        · exact closes _
        · exact closes _
        · omega
        · omega
      exact ends.invariant
    have first := accepts []
    have second := accepts [0]
    rw [unchanged] at first second
    rw [first] at second
    cases second

/-! ## Both sides -/

/-- Requests that the limit lets the client open and that it may not name, or that the server lets
it name beyond the limit. -/
def Misjudged (limit id : Nat) : Prop :=
  id % 4 = 0 ∧ (limit < id ∧ id ≤ 4 * limit ∨ id = 0 ∧ limit = 0)

/-- The client sends, and the server accepts, the updates for exactly the requests within the limit,
but for ids above the limit up to four times the limit, and for the first id where no request is
allowed. -/
theorem priority_limits_iff {client server : Http3Connection × QuicConn} {id limit : Nat}
    {priority : Http3Priority} (maySend : MaySend client id priority)
    (mayReceive : MayReceive server id) (small : limit ≤ vintMax)
    (granted : client.2.streams.concurrencyControl.peerMaxStreams true = limit)
    (advertised : (server.2.streams.concurrencyControl.limit false true).maxStreams = limit) :
    ((Sends client id priority ↔ WithinLimit limit id) ∧
      (Accepts server id ↔ WithinLimit limit id)) ↔ ¬ Misjudged limit id := by
  rw [sends_iff maySend small granted, accepts_iff mayReceive advertised]
  unfold WithinLimit Misjudged
  omega

def fiveRequests : StreamTransportParams :=
  { initialMaxData := 1000, initialMaxStreamDataUni := 1000, initialMaxStreamsBidi := 5,
    initialMaxStreamsUni := 3 }

def side (isServer : Bool) : Http3Connection × QuicConn :=
  let controlId := Http3Connection.initialUniStreamId isServer
  let streams :=
    (StreamMap.new isServer 1000 1000 fiveRequests none).updatePeerStreamTransportParams fiveRequests
  ({ Http3Connection.new isServer none none none with localControlStreamId := some controlId },
    { streams := (streams.getOrCreate controlId true).2, localError := none, isClosed := false,
      isDraining := false, accepted := [] })

theorem third_request_live : (side false).2.streams.isClosed 8 = false := by decide +kernel

theorem third_request_refused :
    (side false).2.streams.isClosed 8 = false ∧
      (side false).2.streams.concurrencyControl.peerMaxStreams true = 5 ∧ WithinLimit 5 8 ∧
      ((sendPriorityUpdateForRequest 8 {}).run (side false)).1 = .error .idError := by
  refine ⟨third_request_live, ?_, ⟨by decide, by decide⟩, rfl⟩
  decide +kernel

private theorem side_maySend : MaySend (side false) 8 {} := by
  have taken : ((side false).2.streams.get 2).any (fun stream => decide (stream.send.error = none ∧
      (priorityUpdate 8 {}).image.length ≤ (side false).2.streams.sendCapacity.capacity ∧
      (priorityUpdate 8 {}).image.length ≤ stream.send.maxData - stream.send.writeOff ∧
      stream.send.finOff = none)) = true := by
    decide +kernel
  obtain ⟨stream, found, held⟩ := (Option.any_eq_true _ _).mp taken
  obtain ⟨running, connection, window, unknown⟩ := of_decide_eq_true held
  exact
    { role := rfl
      live := third_request_live
      control := ⟨2, rfl, .inr (by decide +kernel), by decide,
        stream, ⟨found, running, connection, window⟩, unknown⟩ }

/-- The third of five requests. -/
theorem priority_limits_third :
    ¬ ((Sends (side false) 8 {} ↔ WithinLimit 5 8) ∧ (Accepts (side true) 8 ↔ WithinLimit 5 8)) := by
  intro agree
  have fine := (priority_limits_iff side_maySend ⟨rfl, by decide +kernel⟩ (by decide)
    (by decide +kernel) (by decide +kernel)).mp agree
  exact fine (by unfold Misjudged; decide)

end Http3Connection

end Tquic.H3
