import Tquic.H3.WriteFraming

/-! What `send_body` leaves behind when it cannot write the whole body: a threshold, with which the
application is told to go on once the stream takes that many bytes. -/

set_option autoImplicit false

namespace Tquic.H3

open Lib Connection Stateful

/-! ## Writes into an open stream -/

/-- The stream takes `capacity` bytes, and its end was not written yet. -/
structure OpenFor (conn : QuicConn) (id capacity : Nat) (stream : Stream) : Prop where
  found : conn.streams.get id = some stream
  unknown : stream.send.finOff = none
  known : conn.streamCapacity id = .ok capacity

structure LeftOpen (conn : QuicConn) (id capacity : Nat) (fin : Bool) (old new : Stream) : Prop where
  found : conn.streams.get id = some new
  bidi : new.bidi = old.bidi
  threshold : new.writeThresh = old.writeThresh
  final : new.send.finOff.isSome = fin
  known : conn.streamCapacity id = .ok capacity

theorem streamCapacity_eq {map : StreamMap} {id : Nat} {stream : Stream}
    (found : map.get id = some stream) (running : stream.send.error = none) :
    map.streamCapacity id =
      .ok (min map.sendCapacity.capacity (stream.send.maxData - stream.send.writeOff)) := by
  rw [StreamMap.streamCapacity, found]
  dsimp only
  rw [SendBuf.capacity, running]

variable {conn : QuicConn}

theorem OpenFor.room {id capacity len : Nat} {stream : Stream}
    (opened : OpenFor conn id capacity stream) (fits : len ≤ capacity) :
    StreamMap.Room conn.streams id len stream := by
  obtain ⟨other, room⟩ := StreamMap.Room.of_capacity opened.known fits
  have same : other = stream := Option.some.inj (room.found.symm.trans opened.found)
  exact same ▸ room

/-- A write within the capacity takes all bytes and leaves the rest of it. -/
theorem OpenFor.streamWrite {id capacity : Nat} {stream : Stream} {buf : Bytes}
    (opened : OpenFor conn id capacity stream) (bidi : isBidi id = true) (small : id ≤ vintMax)
    (fits : buf.length ≤ capacity) (fin : Bool) :
    ∃ after new, (QuicConn.streamWrite id buf fin).run conn = (.ok buf.length, after) ∧
      LeftOpen after id (capacity - buf.length) fin stream new := by
  have room := opened.room fits
  obtain ⟨send, wrote⟩ := SendBuf.write_fits room.running room.window opened.unknown
  have written := SendBuf.write_spec wrote
  obtain ⟨streams, taken, found, credit⟩ := StreamMap.streamWrite_taken room (.inl bidi) small wrote
  have capacity_eq : min conn.streams.sendCapacity.capacity
      (stream.send.maxData - stream.send.writeOff) = capacity :=
    Except.ok.inj ((streamCapacity_eq opened.found room.running).symm.trans opened.known)
  let conn' : QuicConn :=
    { conn with
      streams
      accepted := conn.accepted ++ [{ streamId := id, bytes := buf.take buf.length,
                                      fin := fin && buf.length == buf.length }] }
  refine ⟨conn', _, ?_, found, rfl, rfl, ?_, ?_⟩
  · refine bind_succeeds.mpr ⟨buf.length, { conn with streams }, ?_, rfl⟩
    change ((conn.streams.streamWrite id buf fin).1,
      { conn with streams := (conn.streams.streamWrite id buf fin).2 }) = _
    rw [taken]
  · change send.finOff.isSome = fin
    rw [written.shape]
    dsimp only
    have window := room.window
    cases fin with
    | false => rw [if_neg (fun both => Bool.false_ne_true both.1), opened.unknown]; rfl
    | true => rw [if_pos ⟨rfl, window⟩]; rfl
  · have running : (send.updateBlockedAt none).error = none :=
      (congrArg SendBuf.error written.shape).trans room.running
    change streams.streamCapacity id = _
    rw [streamCapacity_eq found running, credit]
    change Except.ok (min _ (send.maxData - send.writeOff)) = _
    rw [written.shape]
    congr 1
    dsimp only
    omega

theorem LeftOpen.opened {conn : QuicConn} {id capacity : Nat} {old new : Stream}
    (left : LeftOpen conn id capacity false old new) : OpenFor conn id capacity new where
  found := left.found
  unknown := Option.not_isSome_iff_eq_none.mp (fun known => Bool.false_ne_true (left.final ▸ known))
  known := left.known

theorem call_succeeds {σ α : Type} {state : σ × QuicConn} {conn : QuicConn} {value : α}
    {steps : Stateful QuicConn Error α} (succeeds : steps.run state.2 = (.ok value, conn)) :
    (call steps : Http3M σ α).run state = (.ok value, (state.1, conn)) := by
  change ((steps.run state.2).1.mapError Http3Error.ofError, (state.1, (steps.run state.2).2)) = _
  rw [succeeds]
  rfl

private theorem call_fails {σ α : Type} {state : σ × QuicConn} {error : Error}
    {steps : Stateful QuicConn Error α} (fails : steps.run state.2 = (.error error, conn)) :
    (call steps : Http3M σ α).run state = (.error (Http3Error.ofError error), (state.1, conn)) := by
  change ((steps.run state.2).1.mapError Http3Error.ofError, (state.1, (steps.run state.2).2)) = _
  rw [fails]
  rfl

/-- So does a frame, with its header. -/
theorem OpenFor.writeFrame {σ α : Type} {state : σ × QuicConn} {id capacity : Nat} {stream : Stream}
    {frame : SentFrame} (opened : OpenFor state.2 id capacity stream) (bidi : isBidi id = true)
    (small : id ≤ vintMax) (kind : frame.frameType ≤ 63)
    (fits : 1 + encodeVarintLen frame.payload.length + frame.payload.length ≤ capacity)
    (next : Nat → Http3M σ α) :
    ∃ conn new, LeftOpen conn id
        (capacity - (1 + encodeVarintLen frame.payload.length + frame.payload.length)) frame.fin stream
        new ∧
      (do
        let _ ← call (QuicConn.streamWrite id frame.header false)
        let written ← call (QuicConn.streamWrite id frame.payload frame.fin)
        next written).run state = (next frame.payload.length).run (state.1, conn) := by
  have header := SentFrame.length_header kind
  obtain ⟨conn, middle, wrote, between⟩ :=
    opened.streamWrite bidi small (show frame.header.length ≤ capacity by omega) false
  obtain ⟨after, new, ended, left⟩ := between.opened.streamWrite bidi small
    (show frame.payload.length ≤ capacity - frame.header.length by omega) frame.fin
  refine ⟨after, new, ⟨left.found, left.bidi.trans between.bidi,
    left.threshold.trans between.threshold, left.final, ?_⟩, ?_⟩
  · rw [left.known, header, Nat.sub_sub]
  · rw [bind_run (call_succeeds wrote), bind_run (@call_succeeds _ _ (state.1, conn) _ _ _ ended)]

namespace Http3Connection

variable {state : Http3Connection × QuicConn} {id capacity : Nat} {stream : Stream} {body : Bytes}
  {fin : Bool}

/-! ## Registrations -/

/-- A wish for `len` bytes is registered, unless they are there. -/
theorem awaitWritable_registers {len : Nat} (found : state.2.streams.get id = some stream)
    (known : state.2.streamCapacity id = .ok capacity) (bidi : stream.bidi = true) :
    ∃ conn send, (awaitWritable id len).run state = (.ok (), (state.1, conn)) ∧
      conn.streams.get id = some { stream with
        send
        wantWrite := true
        writeThresh := if len ≤ capacity then stream.writeThresh else max 1 len } := by
  obtain ⟨send, threshold⟩ := @StreamMap.streamWritable_threshold _ _ len _ _ found known
  refine ⟨_, send, rfl, ?_⟩
  exact StreamMap.wantWrite_get threshold bidi true

/-! ## One DATA frame -/

/-- No byte of the payload fits behind the header. -/
theorem sendDataFrame_full (filled : body ≠ []) (full : capacity = 1 + encodeVarintLen body.length) :
    (sendDataFrame id capacity body fin).run state = (.error .done, state) := by
  have long := List.length_pos_iff.mpr filled
  have none : min body.length (capacity - (1 + encodeVarintLen body.length)) = 0 := by omega
  have partly : (0 == body.length) = false := by
    rw [beq_eq_false_iff_ne]
    omega
  unfold sendDataFrame
  dsimp only
  rw [if_neg (by omega), none, partly, Bool.and_false]
  rfl

/-- The frame with `len` bytes of the body. FIN goes with the end of the body only. -/
def dataFrame (body : Bytes) (len : Nat) (fin : Bool) : SentFrame :=
  { frameType := dataFrameType, payload := body.take len, fin := fin && len == body.length }

variable {len : Nat}

theorem length_dataFrame (bound : len ≤ body.length) :
    (dataFrame body len fin).payload.length = len := List.length_take_of_le bound

theorem sendDataFrame_begins (room : 1 + encodeVarintLen body.length ≤ capacity)
    (cut : len = min body.length (capacity - (1 + encodeVarintLen body.length)))
    (useful : 0 < len ∨ body = [] ∧ fin = true) (small : len ≤ vintMax) :
    (sendDataFrame id capacity body fin).run state = (do
      let _ ← call (QuicConn.streamWrite id (dataFrame body len fin).header false)
      let written ←
        call (QuicConn.streamWrite id (dataFrame body len fin).payload (dataFrame body len fin).fin)
      if written < body.length then
        awaitWritable id (2 + encodeVarintLen (body.length - written))
        return written
      else if (fin && len == body.length) = true then
        noteBodySent id
        return written
      else return written : ConnM Nat).run state := by
  have bound : len ≤ body.length := by omega
  have long : (body.take len).length = len := List.length_take_of_le bound
  have header : frameHeader dataFrameType len = .ok (dataFrame body len fin).header := by
    rw [frameHeader_small (by decide) small, SentFrame.header, length_dataFrame bound]
    rfl
  have filled : ¬((body.take len).isEmpty && !(fin && len == body.length)) = true := by
    rcases useful with positive | ⟨rfl, rfl⟩
    · have kept : body.take len ≠ [] := List.ne_nil_of_length_pos (long.symm ▸ positive)
      simp [kept]
    · have zero : len = 0 := by simpa using bound
      simp [zero]
  unfold sendDataFrame
  dsimp only
  rw [if_neg (by omega), ← cut, if_neg filled]
  refine bind_run ?_
  rw [header]
  rfl

theorem sendDataFrame_writes {len : Nat} (opened : OpenFor state.2 id capacity stream)
    (bidi : isBidi id = true) (known : id ≤ vintMax)
    (room : 1 + encodeVarintLen body.length ≤ capacity)
    (cut : len = min body.length (capacity - (1 + encodeVarintLen body.length)))
    (useful : 0 < len ∨ body = [] ∧ fin = true) (small : len ≤ vintMax) :
    ∃ conn new, LeftOpen conn id (capacity - (1 + encodeVarintLen len + len))
        (fin && len == body.length) stream new ∧ (sendDataFrame id capacity body fin).run state =
        (do
          if len < body.length then
            awaitWritable id (2 + encodeVarintLen (body.length - len))
            return len
          else if (fin && len == body.length) = true then
            noteBodySent id
            return len
          else return len : ConnM Nat).run (state.1, conn) := by
  have bound : len ≤ body.length := by omega
  have shorter := encodeVarintLen_mono bound
  rw [sendDataFrame_begins room cut useful small]
  obtain ⟨conn, new, left, run⟩ := @OpenFor.writeFrame _ _ state _ _ _ (dataFrame body len fin) opened
    bidi known (show dataFrameType ≤ 63 by decide) (by rw [length_dataFrame bound]; omega)
    (fun written => do
      if written < body.length then
        awaitWritable id (2 + encodeVarintLen (body.length - written))
        return written
      else if (fin && len == body.length) = true then
        noteBodySent id
        return written
      else return written)
  rw [length_dataFrame bound] at left run
  exact ⟨conn, new, left, run⟩

/-- A body that is cut leaves a registration behind. The threshold is raised if the bytes that are left
do not reach it. -/
theorem sendDataFrame_cut {len : Nat} (opened : OpenFor state.2 id capacity stream)
    (bidi : isBidi id = true) (known : id ≤ vintMax) (mine : stream.bidi = true)
    (room : 1 + encodeVarintLen body.length ≤ capacity)
    (cut : len = min body.length (capacity - (1 + encodeVarintLen body.length)))
    (positive : 0 < len) (less : len < body.length) (small : len ≤ vintMax) :
    ∃ conn final, (sendDataFrame id capacity body fin).run state = (.ok len, (state.1, conn)) ∧
      conn.streams.get id = some final ∧ final.wantWrite = true ∧
      final.writeThresh =
        if 2 + encodeVarintLen (body.length - len) ≤ capacity - (1 + encodeVarintLen len + len) then
          stream.writeThresh
        else 2 + encodeVarintLen (body.length - len) := by
  obtain ⟨conn, new, left, run⟩ := @sendDataFrame_writes state id capacity stream body fin len opened
    bidi known room cut (.inl positive) small
  obtain ⟨after, send, waits, found⟩ := @awaitWritable_registers (state.1, conn) id _ new
    (2 + encodeVarintLen (body.length - len)) left.found left.known (left.bidi.trans mine)
  refine ⟨after, _, ?_, found, rfl, ?_⟩
  · rw [run, if_pos less, bind_run waits]
    rfl
  · rw [left.threshold]
    refine ite_congr rfl (fun _ => rfl) fun _ => ?_
    omega

/-- Some payload was written, or the end of the stream. -/
def Progresses (id : Nat) (body : Bytes) (fin : Bool) (state : Http3Connection × QuicConn) : Prop :=
  ∃ written after, (sendBody id body fin).run state = (.ok written, after) ∧
    (0 < written ∨ ∃ stream, after.2.streams.get id = some stream ∧ stream.send.finOff.isSome = true)

/-- A DATA frame that is of use is written with the payload that fits. -/
theorem sendDataFrame_progresses {len : Nat} (opened : OpenFor state.2 id capacity stream)
    (bidi : isBidi id = true) (known : id ≤ vintMax)
    (room : 1 + encodeVarintLen body.length ≤ capacity)
    (cut : len = min body.length (capacity - (1 + encodeVarintLen body.length)))
    (useful : 0 < len ∨ body = [] ∧ fin = true) (small : len ≤ vintMax) :
    ∃ after, (sendDataFrame id capacity body fin).run state = (.ok len, after) ∧
      (0 < len ∨ ∃ stream, after.2.streams.get id = some stream ∧
        stream.send.finOff.isSome = true) := by
  obtain ⟨conn, new, left, run⟩ := @sendDataFrame_writes state id capacity stream body fin len opened
    bidi known room cut useful small
  rw [run]
  split
  case isTrue less =>
    have positive : 0 < len := useful.resolve_right fun empty => by simp [empty.1] at less
    obtain ⟨_, waits⟩ := (awaitWritable_ends id (2 + encodeVarintLen (body.length - len))
      (state.1, conn)).succeeds
    exact ⟨_, bind_run (Prod.ext waits rfl), .inl positive⟩
  split
  case isTrue last =>
    obtain ⟨after, noted, same⟩ : ∃ after, (noteBodySent id).run (state.1, conn) = (.ok (), after) ∧
        after.2 = conn := ⟨_, rfl, rfl⟩
    refine ⟨after, bind_run noted, .inr ⟨new, ?_, left.final.trans last⟩⟩
    rw [same]
    exact left.found
  case isFalse whole =>
    refine ⟨_, rfl, useful.imp_right fun empty => absurd ?_ whole⟩
    have zero : len = 0 := by simpa [empty.1] using cut
    simp [empty.1, empty.2, zero]

/-! ## Thresholds -/

/-- `send_body` comes to the body: the headers were sent and no block waits. -/
structure AtBody (state : Http3Connection × QuicConn) (id capacity : Nat) (stream : Stream) : Prop where
  request : id % 4 = 0
  own : ∃ own, state.1.streams.get? id = some own ∧ own.headerBlock = none ∧
    own.localInitialized = true
  found : state.2.streams.get id = some stream
  capacity : state.2.streamCapacity id = .ok capacity

theorem AtBody.sendBody (atBody : AtBody state id capacity stream)
    (something : body ≠ [] ∨ fin = true) :
    (sendBody id body fin).run state = (sendDataFrame id capacity body fin).run state := by
  obtain ⟨own, found, none, sent⟩ := atBody.own
  have filled : ¬(body.isEmpty && !fin) = true := by
    rcases something with filled | rfl
    · simp [filled]
    · simp
  have known := atBody.capacity
  unfold Http3Connection.sendBody
  change (if id % 4 ≠ 0 then _ else _ : ConnM Nat).run state = _
  rw [if_neg (not_not.mpr atBody.request), found]
  dsimp only
  rw [none, sent]
  dsimp only
  rw [if_neg (by simp), if_neg filled, known]

/-- Room for `threshold` bytes is enough for the next `send_body`, wherever it happens. Limits of flow
control are varints. -/
def Suffices (threshold id : Nat) (body : Bytes) (fin : Bool) : Prop :=
  ∀ state capacity stream, AtBody state id capacity stream → stream.send.finOff = none →
    capacity ≤ vintMax → threshold ≤ capacity → Progresses id body fin state

/-- A state in which the stream takes just `capacity` bytes. -/
theorem exists_atBody (state : Http3Connection × QuicConn) (request : id % 4 = 0) (capacity : Nat) :
    ∃ later stream, AtBody later id capacity stream ∧ stream.send.finOff = none := by
  let own : Http3Stream := { Http3Stream.new id true with localInitialized := true }
  let stream := Stream.new true true capacity 0 0
  let streams : StreamMap :=
    { state.2.streams with sendCapacity := { state.2.streams.sendCapacity with capacity } }
  refine ⟨(state.1.setStream id own, { state.2 with streams := streams.setStream id stream }), stream,
    ⟨request, ⟨own, OrdMap.get?_insert_self _ _ _, rfl, rfl⟩, StreamMap.get_setStream _ _ _, ?_⟩, rfl⟩
  change (streams.setStream id stream).streamCapacity id = _
  rw [streamCapacity_eq (StreamMap.get_setStream _ _ _) rfl]
  change Except.ok (min capacity (capacity - 0)) = _
  rw [Nat.sub_zero, Nat.min_self]

theorem suffices_of_le {threshold : Nat} (known : id ≤ vintMax) (something : body ≠ [] ∨ fin = true)
    (enough : (if body = [] then 2 else 2 + encodeVarintLen body.length) ≤ threshold) :
    Suffices threshold id body fin := by
  intro state capacity stream atBody unknown small reached
  have bidi := isBidi_of_request atBody.request
  have opened : OpenFor state.2 id capacity stream := ⟨atBody.found, unknown, atBody.capacity⟩
  rw [Progresses, atBody.sendBody something]
  by_cases empty : body = []
  case pos =>
    rw [if_pos empty] at enough
    have overhead : 1 + encodeVarintLen body.length = 2 := by
      rw [empty]
      rfl
    have ends : fin = true := something.resolve_left (not_not.mpr empty)
    obtain ⟨after, run, progress⟩ := sendDataFrame_progresses opened bidi known (by omega) rfl
      (.inr ⟨empty, ends⟩) (by omega)
    exact ⟨_, after, run, progress⟩
  case neg =>
    rw [if_neg empty] at enough
    have long := List.length_pos_iff.mpr empty
    obtain ⟨after, run, progress⟩ := @sendDataFrame_progresses state id capacity stream body fin _
      opened bidi known (by omega) rfl (.inl (by omega)) (by omega)
    exact ⟨_, after, run, progress⟩

/-- A byte of payload behind the header is both enough and needed. -/
theorem suffices_iff {threshold : Nat} (state : Http3Connection × QuicConn) (request : id % 4 = 0)
    (known : id ≤ vintMax) (filled : body ≠ []) :
    Suffices threshold id body fin ↔ 2 + encodeVarintLen body.length ≤ threshold := by
  constructor
  · intro enough
    by_contra low
    obtain ⟨later, stream, atBody, unknown⟩ :=
      exists_atBody state request (1 + encodeVarintLen body.length)
    have small := encodeVarintLen_le body.length
    have fits : 1 + encodeVarintLen body.length ≤ vintMax :=
      (Nat.add_le_add_left small 1).trans (by decide)
    obtain ⟨written, after, run, _⟩ := enough later _ stream atBody unknown fits (by omega)
    rw [atBody.sendBody (.inl filled), sendDataFrame_full filled rfl] at run
    cases run
  · intro enough
    refine suffices_of_le known (.inl filled) ?_
    rwa [if_neg filled]

/-! ## Wake-ups -/

/-- The application is told when the stream takes enough bytes for the body to get on. -/
def Woken (id : Nat) (body : Bytes) (fin : Bool) (state : Http3Connection × QuicConn) : Prop :=
  ∃ stream, state.2.streams.get id = some stream ∧ stream.wantWrite = true ∧
    Suffices stream.writeThresh id body fin

/-- A body that was not taken whole, or not at all, leaves a registration behind. -/
def LeavesWoken (state : Http3Connection × QuicConn) (id : Nat) (body : Bytes) (fin : Bool) : Prop :=
  Ends (fun written after => written < body.length → Woken id (body.drop written) fin after)
    (fun error after => error = .done → Woken id body fin after) ((sendBody id body fin).run state)

/-- The bytes of the body that `send_body` writes into this room. -/
def frameLen (capacity bodyLen : Nat) : Nat := min bodyLen (capacity - (1 + encodeVarintLen bodyLen))

/-- Where nothing is registered anew: the room is just that of the frame header, or the bytes that are
left behind the frame reach the threshold of the rest already. The stream has to be registered
before. -/
structure Registered (capacity : Nat) (stream : Stream) (body : Bytes) : Prop where
  full : body ≠ [] → capacity = 1 + encodeVarintLen body.length →
    stream.wantWrite = true ∧ 2 + encodeVarintLen body.length ≤ stream.writeThresh
  left : stream.send.finOff = none → 0 < frameLen capacity body.length →
    frameLen capacity body.length < body.length →
    2 + encodeVarintLen (body.length - frameLen capacity body.length) ≤
      capacity - (1 + encodeVarintLen (frameLen capacity body.length) +
        frameLen capacity body.length) →
    2 + encodeVarintLen (body.length - frameLen capacity body.length) ≤ stream.writeThresh

theorem sendDataFrame_short (atBody : AtBody state id capacity stream) (mine : stream.bidi = true)
    (short : capacity < 1 + encodeVarintLen body.length) :
    ∃ conn final, (sendDataFrame id capacity body fin).run state = (.error .done, (state.1, conn)) ∧
      conn.streams.get id = some final ∧ final.wantWrite = true ∧
      final.writeThresh = 2 + encodeVarintLen body.length := by
  obtain ⟨conn, send, waits, found⟩ := @awaitWritable_registers state id capacity stream
    (1 + encodeVarintLen body.length + 1) atBody.found atBody.capacity mine
  refine ⟨conn, _, ?_, found, rfl, ?_⟩
  · unfold sendDataFrame
    dsimp only
    rw [if_pos short, bind_run waits]
    rfl
  · dsimp only
    rw [if_neg (by omega)]
    omega

private theorem sendDataFrame_ended (carried : state.2.Carried) (known : id ≤ vintMax)
    (atBody : AtBody state id capacity stream) (ended : stream.send.finOff.isSome = true)
    (room : 1 + encodeVarintLen body.length ≤ capacity)
    (cut : len = min body.length (capacity - (1 + encodeVarintLen body.length)))
    (useful : 0 < len ∨ body = [] ∧ fin = true) (small : len ≤ vintMax) :
    ∃ error after, (sendDataFrame id capacity body fin).run state = (.error error, after) ∧
      error ≠ .done := by
  have bound : len ≤ body.length := by omega
  have shorter := encodeVarintLen_mono bound
  have length : (dataFrame body len fin).header.length = 1 + encodeVarintLen len := by
    rw [SentFrame.length_header (show dataFrameType ≤ 63 by decide), length_dataFrame bound]
  obtain ⟨other, space⟩ := StreamMap.Room.of_capacity atBody.capacity
    (show (dataFrame body len fin).header.length ≤ capacity by omega)
  obtain rfl : other = stream := Option.some.inj (space.found.symm.trans atBody.found)
  obtain ⟨reason, refused⟩ := @SendBuf.write_ended _ (dataFrame body len fin).header false
    (carried.sound atBody.found) ended (List.ne_nil_of_length_pos (by omega))
  obtain ⟨marked, _, _, reaches⟩ := @StreamMap.streamWrite_reaches _ _ _ _ false space
    (.inl (isBidi_of_request atBody.request)) known
  rw [refused] at reaches
  have failed : (QuicConn.streamWrite id (dataFrame body len fin).header false).run state.2 =
      (.error reason, { state.2 with streams := marked.markWritable id false }) := by
    refine bind_fails ?_
    change ((state.2.streams.streamWrite id (dataFrame body len fin).header false).1,
      { state.2 with
        streams := (state.2.streams.streamWrite id (dataFrame body len fin).header false).2 }) = _
    rw [reaches]
  rw [sendDataFrame_begins room cut useful small]
  refine ⟨_, _, bind_fails (call_fails failed), ?_⟩
  rcases SendBuf.write_error refused with rfl | ⟨_, rfl⟩
  all_goals
    intro impossible
    cases impossible

private theorem sendDataFrame_large (room : 1 + encodeVarintLen body.length ≤ capacity)
    (cut : len = min body.length (capacity - (1 + encodeVarintLen body.length)))
    (large : vintMax < len) :
    (sendDataFrame id capacity body fin).run state = (.error .panic, state) := by
  have long : (body.take len).length = len := List.length_take_of_le (by omega)
  have kept : body.take len ≠ [] := List.ne_nil_of_length_pos (by omega)
  have filled : ¬((body.take len).isEmpty && !(fin && len == body.length)) = true := by
    simp [kept]
  unfold sendDataFrame
  dsimp only
  rw [if_neg (by omega), ← cut, if_neg filled]
  refine bind_fails ?_
  rw [frameHeader_large (by decide) large]
  rfl

theorem woken_iff {rest : Bytes} (request : id % 4 = 0) (known : id ≤ vintMax) (filled : rest ≠ [])
    (found : state.2.streams.get id = some stream) (waits : stream.wantWrite = true) :
    Woken id rest fin state ↔ 2 + encodeVarintLen rest.length ≤ stream.writeThresh := by
  rw [← suffices_iff state request known filled]
  constructor
  · rintro ⟨other, same, _, enough⟩
    exact Option.some.inj (found.symm.trans same) ▸ enough
  · exact fun enough => ⟨stream, found, waits, enough⟩

private theorem sendDataFrame_written_iff (carried : state.2.Carried) (known : id ≤ vintMax)
    (atBody : AtBody state id capacity stream) (room : 1 + encodeVarintLen body.length ≤ capacity)
    (cut : frameLen capacity body.length = len) (useful : 0 < len ∨ body = [] ∧ fin = true) :
    Ends (fun written after => written < body.length → Woken id (body.drop written) fin after)
        (fun error after => error = .done → Woken id body fin after)
        ((sendDataFrame id capacity body fin).run state) ↔
      (stream.send.finOff = none → 0 < len → len < body.length →
        2 + encodeVarintLen (body.length - len) ≤ capacity - (1 + encodeVarintLen len + len) →
        2 + encodeVarintLen (body.length - len) ≤ stream.writeThresh) := by
  have bidi := isBidi_of_request atBody.request
  have cut' : len = min body.length (capacity - (1 + encodeVarintLen body.length)) := cut.symm
  by_cases small : len ≤ vintMax
  case neg =>
    have large := Nat.not_le.mp small
    rw [sendDataFrame_large room cut' large]
    refine iff_of_true (fun done => nomatch done) fun _ _ less enough => ?_
    -- The header of a frame this long leaves nothing of the room.
    have longest : encodeVarintLen len = 8 := by
      have most : 1073741823 < vintMax := by decide
      rw [encodeVarintLen, if_neg (by omega), if_neg (by omega), if_neg (by omega)]
    have fits := encodeVarintLen_le body.length
    omega
  cases unknown : stream.send.finOff with
  | some finOff =>
      obtain ⟨error, after, run, notDone⟩ := sendDataFrame_ended carried known atBody
        (by rw [unknown]; rfl) room cut' useful small
      rw [run]
      exact iff_of_true (fun done => absurd done notDone) (fun impossible => nomatch impossible)
  | none =>
    have opened : OpenFor state.2 id capacity stream := ⟨atBody.found, unknown, atBody.capacity⟩
    by_cases less : len < body.length
    case neg =>
      obtain ⟨after, run, _⟩ := sendDataFrame_progresses opened bidi known room cut' useful small
      rw [run]
      exact iff_of_true (fun more => absurd more less) (fun _ _ more => absurd more less)
    case pos =>
      have positive : 0 < len := useful.resolve_right fun empty => by simp [empty.1] at less
      obtain ⟨_, valid⟩ := carried.valid atBody.found
      obtain ⟨conn, final, run, found, waits, threshold⟩ := @sendDataFrame_cut state id capacity stream
        body fin len opened bidi known (valid.bidi.trans bidi) room cut' positive less small
      rw [run]
      have filled : body.drop len ≠ [] := by
        rw [Ne, List.drop_eq_nil_iff]
        omega
      have woken := @woken_iff (state.1, conn) id final fin (body.drop len) atBody.request known filled
        found waits
      rw [List.length_drop, threshold] at woken
      change (len < body.length → Woken id (body.drop len) fin (state.1, conn)) ↔ _
      rw [woken]
      split
      case isTrue reached =>
        exact ⟨fun enough _ _ less _ => enough less, fun enough less => enough rfl positive less reached⟩
      case isFalse low => exact iff_of_true (fun _ => le_rfl) fun _ _ _ reached => absurd reached low

theorem sendDataFrame_wakes_iff (carried : state.2.Carried) (known : id ≤ vintMax)
    (something : body ≠ [] ∨ fin = true) (atBody : AtBody state id capacity stream) :
    LeavesWoken state id body fin ↔ Registered capacity stream body := by
  have bidi := isBidi_of_request atBody.request
  have mine : stream.bidi = true := by
    obtain ⟨_, valid⟩ := carried.valid atBody.found
    exact valid.bidi.trans bidi
  rw [LeavesWoken, atBody.sendBody something]
  by_cases short : capacity < 1 + encodeVarintLen body.length
  case pos =>
    obtain ⟨conn, final, run, found, waits, threshold⟩ :=
      @sendDataFrame_short state id capacity stream body fin atBody mine short
    rw [run]
    refine iff_of_true (fun _ => ⟨final, found, waits, suffices_of_le known something ?_⟩)
      ⟨fun _ full => absurd full (by omega), fun _ positive => ?_⟩
    · rw [threshold]
      split <;> omega
    · rw [frameLen] at positive
      omega
  case neg =>
  by_cases full : body ≠ [] ∧ capacity = 1 + encodeVarintLen body.length
  case pos =>
    obtain ⟨filled, full⟩ := full
    rw [sendDataFrame_full filled full]
    constructor
    · intro woken
      obtain ⟨other, found, waits, enough⟩ := woken rfl
      obtain rfl : other = stream := Option.some.inj (found.symm.trans atBody.found)
      refine ⟨fun _ _ => ⟨waits, (suffices_iff state atBody.request known filled).mp enough⟩,
        fun _ positive => ?_⟩
      rw [frameLen] at positive
      omega
    · intro registered _
      obtain ⟨waits, enough⟩ := registered.full filled full
      exact ⟨stream, atBody.found, waits, (suffices_iff state atBody.request known filled).mpr enough⟩
  case neg =>
    have room : 1 + encodeVarintLen body.length ≤ capacity := Nat.le_of_not_lt short
    have useful : 0 < frameLen capacity body.length ∨ body = [] ∧ fin = true := by
      by_cases empty : body = []
      · exact .inr ⟨empty, something.resolve_left (not_not.mpr empty)⟩
      · have long := List.length_pos_iff.mpr empty
        have more : capacity ≠ 1 + encodeVarintLen body.length := fun same => full ⟨empty, same⟩
        rw [frameLen]
        omega
    rw [sendDataFrame_written_iff carried known atBody room rfl useful]
    constructor
    · exact fun left => ⟨fun filled same => absurd ⟨filled, same⟩ full, left⟩
    · exact fun registered => registered.left

/-! ## What comes before the body -/

variable {error : Error}

theorem ofError_undone (undone : error ≠ .done) : Http3Error.ofError error ≠ .done := by
  intro same
  cases error with
  | done => exact undone rfl
  | _ => cases same

theorem sendCapacity_undone {send : SendBuf} (failed : send.capacity = .error error) :
    error ≠ .done := by
  unfold SendBuf.capacity at failed
  split at failed
  · cases failed
    exact fun impossible => nomatch impossible
  · cases failed

theorem streamCapacity_undone {map : StreamMap}
    (failed : map.streamCapacity id = .error error) : error ≠ .done := by
  unfold StreamMap.streamCapacity at failed
  split at failed
  · cases failed
    exact fun impossible => nomatch impossible
  split at failed
  case h_1 asked =>
    cases failed
    exact sendCapacity_undone asked
  · cases failed

private theorem streamWritable_undone {map after : StreamMap}
    (failed : map.streamWritable id len = (.error error, after)) : error ≠ .done := by
  unfold StreamMap.streamWritable at failed
  split at failed
  case h_1 reason asked =>
    cases failed
    exact streamCapacity_undone asked
  split at failed
  · cases failed
  dsimp only at failed
  split at failed
  · cases failed
    exact fun impossible => nomatch impossible
  split at failed
  case h_1 asked =>
    cases failed
    exact sendCapacity_undone asked
  · cases failed

theorem streamWrite_undone {len : Nat} {buf : Bytes} {fin : Bool} (bidi : isBidi id = true)
    (known : id ≤ vintMax) (room : StreamMap.Room state.2.streams id (buf.length + len) stream) :
    Ends (fun _ after => ∃ new, StreamMap.Room after.2.streams id len new)
      (fun error _ => error ≠ .done)
      ((call (QuicConn.streamWrite id buf fin) : ConnM Nat).run state) := by
  have undone := @StreamMap.streamWrite_undone _ _ _ _ fin
    (room.mono (Nat.le_add_right buf.length len)) (.inl bidi) known
  refine ends_call.mpr (ends_bind.mpr (ends_zoom.mpr ?_))
  change Ends _ _ (state.2.streams.streamWrite id buf fin)
  rcases @StreamMap.streamWrite_room _ _ len _ _ fin room (.inl bidi) with
    ⟨error, after, refused, _⟩ | ⟨after, new, _, _, taken, _, _, left, _⟩
  · rw [refused] at undone ⊢
    exact ofError_undone fun same => undone (congrArg Except.error same)
  · rw [taken]
    exact ⟨new, left⟩

/-- Neither the check nor the writes behind it make a caller wait with `Done`. -/
theorem sendHeaderBlock_undone (bidi : isBidi id = true) (known : id ≤ vintMax)
    (headerBlock : Bytes) (fin : Bool) :
    Ends (fun _ _ => True) (fun error _ => error ≠ .done)
      ((sendHeaderBlock id headerBlock fin).run state) := by
  unfold sendHeaderBlock
  refine ends_bind.mpr (ends_ofExcept.mpr ⟨fun header _ => ?_, fun error made => ?_⟩)
  case refine_2 =>
    by_cases small : headerBlock.length ≤ vintMax
    · rw [frameHeader_small (by decide) small] at made
      cases made
    · rw [frameHeader_large (by decide) (Nat.not_le.mp small)] at made
      cases made
      intro impossible
      cases impossible
  refine ends_bind.mpr (ends_attempt.mpr (ends_onStreams ?_ ?_))
  · intro writable streams answer
    cases writable with
    | false =>
        have waits : ∀ conn : QuicConn, Ends (fun _ _ => True) (fun error _ => error ≠ .done)
            ((onStream id (Http3Stream.own
              (modify ({ · with headerBlock := some (headerBlock, fin) }))) >>= fun _ =>
                throw .streamBlocked : ConnM Unit).run (state.1, conn)) := by
          intro conn
          refine ends_bind.mpr ?_
          cases found : state.1.streams.get? id with
          | none =>
              change Ends _ _ (onStream id _ (state.1, conn))
              rw [onStream, found]
              intro impossible
              cases impossible
          | some own =>
              refine (@onStream_ends _ (state.1, conn) id own found _ _ _).mpr ?_
              refine Http3Stream.ends_own.mpr (ends_modify.mpr (ends_throw.mpr ?_))
              intro impossible
              cases impossible
        refine ends_bind.mpr (ends_attempt.mpr (ends_onStreams ?_ ?_))
        · exact fun _ _ _ => waits _
        · exact fun _ _ _ => waits _
    | true =>
        obtain ⟨rfl, stream, room⟩ := streamWritable_true answer
        refine ends_bind.mpr ((streamWrite_undone bidi known room).mono ?_ fun _ _ undone => undone)
        rintro _ middle ⟨new, left⟩
        refine ends_bind.mpr ((@streamWrite_undone middle id new 0 headerBlock fin bidi known left).mono
          ?_ fun _ _ undone => undone)
        intro _ after _
        refine ends_bind.mpr (ends_update.mpr ?_)
        split
        · exact trivial
        · exact trivial
  · intro error streams failed
    refine ends_bind.mpr ?_
    change Ends _ _ (Except.ok (), _)
    exact ofError_undone (streamWritable_undone failed)

/-- Whatever keeps `send_body` from the body is told as an error. -/
theorem sendBody_before (known : id ≤ vintMax) (something : body ≠ [] ∨ fin = true)
    (before : ∀ capacity stream, ¬ AtBody state id capacity stream) :
    Ends (fun _ _ => False) (fun error _ => error ≠ .done) ((sendBody id body fin).run state) := by
  unfold sendBody
  refine ends_bind.mpr (ends_get.mpr ?_)
  dsimp only
  split
  · exact fun impossible => nomatch impossible
  case isFalse request =>
  split
  · exact fun impossible => nomatch impossible
  case h_2 own found =>
    split
    · refine ends_bind.mpr (ends_update.mpr (ends_bind.mpr
        ((sendHeaderBlock_undone (isBidi_of_request (not_not.mp request)) known _ _).mono ?_
          fun _ _ undone => undone)))
      exact fun _ _ _ impossible => nomatch impossible
    case h_2 waiting =>
      split
      · exact fun impossible => nomatch impossible
      case isFalse sent =>
      split
      case isTrue nothing =>
        rcases something with filled | rfl
        · simp [filled] at nothing
        · simp at nothing
      split
      case h_1 error failed =>
        refine ends_bind.mpr ?_
        change Ends _ _ (Except.ok (), _)
        exact ofError_undone (streamCapacity_undone failed)
      case h_2 capacity asked =>
        obtain ⟨stream, room⟩ := StreamMap.Room.of_capacity asked (Nat.zero_le _)
        have atBody : AtBody state id capacity stream :=
          ⟨not_not.mp request, ⟨own, found, waiting, by simpa using sent⟩, room.found, asked⟩
        exact absurd atBody (before capacity stream)

/-- A body that is not taken whole is woken up for its rest, where a registration that the call does not
renew is there already. -/
theorem send_body_wakes_iff (carried : state.2.Carried) (known : id ≤ vintMax)
    (something : body ≠ [] ∨ fin = true) :
    LeavesWoken state id body fin ↔
      ∀ capacity stream, AtBody state id capacity stream → Registered capacity stream body := by
  by_cases reaches : ∃ capacity stream, AtBody state id capacity stream
  · obtain ⟨capacity, stream, atBody⟩ := reaches
    rw [sendDataFrame_wakes_iff carried known something atBody]
    constructor
    · intro registered other found again
      obtain rfl : found = stream := Option.some.inj (again.found.symm.trans atBody.found)
      obtain rfl : other = capacity := Except.ok.inj (again.capacity.symm.trans atBody.capacity)
      exact registered
    · exact fun registered => registered capacity stream atBody
  · refine iff_of_true ?_ fun capacity stream atBody => absurd ⟨capacity, stream, atBody⟩ reaches
    refine (sendBody_before known something fun capacity stream atBody =>
      reaches ⟨capacity, stream, atBody⟩).mono (fun _ _ impossible => impossible.elim) ?_
    exact fun _ _ undone done => absurd done undone

/-! ## A client with little room -/

/-- The headers of a request were sent, and the stream takes `capacity` bytes more. -/
def sentHeaders (limit : Nat) : Option (Http3Connection × QuicConn) :=
  (exec World.step (.new false 100 100 {} false)
    [.peerParams { Sender.sampleLimits with initialMaxStreamDataBidiRemote := limit },
      .setPriority 0 0 false]).map fun world =>
    let client := Sender.client world.map
    Sender.perform (client.http3, client.conn) (.headers 0 [⟨[97], [98]⟩] false)

def isAtBody (capacity : Nat) (state : Http3Connection × QuicConn) : Bool :=
  decide (state.2.streamCapacity 0 = .ok capacity) &&
    (state.1.streams.get? 0).any (fun own => own.headerBlock.isNone && own.localInitialized) &&
    (state.2.streams.get 0).any (fun stream =>
      decide (stream.writeThresh = 1 ∧ stream.send.finOff = none))

theorem exists_atBody_of_limit {limit capacity : Nat}
    (sent : (sentHeaders limit).any (isAtBody capacity) = true) :
    ∃ state stream, state.2.Carried ∧ AtBody state 0 capacity stream ∧ stream.writeThresh = 1 ∧
      stream.send.finOff = none := by
  obtain ⟨state, made, holds⟩ := (Option.any_eq_true _ _).mp sent
  obtain ⟨world, steps, rfl⟩ := Option.map_eq_some_iff.mp made
  simp only [isAtBody, Bool.and_eq_true, decide_eq_true_eq, Option.any_eq_true,
    Option.isNone_iff_eq_none] at holds
  obtain ⟨⟨known, own, found, none, sent⟩, stream, held, threshold⟩ := holds
  have carried := (Sender.client_fresh ⟨_, _, _, _, _, .of_exec steps⟩ rfl).carried
  exact ⟨_, stream, carried_sendHeaders 0 _ _ (_, _) carried,
    ⟨rfl, ⟨own, found, none, sent⟩, held, known⟩, threshold⟩

/-- Room for two bytes is just that of the frame header of the body. -/
theorem full_stream_not_woken :
    ∃ state : Http3Connection × QuicConn, state.2.Carried ∧
      (sendBody 0 [1, 2, 3] true).run state = (.error .done, state) ∧
      ¬ LeavesWoken state 0 [1, 2, 3] true := by
  obtain ⟨state, stream, carried, atBody, threshold, _⟩ :=
    @exists_atBody_of_limit 10 2 (by decide +kernel)
  have filled : ([1, 2, 3] : Bytes) ≠ [] := by simp
  refine ⟨state, carried, ?_, fun woken => ?_⟩
  · exact (atBody.sendBody (.inl filled)).trans (sendDataFrame_full filled rfl)
  · have registered := (sendDataFrame_wakes_iff carried (by decide) (.inl filled) atBody).mp woken
    have high := (registered.full filled rfl).2
    rw [threshold] at high
    exact absurd high (by decide)

/-- Two of three bytes are written. -/
theorem send_body_wakes_rest :
    ∃ state : Http3Connection × QuicConn, state.2.Carried ∧
      (∃ after, (sendBody 0 [1, 2, 3] true).run state = (.ok 2, after)) ∧
      LeavesWoken state 0 [1, 2, 3] true := by
  obtain ⟨state, stream, carried, atBody, _, unknown⟩ :=
    @exists_atBody_of_limit 12 4 (by decide +kernel)
  have filled : ([1, 2, 3] : Bytes) ≠ [] := by simp
  have opened : OpenFor state.2 0 4 stream := ⟨atBody.found, unknown, atBody.capacity⟩
  obtain ⟨after, run, _⟩ := @sendDataFrame_progresses state 0 4 stream [1, 2, 3] true 2 opened
    (by decide) (by decide) (by decide) (by decide) (.inl (by decide)) (by decide)
  refine ⟨state, carried, ⟨after, (atBody.sendBody (.inl filled)).trans run⟩, ?_⟩
  refine (send_body_wakes_iff carried (by decide) (.inl filled)).mpr fun capacity other again => ?_
  obtain rfl : capacity = 4 := Except.ok.inj (again.capacity.symm.trans atBody.capacity)
  exact ⟨fun _ full => absurd full (by decide), fun _ _ _ enough => absurd enough (by decide)⟩

end Http3Connection

end Tquic.H3
