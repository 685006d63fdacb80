import Tquic.Connection.SendableQueue

/-! Writes to a stream that has room for them. What fits into the capacity that was asked for
before is taken whole. -/

set_option autoImplicit false

namespace Tquic.Connection

open Lib

namespace SendBuf

theorem write_fits {send : SendBuf} {data : Bytes} {fin : Bool} (running : send.error = none)
    (room : data.length ≤ send.maxData - send.writeOff) (open' : send.finOff = none) :
    ∃ after, send.write data fin = .ok (data.length, after) := by
  have capacity : send.capacity = .ok (send.maxData - send.writeOff) := by
    rw [SendBuf.capacity, running]
  rw [write, capacity, open']
  dsimp only
  rw [if_neg (Nat.not_lt.mpr room), if_neg (Nat.not_lt.mpr room)]
  exact ⟨_, rfl⟩

theorem write_error {send : SendBuf} {data : Bytes} {fin : Bool} {error : Error}
    (failed : send.write data fin = .error error) :
    error = .finalSizeError ∨ ∃ errorCode, error = .streamStopped errorCode := by
  unfold write at failed
  dsimp only at failed
  split at failed
  case h_1 reason stopped =>
    unfold capacity at stopped
    split at stopped
    · cases stopped
      cases failed
      exact .inr ⟨_, rfl⟩
    · cases stopped
  case h_2 =>
    split_ifs at failed
    all_goals exact .inl (Except.error.inj failed).symm

theorem write_ended {send : SendBuf} {data : Bytes} {fin : Bool} (sound : send.Sound)
    (ended : send.finOff.isSome = true) (filled : data ≠ []) :
    ∃ error, send.write data fin = .error error := by
  obtain ⟨finOff, known⟩ := Option.isSome_iff_exists.mp ended
  have long := List.length_pos_iff.mpr filled
  cases wrote : send.write data fin with
  | error error => exact ⟨error, rfl⟩
  | ok taken =>
    have bound := ((write_spec wrote).final finOff known).1
    have final := sound.final known
    omega

end SendBuf

namespace StreamMap

variable {map : StreamMap} {stream : Stream}

private theorem getOrCreate_found {id : Nat} {byLocal : Bool}
    (found : map.get id = some stream) (small : id ≤ vintMax) :
    map.getOrCreate id byLocal = (.ok stream, map) := by
  rw [getOrCreate, if_neg (Nat.not_lt.mpr small), found]

/-- What the stream and the connection can still take. -/
structure Room (map : StreamMap) (id len : Nat) (stream : Stream) : Prop where
  found : map.get id = some stream
  running : stream.send.error = none
  connection : len ≤ map.sendCapacity.capacity
  window : len ≤ stream.send.maxData - stream.send.writeOff

theorem Room.of_capacity {id capacity len : Nat}
    (asked : map.streamCapacity id = .ok capacity) (fits : len ≤ capacity) :
    ∃ stream, Room map id len stream := by
  unfold streamCapacity at asked
  split at asked
  · cases asked
  case h_2 stream found =>
    split at asked
    · cases asked
    case h_2 window known =>
      cases asked
      unfold SendBuf.capacity at known
      split at known
      · cases known
      case h_2 running =>
        cases known
        exact ⟨stream, found, running, by omega, by omega⟩

theorem Room.mono {id len less : Nat}
    (room : Room map id len stream) (fewer : less ≤ len) : Room map id less stream :=
  ⟨room.found, room.running, fewer.trans room.connection, fewer.trans room.window⟩

/-- The stream is not one that only the peer sends on. -/
def MayWrite (map : StreamMap) (id : Nat) : Prop :=
  isBidi id = true ∨ isLocal id map.isServer = true

theorem MayWrite.passes {id : Nat} (may : MayWrite map id) :
    (!isBidi id && !isLocal id map.isServer) = false := by
  rcases may with bidi | own
  · rw [bidi]
    rfl
  · rw [own, Bool.not_true, Bool.and_false]

/-- With room, a write comes to the send buffer of its stream. -/
theorem streamWrite_reaches {map : StreamMap} {id : Nat} {stream : Stream} {buf : Bytes} {fin : Bool}
    (room : Room map id buf.length stream) (may : MayWrite map id) (small : id ≤ vintMax) :
    ∃ marked : StreamMap, marked.get id = some stream ∧ marked.sendCapacity.capacity =
        map.sendCapacity.capacity ∧
      map.streamWrite id buf fin =
        match stream.send.write buf fin with
        | .error error => (.error error, marked.markWritable id false)
        | .ok (written, send) =>
          marked.noteWritten id { stream with send } stream.isWritable stream.isSendable false
            (buf.length = 0 && fin) buf.length buf.length written := by
  have connection := room.connection
  obtain ⟨blockedAt, started⟩ := World.noteBlocked_eq map buf.length
  have marked := (World.updateDataBlockedAt_quiet map blockedAt).1
  have found : (map.updateDataBlockedAt blockedAt).get id = some stream :=
    (marked.get id).trans room.found
  have capacity : (map.updateDataBlockedAt blockedAt).sendCapacity.capacity =
      map.sendCapacity.capacity := rfl
  refine ⟨map.updateDataBlockedAt blockedAt, found, capacity, ?_⟩
  rw [streamWrite, may.passes, if_neg Bool.false_ne_true, started]
  dsimp only
  rw [getOrCreate_found found small]
  dsimp only
  have idle : ¬(decide ((map.updateDataBlockedAt blockedAt).sendCapacity.capacity = 0) &&
      !buf.isEmpty) = true := by
    rw [capacity]
    cases buf with
    | nil => simp
    | cons byte rest =>
      simp only [List.length_cons] at connection
      have positive : map.sendCapacity.capacity ≠ 0 := by omega
      simp [positive]
  have enough : decide ((map.updateDataBlockedAt blockedAt).sendCapacity.capacity < buf.length) =
      false := by
    rw [capacity, decide_eq_false_iff_not]
    omega
  rw [if_neg idle, enough]
  rfl

private theorem noteWritten_whole (map : StreamMap) (id : Nat) (stream : Stream)
    (wasWritable wasSendable emptyFin : Bool) (len : Nat) :
    ∃ after, map.noteWritten id stream wasWritable wasSendable false emptyFin len len len =
        (.ok len, after) ∧
      after.get id = some { stream with send := stream.send.updateBlockedAt none } ∧
      after.sendCapacity.capacity = map.sendCapacity.capacity - len := by
  have whole : ¬(decide (len = 0) && decide (len > 0)) = true := by
    rw [Bool.and_eq_true, decide_eq_true_eq, decide_eq_true_eq]
    omega
  have blocked : map.noteBlocked id stream len len =
      (map.setStream id { stream with send := stream.send.updateBlockedAt none }).markBlocked id
        false 0 := if_neg (Nat.lt_irrefl len)
  obtain ⟨quiet, _, credit, _⟩ :=
    noteSendable_spec (map.noteBlocked id stream len len) id stream wasSendable emptyFin
  generalize queued : (map.noteBlocked id stream len len).noteSendable id stream wasSendable emptyFin =
    queue at quiet credit
  have found := quiet.get id
  rw [blocked] at found credit
  refine ⟨_, by rw [noteWritten, queued, if_neg whole], ?_, ?_⟩
  all_goals
    dsimp only
    rw [if_neg (Nat.lt_irrefl len), Bool.and_false, if_neg Bool.false_ne_true]
  · refine Eq.trans ?_ (found.trans (get_setStream map id _))
    split <;> rfl
  · have same : queue.sendCapacity = map.sendCapacity := credit
    split <;> exact congrArg (·.capacity - len) same

/-- A write that the send buffer takes uses up that much of the room. Apart from its send buffer the
stream stays as it was. -/
theorem streamWrite_taken {id : Nat} {buf : Bytes} {fin : Bool}
    {send : SendBuf} (room : Room map id buf.length stream) (may : MayWrite map id)
    (small : id ≤ vintMax) (wrote : stream.send.write buf fin = .ok (buf.length, send)) :
    ∃ after, map.streamWrite id buf fin = (.ok buf.length, after) ∧
      after.get id = some { stream with send := send.updateBlockedAt none } ∧
      after.sendCapacity.capacity = map.sendCapacity.capacity - buf.length := by
  obtain ⟨marked, found, capacity, reaches⟩ := @streamWrite_reaches _ _ _ _ fin room may small
  rw [wrote] at reaches
  dsimp only at reaches
  obtain ⟨after, noted, written, credit⟩ := noteWritten_whole marked id { stream with send }
    stream.isWritable stream.isSendable (decide (buf.length = 0) && fin) buf.length
  exact ⟨after, reaches.trans noted, written, by rw [credit, capacity]⟩

/-- With room for all of it, a write takes every byte, or its identifier or buffer is refused. -/
theorem streamWrite_room {map : StreamMap} {id more : Nat} {stream : Stream} {buf : Bytes} {fin : Bool}
    (room : Room map id (buf.length + more) stream) (may : MayWrite map id) :
    (∃ error after, map.streamWrite id buf fin = (.error error, after) ∧
        (vintMax < id ∨ ∃ reason, stream.send.write buf fin = .error reason)) ∨
      ∃ after new send written, map.streamWrite id buf fin = (.ok buf.length, after) ∧ id ≤ vintMax ∧
        stream.send.write buf fin = .ok (written, send) ∧ Room after id more new ∧
          new.send.finOff = send.finOff := by
  have fits := room.mono (Nat.le_add_right buf.length more)
  by_cases small : id ≤ vintMax
  case neg =>
    obtain ⟨blockedAt, started⟩ := World.noteBlocked_eq map buf.length
    have refused : map.streamWrite id buf fin =
        (.error .protocolViolation, map.updateDataBlockedAt blockedAt) := by
      rw [streamWrite, may.passes, if_neg Bool.false_ne_true, started]
      dsimp only
      rw [getOrCreate, if_pos (Nat.not_le.mp small)]
    exact .inl ⟨_, _, refused, .inl (Nat.not_le.mp small)⟩
  cases wrote : stream.send.write buf fin with
  | error reason =>
    obtain ⟨marked, _, _, reaches⟩ := @streamWrite_reaches _ _ _ _ fin fits may small
    rw [wrote] at reaches
    exact .inl ⟨_, _, reaches, .inr ⟨reason, rfl⟩⟩
  | ok taken =>
    obtain ⟨count, send⟩ := taken
    have written := SendBuf.write_spec wrote
    have window := room.window
    have whole : count = buf.length := by
      rw [written.count]
      omega
    subst whole
    obtain ⟨after, success, found, credit⟩ := streamWrite_taken fits may small wrote
    refine .inr ⟨after, _, send, _, success, small, rfl, ⟨found, ?_, ?_, ?_⟩, rfl⟩
    · exact (congrArg SendBuf.error written.shape).trans room.running
    · have connection := room.connection
      rw [credit]
      omega
    · change more ≤ send.maxData - send.writeOff
      rw [written.shape]
      dsimp only
      omega

theorem streamWrite_undone {map : StreamMap} {id : Nat} {stream : Stream} {buf : Bytes} {fin : Bool}
    (room : Room map id buf.length stream) (may : MayWrite map id) (small : id ≤ vintMax) :
    (map.streamWrite id buf fin).1 ≠ .error .done := by
  obtain ⟨marked, _, _, reaches⟩ := @streamWrite_reaches _ _ _ _ fin room may small
  cases wrote : stream.send.write buf fin with
  | error reason =>
    rw [reaches, wrote]
    rcases SendBuf.write_error wrote with rfl | ⟨_, rfl⟩
    all_goals
      intro impossible
      cases impossible
  | ok taken =>
    rcases @streamWrite_room map id 0 stream buf fin room may with
      ⟨_, _, _, large | ⟨reason, failed⟩⟩ | ⟨_, _, _, _, success, _⟩
    · exact absurd large (Nat.not_lt.mpr small)
    · rw [wrote] at failed
      cases failed
    · rw [success]
      intro impossible
      cases impossible

theorem streamWrite_first {id more : Nat} {buf : Bytes}
    (room : Room map id (buf.length + more) stream) (may : MayWrite map id) (filled : buf ≠ [])
    (sound : stream.send.Sound) :
    (∃ error after, map.streamWrite id buf false = (.error error, after)) ∨
      ∃ after new, map.streamWrite id buf false = (.ok buf.length, after) ∧ id ≤ vintMax ∧
        Room after id more new ∧ new.send.finOff = none := by
  rcases streamWrite_room room may with
    ⟨error, after, refused, _⟩ | ⟨after, new, send, written, taken, small, wrote, left, same⟩
  · exact .inl ⟨error, after, refused⟩
  · refine .inr ⟨after, new, taken, small, left, ?_⟩
    have spec := SendBuf.write_spec wrote
    have long := List.length_pos_iff.mpr filled
    have unknown : stream.send.finOff = none := by
      cases known : stream.send.finOff with
      | none => rfl
      | some finOff =>
        have bound := (spec.final finOff known).1
        have final := sound.final known
        omega
    rw [same, spec.shape]
    dsimp only
    rw [if_neg (fun carried => Bool.false_ne_true carried.1), unknown]

theorem streamWrite_last {map : StreamMap} {id : Nat} {stream : Stream} {buf : Bytes} {fin : Bool}
    (room : Room map id buf.length stream) (may : MayWrite map id) (small : id ≤ vintMax)
    (unknown : stream.send.finOff = none) :
    ∃ after, map.streamWrite id buf fin = (.ok buf.length, after) := by
  obtain ⟨_, fits⟩ := @SendBuf.write_fits stream.send buf fin room.running room.window unknown
  rcases @streamWrite_room map id 0 stream buf fin room may with
    ⟨_, _, _, large | ⟨reason, failed⟩⟩ | ⟨after, _, _, _, taken, _⟩
  · exact absurd large (Nat.not_lt.mpr small)
  · rw [fits] at failed
    cases failed
  · exact ⟨after, taken⟩

/-! ## Waiting for room -/

theorem noteWritable_get (map : StreamMap) (id : Nat) (stream : Stream) (capacity len : Nat) :
    ∃ send, (map.noteWritable id stream capacity len).get id = some { stream with send } := by
  unfold noteWritable
  dsimp only
  split
  · split
    · exact ⟨_, get_setStream map id _⟩
    · exact ⟨_, get_setStream map id _⟩
  · split
    · exact ⟨_, get_setStream map id _⟩
    · exact ⟨_, get_setStream map id _⟩

/-- Room that is asked for in vain becomes the threshold of the stream. Otherwise nothing changes. -/
theorem streamWritable_threshold {map : StreamMap} {id len capacity : Nat} {stream : Stream}
    (found : map.get id = some stream) (known : map.streamCapacity id = .ok capacity) :
    ∃ send, (map.streamWritable id len).2.get id =
      some { stream with
        send
        writeThresh := if len ≤ capacity then stream.writeThresh else max 1 len } := by
  unfold streamWritable
  rw [known]
  dsimp only
  split
  case isTrue => exact ⟨stream.send, found⟩
  case isFalse =>
    obtain ⟨blockedAt, started⟩ := World.noteBlocked_eq map len
    have marked := (World.updateDataBlockedAt_quiet map blockedAt).1
    rw [started, marked.get, found]
    dsimp only
    split
    · exact ⟨stream.send, get_setStream _ id _⟩
    · exact noteWritable_get _ id _ _ _

theorem wantWrite_get {id : Nat}
    (found : map.get id = some stream) (bidi : stream.bidi = true) (flag : Bool) :
    (map.wantWrite id flag).2.get id = some { stream with wantWrite := flag } := by
  rw [wantWrite, want, found]
  dsimp only
  rw [Stream.markWantwrite, bidi]
  exact get_setStream map id _

end StreamMap

end Tquic.Connection
