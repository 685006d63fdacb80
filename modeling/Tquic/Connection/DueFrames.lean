import Tquic.Connection.SendPacket
import Tquic.Connection.SendableQueue
import Tquic.FrameLengths
import Tquic.FrameRoundTrip

/-! The frames that are due for a packet, in the order of their writers, and what the writers of
control frames make of them. -/

set_option autoImplicit false

namespace Tquic.Connection

open Lib
open StreamMap (streamHeaderWireLen maxStreamOverhead)

/-! ## One frame -/

/-- What becomes of a frame that is written into a buffer. -/
inductive Attempt (frame : Frame) (outLen : Nat) (st : FrameWriteStatus) :
    Except Error FrameWriteStatus → Prop where
  | full (short : outLen < st.written + frame.wireLen) : Attempt frame outLen st (.error .done)
  | fails {error : Error} (fits : st.written + frame.wireLen ≤ outLen) (other : error ≠ .done)
      (invalid : ¬ frame.WellFormed) : Attempt frame outLen st (.error error)
  | writes {bytes : Bytes} (fits : st.written + frame.wireLen ≤ outLen)
      (len : bytes.length = frame.wireLen) :
      Attempt frame outLen st
        (.ok { st with payload := st.payload ++ bytes, frames := st.frames ++ [frame] })

private theorem toBytes_ok {frame : Frame} (wellFormed : frame.WellFormed) {room : Nat}
    (fits : frame.wireLen ≤ room) : ∃ len, frame.toBytes room = .ok (frame.image, len) := by
  have written := Frame.writes_image wellFormed { written := [], room }
    (by rw [Frame.length_image wellFormed]; exact fits)
  unfold Frame.toBytes
  rw [written]
  exact ⟨_, rfl⟩

theorem writeFrameToPacket_attempt (frame : Frame) (outLen : Nat) (st : FrameWriteStatus) :
    Attempt frame outLen st (writeFrameToPacket frame outLen st) := by
  unfold writeFrameToPacket
  by_cases short : st.written + frame.wireLen > outLen
  · rw [if_pos short]
    exact .full short
  · rw [if_neg short]
    have fits : st.written + frame.wireLen ≤ outLen := Nat.le_of_not_lt short
    cases encoded : frame.toBytes (outLen - st.written) with
    | error error =>
      refine .fails fits ?_ fun wellFormed => ?_
      · unfold Frame.toBytes at encoded
        split at encoded
        · next ran =>
          cases encoded
          exact (Frame.spends_frame frame).fails _ _ ran
        · cases encoded
      · obtain ⟨len, ok⟩ := toBytes_ok wellFormed (Nat.le_sub_of_add_le' fits)
        rw [ok] at encoded
        cases encoded
    | ok result =>
      refine .writes fits ?_
      unfold Frame.toBytes at encoded
      split at encoded
      · cases encoded
      · next ran =>
        cases encoded
        have length := (Frame.spends_frame frame).length _ _ _ ran
        rw [List.length_nil, Nat.zero_add] at length
        exact length

theorem number_filled (number : Nat) : 0 < 1 + encodeVarintLen number :=
  Nat.lt_of_lt_of_le Nat.zero_lt_one (Nat.le_add_right _ _)

/-- A frame with two variable-length fields is no shorter. -/
theorem varints_long (first second : Nat) :
    3 ≤ 1 + encodeVarintLen first + encodeVarintLen second := by
  have one := encodeVarintLen_pos first
  have two := encodeVarintLen_pos second
  omega

/-- A frame of one or two bytes has no field that is too large. -/
theorem wellFormed_of_short {frame : Frame} (filled : 0 < frame.wireLen)
    (short : frame.wireLen < 3) : frame.WellFormed := by
  have small : ∀ {value : Nat}, 1 + encodeVarintLen value < 3 → value ≤ vintMax := by
    intro value one
    unfold encodeVarintLen at one
    unfold vintMax
    split_ifs at one <;> omega
  have long : ∀ first second,
      1 + encodeVarintLen first + encodeVarintLen second ≤ frame.wireLen → frame.WellFormed := by
    intro first second covered
    have three := varints_long first second
    omega
  cases frame with
  | paddings => exact filled
  | ping => trivial
  | handshakeDone => trivial
  | pathChallenge => trivial
  | pathResponse => trivial
  | maxData max => exact small short
  | maxStreams bidi max => exact small short
  | dataBlocked max => exact small short
  | streamsBlocked bidi max => exact small short
  | retireConnectionId seqNum => exact small short
  | newToken token =>
    have first := encodeVarintLen_pos token.length
    simp only [Frame.wireLen] at short
    exact (show token.length ≤ vintMax by unfold vintMax; omega)
  | ack ackDelay ackRanges ecnCounts =>
    simp only [Frame.wireLen, Frame.ackWireLen] at long filled
    split at filled
    · exact absurd filled (lt_irrefl 0)
    · next first rest shape =>
      rw [shape] at long
      refine long (first.stop - 1) ackDelay ?_
      cases ecnCounts <;> dsimp only <;> omega
  | resetStream streamId errorCode finalSize =>
    exact long streamId errorCode (Nat.le_add_right _ _)
  | stopSending streamId errorCode => exact long streamId errorCode (le_refl _)
  | maxStreamData streamId max => exact long streamId max (le_refl _)
  | streamDataBlocked streamId max => exact long streamId max (le_refl _)
  | newConnectionId seqNum retirePriorTo connId resetToken =>
    exact long seqNum retirePriorTo (by simp only [Frame.wireLen]; omega)
  | connectionClose errorCode frameType reason =>
    exact long errorCode frameType (by simp only [Frame.wireLen]; omega)
  | applicationClose errorCode reason =>
    exact long errorCode reason.length (Nat.le_add_right _ _)
  | crypto offset length data =>
    simp only [Frame.wireLen] at short
    omega
  | stream streamId offset length fin data =>
    exact long streamId offset (by simp only [Frame.wireLen]; omega)
  | pathAbandon dcidSeqNum errorCode reason =>
    simp only [Frame.wireLen] at short
    omega
  | pathStatus dcidSeqNum seqNum status =>
    simp only [Frame.wireLen] at short
    omega

/-! ## Packets that stop too early -/

def framesLen (frames : List Frame) : Nat := (frames.map Frame.wireLen).sum

/-- After `w` bytes, the frames that are due come to one for which there is no room when something
was written, but too little for a sample. -/
def StallsFrom (pktNumLen room w : Nat) (due : List Frame) : Prop :=
  ∃ sent next rest, due = sent ++ next :: rest ∧ 0 < w + framesLen sent ∧
    pktNumLen + (w + framesLen sent) < minPayloadLen ∧ room < w + framesLen sent + next.wireLen

section Stalls

variable {pktNumLen room w : Nat} {frame : Frame} {due : List Frame}

theorem not_stallsFrom_nil : ¬ StallsFrom pktNumLen room w [] := by
  rintro ⟨sent, next, rest, split, _⟩
  cases sent <;> cases split

theorem not_stallsFrom_full (full : minPayloadLen ≤ pktNumLen + w) :
    ¬ StallsFrom pktNumLen room w due := by
  rintro ⟨sent, next, rest, _, _, short, _⟩
  omega

/-- What is due after enough for a sample does not matter. -/
theorem stallsFrom_congr {other : List Frame} (same : pktNumLen + w < minPayloadLen → due = other) :
    StallsFrom pktNumLen room w due ↔ StallsFrom pktNumLen room w other := by
  by_cases short : pktNumLen + w < minPayloadLen
  · rw [same short]
  · have full := Nat.le_of_not_lt short
    exact iff_of_false (not_stallsFrom_full full) (not_stallsFrom_full full)

theorem stallsFrom_fits (fits : w + frame.wireLen ≤ room) :
    StallsFrom pktNumLen room w (frame :: due) ↔
      StallsFrom pktNumLen room (w + frame.wireLen) due := by
  have length : ∀ sent, w + framesLen (frame :: sent) = w + frame.wireLen + framesLen sent := by
    intro sent
    simp only [framesLen, List.map_cons, List.sum_cons, Nat.add_assoc]
  constructor
  · rintro ⟨sent, next, rest, split, some, short, long⟩
    cases sent with
    | nil =>
      cases split
      exact absurd long (Nat.not_lt_of_le fits)
    | cons first sent =>
      cases split
      rw [length] at some short long
      exact ⟨sent, next, rest, rfl, some, short, long⟩
  · rintro ⟨sent, next, rest, rfl, some, short, long⟩
    refine ⟨frame :: sent, next, rest, rfl, ?_, ?_, ?_⟩ <;> rw [length] <;> assumption

theorem stallsFrom_long (roomy : minPayloadLen ≤ room) (long : room < w + frame.wireLen) :
    StallsFrom pktNumLen room w (frame :: due) ↔ 0 < w ∧ pktNumLen + w < minPayloadLen := by
  constructor
  · rintro ⟨sent, next, rest, split, some, short, _⟩
    cases sent with
    | nil => exact ⟨some, short⟩
    | cons first sent =>
      cases split
      simp only [framesLen, List.map_cons, List.sum_cons] at short
      omega
  · rintro ⟨some, short⟩
    exact ⟨[], frame, due, rfl, some, short, long⟩

end Stalls

/-- Something was written, but too little for a sample. -/
def FrameWriteStatus.Tiny (st : FrameWriteStatus) (pktNumLen : Nat) : Prop :=
  0 < st.written ∧ pktNumLen + st.written < minPayloadLen

namespace FrameWriter

/-- The packet number has a byte, and there is room for a payload that is just long enough. -/
structure Ample (pktNumLen room : Nat) : Prop where
  numbered : 0 < pktNumLen
  roomy : minPayloadLen ≤ room

/-- The frames that are due decide whether the packet stalls, and a packet without frames is
empty. -/
structure Poised (pktNumLen room : Nat) (stalled : Prop) (due : Nat → FrameWriter → List Frame)
    (conn : FrameWriter) : Prop where
  blank : conn.st.frames = [] → conn.st.payload = []
  decides : StallsFrom pktNumLen room conn.st.written (due conn.st.written conn) ↔ stalled

/-- A writer ends with `Done` and a tiny packet exactly if the packet stalls. -/
def Halts (pktNumLen : Nat) (stalled : Prop) (error : Error) (conn : FrameWriter) : Prop :=
  (error = .done ∧ conn.st.Tiny pktNumLen) ↔ stalled

/-- The steps leave the frames in `due` to be written, unless they end the packet. -/
abbrev Goes (pktNumLen room : Nat) (stalled : Prop) (due : Nat → FrameWriter → List Frame) :
    Option (Except Error Unit × FrameWriter) → Prop :=
  Fuelled.Leads (¬ stalled) (Poised pktNumLen room stalled due) (Halts pktNumLen stalled)

/-! ## The frames that are due -/

def thenDue (frames : FrameWriter → List Frame) (later : Nat → FrameWriter → List Frame) :
    Nat → FrameWriter → List Frame :=
  fun w conn => frames conn ++ later (w + framesLen (frames conn)) conn

/-- Whether a CRYPTO frame is written after `w` bytes. -/
def cryptoDue (room : Nat) (pktType : PacketType) (w : Nat) (conn : FrameWriter) : Bool :=
  pktType ≠ .zeroRtt && conn.crypto.ready && room - w > maxCryptoOverhead && !conn.isClosing &&
    conn.path.isActive && room - w > cryptoHeaderWireLen conn.crypto.sendOff

def unacked (streams : StreamMap) : Frame → Bool
  | .stream streamId offset length _ _ =>
    (streams.get streamId).any fun stream =>
      (stream.send.filterAcked ⟨offset, offset + length⟩).isSome
  | _ => false

def bufferedDue (room : Nat) (pktType : PacketType) (w : Nat) (conn : FrameWriter) : Bool :=
  conn.enableMultipath && pktType = .oneRtt && !conn.isClosing && room - w > maxStreamOverhead &&
    conn.path.isActive && conn.buffered.frames.any (unacked conn.streams)

def sends (streams : StreamMap) (streamId : Nat) : Bool :=
  (streams.get streamId).any fun stream => !stream.send.isStopped

def streamsDue (room : Nat) (pktType : PacketType) (w : Nat) (conn : FrameWriter) : Bool :=
  (pktType = .oneRtt || pktType = .zeroRtt) && !conn.isClosing && room - w > maxStreamOverhead &&
    conn.path.isActive && conn.streams.sendOrder.any (sends conn.streams)

def dueNewToken (pktType : PacketType) (_ : Nat) (conn : FrameWriter) : List Frame :=
  (conn.newTokenFrame pktType).toList

/-- After data, there is enough for a sample. -/
def dueStreams (room : Nat) (pktType : PacketType) (w : Nat) (conn : FrameWriter) : List Frame :=
  if streamsDue room pktType w conn then [] else dueNewToken pktType w conn

def dueBuffered (room : Nat) (pktType : PacketType) (w : Nat) (conn : FrameWriter) : List Frame :=
  if bufferedDue room pktType w conn then [] else dueStreams room pktType w conn

def dueData (room : Nat) (pktType : PacketType) (w : Nat) (conn : FrameWriter) : List Frame :=
  if cryptoDue room pktType w conn then [] else dueBuffered room pktType w conn

def dueMaxStreamData (streamIds : List Nat) (conn : FrameWriter) : List Frame :=
  streamIds.filterMap fun streamId =>
    (conn.streams.get streamId).map fun stream =>
      .maxStreamData streamId (stream.recv.autotuneWindow conn.now
        conn.recovery.smoothedRtt).flowControl.maxDataNext

def dueMaxData (conn : FrameWriter) : List Frame :=
  if conn.streams.needSendMaxData then
    [.maxData (conn.streams.flowControl.autotuneWindow conn.now
      conn.recovery.smoothedRtt).maxDataNext]
  else []

def dueMaxStreams (bidi : Bool) (conn : FrameWriter) : List Frame :=
  if conn.streams.concurrencyControl.shouldUpdateLocalMaxStreams bidi then
    [.maxStreams bidi (conn.streams.concurrencyControl.localMaxStreamsNext bidi)]
  else []

def dueDataBlocked (conn : FrameWriter) : List Frame :=
  conn.streams.sendCapacity.blockedAt.toList.map .dataBlocked

def dueStreamsBlocked (bidi : Bool) (conn : FrameWriter) : List Frame :=
  (conn.streams.concurrencyControl.streamsBlockedAt bidi).toList.map (.streamsBlocked bidi)

def dueStreamControl : List (FrameWriter → List Frame) :=
  [dueMaxStreams true,
    dueMaxStreams false,
    dueDataBlocked,
    fun conn => dueMaxStreamData
      (conn.visits.almostFull.arrange (conn.streams.almostFull.sort (· ≤ ·))) conn,
    dueMaxData,
    fun conn => (conn.visits.stopped.arrange conn.streams.stopped.entries).map fun entry =>
      .stopSending entry.1 entry.2,
    fun conn => (conn.visits.reset.arrange conn.streams.reset.entries).map fun entry =>
      .resetStream entry.1 entry.2.1 entry.2.2,
    fun conn => (conn.visits.dataBlocked.arrange conn.streams.dataBlocked.entries).map fun entry =>
      .streamDataBlocked entry.1 entry.2,
    dueStreamsBlocked true,
    dueStreamsBlocked false]

def dueControl (room : Nat) (pktType : PacketType) (w : Nat) (conn : FrameWriter) : List Frame :=
  if pktType ≠ .oneRtt || conn.isClosing || !conn.path.isActive then dueData room pktType w conn
  else dueStreamControl.foldr thenDue (dueData room pktType) w conn

def dueHandshakeDone (pktType : PacketType) (conn : FrameWriter) : List Frame :=
  if pktType = .oneRtt && !conn.isClosing && conn.path.isActive && conn.needSendHandshakeDoneFrame
  then [.handshakeDone] else []

/-- Nothing comes after the number that the packet itself uses. -/
def dueRetirements (later : Nat → FrameWriter → List Frame) (w : Nat) (conn : FrameWriter) :
    List Frame :=
  let frames := (conn.cids.dcidsToRetire.eraseDups.takeWhile fun seq =>
    some seq ≠ conn.path.dcidSeq).map Frame.retireConnectionId
  if conn.cids.dcidsToRetire.any (fun seq => some seq = conn.path.dcidSeq) then frames
  else frames ++ later (w + framesLen frames) conn

def dueNewConnectionIds (later : Nat → FrameWriter → List Frame) (w : Nat) (conn : FrameWriter) :
    List Frame :=
  match conn.cids.nextScidToAdvertise with
  | some seq => (conn.cids.createNewConnectionIdFrame seq).toOption.toList
  | none => later w conn

def dueCids (pktType : PacketType) (later : Nat → FrameWriter → List Frame) (w : Nat)
    (conn : FrameWriter) : List Frame :=
  if pktType ≠ .oneRtt || conn.isClosing then later w conn
  else
    dueNewConnectionIds
      (fun w conn => if !conn.path.isActive then later w conn else dueRetirements later w conn) w
      conn

def duePathResponses (pktType : PacketType) (conn : FrameWriter) : List Frame :=
  if pktType ≠ .oneRtt then [] else conn.path.recvChals.map .pathResponse

def duePathChallenge (pktType : PacketType) (conn : FrameWriter) : List Frame :=
  if pktType ≠ .oneRtt then []
  else if conn.path.needSendChallenge then [.pathChallenge conn.challenge] else []

def probes (bufLen : Nat) (pktType : PacketType) (first : Bool) (conn : FrameWriter) : Bool :=
  let (probeSize, dplpmtud) := conn.dplpmtud.getProbeSize conn.peerLarge
  if pktType ≠ .oneRtt || !conn.handshakeCompleted || conn.isClosing || !first ||
      !conn.st.frames.isEmpty then false
  else
    !(!conn.path.isValidated || !dplpmtud.shouldProbe || probeSize > bufLen ||
      probeSize > conn.recovery.congestionWindow || conn.recovery.inRecovery)

def dueAck (conn : FrameWriter) : List Frame :=
  if conn.recvPktNumNeedAck.isEmpty || !conn.needSendAck || conn.isClosing || !conn.path.isActive
  then [] else [.ack conn.ackDelay conn.recvPktNumNeedAck none]

def dueClose (pktType : PacketType) (conn : FrameWriter) : List Frame :=
  if !conn.path.isActive && conn.pathsLen > 1 then [] else (conn.closeFrame pktType).toList

section Steps

variable {pktNumLen room : Nat} {stalled : Prop} {due later : Nat → FrameWriter → List Frame}
  {conn : FrameWriter}

/-- What follows a frame leaves the packet as it is. -/
def KeepsWritten (written : FrameWriter → FrameWriter) : Prop :=
  ∀ conn, (written conn).st.payload = conn.st.payload ∧ (written conn).st.frames = conn.st.frames

variable {rest : List Frame} {written : FrameWriter → FrameWriter} {frame : Frame}

/-- A due frame is written, or its writer halts where the due frames stall. -/
theorem writeFrame_leads (ample : Ample pktNumLen room) (filled : 0 < frame.wireLen)
    (decides : StallsFrom pktNumLen room conn.st.written (frame :: rest) ↔ stalled)
    (kept : KeepsWritten written)
    (next : ∀ st : FrameWriteStatus, st.written = conn.st.written + frame.wireLen →
      pktNumLen + st.written < minPayloadLen →
        later st.written (written { conn with st }) = rest) :
    Fuelled.Leads (¬ stalled)
      (fun after => Poised pktNumLen room stalled later after ∧
        after.st.written = conn.st.written + frame.wireLen ∧
        ∃ st, st.overhead = conn.st.overhead ∧ after = written { conn with st })
      (Halts pktNumLen stalled) (writeFrame room frame written conn) := by
  unfold writeFrame
  have attempt := writeFrameToPacket_attempt frame room conn.st
  generalize writeFrameToPacket frame room conn.st = result at attempt
  cases attempt with
  | full short =>
    change Halts pktNumLen stalled .done conn
    rw [Halts, ← decides, stallsFrom_long ample.roomy short]
    exact and_iff_right rfl
  | fails fits other invalid =>
    change Halts pktNumLen stalled _ conn
    rw [Halts, ← decides, stallsFrom_fits fits]
    refine ⟨fun done => absurd done.1 other, fun stalls => ?_⟩
    obtain ⟨sent, _, _, _, _, short, _⟩ := stalls
    refine absurd (wellFormed_of_short filled ?_) invalid
    have numbered := ample.numbered
    unfold minPayloadLen at short
    omega
  | @writes bytes fits len =>
    let st : FrameWriteStatus :=
      { conn.st with
        payload := conn.st.payload ++ bytes
        frames := conn.st.frames ++ [frame] }
    have grown : st.written = conn.st.written + frame.wireLen := by
      rw [← len]
      exact List.length_append
    obtain ⟨payload, frames⟩ := kept { conn with st }
    have total : (written { conn with st }).st.written = conn.st.written + frame.wireLen :=
      (congrArg List.length payload).trans grown
    refine ⟨⟨fun empty => ?_, ?_⟩, total, st, rfl, rfl⟩
    · rw [frames] at empty
      exact absurd empty (List.append_ne_nil_of_right_ne_nil _ (List.cons_ne_nil _ _))
    · rw [total, ← decides, stallsFrom_fits fits]
      refine stallsFrom_congr fun short => ?_
      rw [← next st grown (by rw [grown]; exact short), grown]

theorem writeFrame_goes (ample : Ample pktNumLen room) (filled : 0 < frame.wireLen)
    (decides : StallsFrom pktNumLen room conn.st.written (frame :: rest) ↔ stalled)
    (kept : KeepsWritten written)
    (next : ∀ st : FrameWriteStatus, st.written = conn.st.written + frame.wireLen →
      pktNumLen + st.written < minPayloadLen →
        later st.written (written { conn with st }) = rest) :
    Goes pktNumLen room stalled later (writeFrame room frame written conn) :=
  (writeFrame_leads ample filled decides kept next).mono (fun _ reached => reached.1)
    fun _ _ halts => halts

theorem writeLong_leads (ample : Ample pktNumLen room) (long : 3 ≤ frame.wireLen)
    (decides : StallsFrom pktNumLen room conn.st.written (frame :: rest) ↔ stalled)
    (kept : KeepsWritten written) :
    Fuelled.Leads (¬ stalled)
      (fun after => Poised pktNumLen room stalled later after ∧
        minPayloadLen ≤ pktNumLen + after.st.written ∧
        ∃ st, st.overhead = conn.st.overhead ∧ after = written { conn with st })
      (Halts pktNumLen stalled) (writeFrame room frame written conn) := by
  have numbered := ample.numbered
  have enough : ∀ total, total = conn.st.written + frame.wireLen →
      minPayloadLen ≤ pktNumLen + total := by
    intro total grown
    unfold minPayloadLen
    omega
  refine (writeFrame_leads ample (by omega) decides kept fun st grown short => ?_).mono
    (fun after reached => ⟨reached.1, enough _ reached.2.1, reached.2.2⟩) fun _ _ halts => halts
  exact absurd short (Nat.not_lt_of_le (enough _ grown))

theorem writeLong_goes (ample : Ample pktNumLen room) (long : 3 ≤ frame.wireLen)
    (decides : StallsFrom pktNumLen room conn.st.written (frame :: rest) ↔ stalled)
    (kept : KeepsWritten written) :
    Goes pktNumLen room stalled later (writeFrame room frame written conn) :=
  (writeLong_leads ample long decides kept).mono (fun _ reached => reached.1) fun _ _ halts => halts

theorem Poised.congr (poised : Poised pktNumLen room stalled due conn)
    (same : due conn.st.written conn = later conn.st.written conn) :
    Poised pktNumLen room stalled later conn :=
  ⟨poised.blank, same ▸ poised.decides⟩

variable {frames : FrameWriter → List Frame}

section

variable (poised : Poised pktNumLen room stalled (thenDue frames later) conn)

include poised

theorem Poised.nothing (none : frames conn = []) : Poised pktNumLen room stalled later conn :=
  poised.congr (by rw [thenDue, none]; rfl)

theorem Poised.front (some : frames conn = frame :: rest) :
    StallsFrom pktNumLen room conn.st.written (frame :: (rest ++
      later (conn.st.written + framesLen (frame :: rest)) conn)) ↔ stalled := by
  have decides := poised.decides
  rw [thenDue, some] at decides
  exact decides

theorem Poised.one
    (ample : Ample pktNumLen room) (one : frames conn = [frame]) (filled : 0 < frame.wireLen)
    (kept : KeepsWritten written)
    (same : ∀ w st, later w (written { conn with st }) = later w conn) :
    Goes pktNumLen room stalled later (writeFrame room frame written conn) := by
  refine writeFrame_goes ample filled (poised.front one) kept fun st grown _ => ?_
  rw [same, grown]
  simp only [framesLen, List.map_cons, List.map_nil, List.sum_cons, List.sum_nil, Nat.add_zero,
    List.nil_append]

end

theorem Poised.long (poised : Poised pktNumLen room stalled (thenDue frames due) conn)
    (ample : Ample pktNumLen room) (some : frames conn = frame :: rest) (long : 3 ≤ frame.wireLen)
    (kept : KeepsWritten written) :
    Goes pktNumLen room stalled later (writeFrame room frame written conn) :=
  writeLong_goes ample long (poised.front some) kept

theorem writeEach_goes {α : Type} {entries : List (Nat × α)} {frame : Nat → α → Frame}
    {unmark : StreamMap → Nat → StreamMap} (ample : Ample pktNumLen room)
    (long : ∀ streamId value, 3 ≤ (frame streamId value).wireLen)
    (poised : Poised pktNumLen room stalled
      (thenDue (fun _ => entries.map fun entry => frame entry.1 entry.2) later) conn) :
    Goes pktNumLen room stalled later (writeEach room entries frame unmark conn) := by
  exact @Fuelled.leads_each_left _ _ _ (Halts pktNumLen stalled) conn (¬ stalled)
    (fun entries => Poised pktNumLen room stalled
      (thenDue (fun _ => entries.map fun entry => frame entry.1 entry.2) later)) _ entries
    (fun entry rest conn poised =>
      poised.long ample rfl (long entry.1 entry.2) fun _ => ⟨rfl, rfl⟩) poised

/-! ## The writers -/

theorem writeDue_goes {offer : StreamMap → Option (Frame × StreamMap)} {after : StreamMap}
    (value : Option Nat) (frame : Nat → Frame) (ample : Ample pktNumLen room)
    (offers : offer conn.streams = value.map fun number => (frame number, after))
    (listed : frames conn = value.toList.map frame) (filled : ∀ number, 0 < (frame number).wireLen)
    (same : ∀ w st, later w { conn with st, streams := after } = later w conn)
    (poised : Poised pktNumLen room stalled (thenDue frames later) conn) :
    Goes pktNumLen room stalled later (writeDue room offer conn) := by
  unfold writeDue
  rw [offers]
  cases value with
  | none => exact poised.nothing listed
  | some number =>
    exact poised.one ample listed (filled number) (fun _ => ⟨rfl, rfl⟩) fun w st => same w _

section

variable (ample : Ample pktNumLen room)

include ample

private theorem writeMaxStreamData_goes {streamIds : List Nat}
    (same : ∀ conn w streamId, later w { conn with
      streams := conn.streams.markAlmostFull streamId false } = later w conn)
    (poised : Poised pktNumLen room stalled (thenDue (dueMaxStreamData streamIds) later) conn) :
    Goes pktNumLen room stalled later (Fuelled.each (writeMaxStreamData room) streamIds conn) := by
  refine @Fuelled.leads_each_left _ _ _ (Halts pktNumLen stalled) conn (¬ stalled)
    (fun streamIds => Poised pktNumLen room stalled (thenDue (dueMaxStreamData streamIds) later)) _
    streamIds (fun streamId rest conn poised => ?_) poised
  have decides := poised.decides
  unfold writeMaxStreamData
  cases found : conn.streams.get streamId with
  | none =>
    refine ⟨poised.blank, ?_⟩
    simp only [thenDue, dueMaxStreamData, List.filterMap_cons, found, Option.map_none]
      at decides ⊢
    rw [same]
    exact decides
  | some stream =>
    simp only [thenDue, dueMaxStreamData, List.filterMap_cons, found, Option.map_some] at decides
    exact writeLong_goes ample (varints_long _ _) decides fun _ => ⟨rfl, rfl⟩

private theorem writeMaxData_goes (same : ∀ w st flowControl, later w { conn with
      st, streams := { conn.streams with flowControl, rxAlmostFull := false } } = later w conn)
    (poised : Poised pktNumLen room stalled (thenDue dueMaxData later) conn) :
    Goes pktNumLen room stalled later (writeMaxData room conn) := by
  unfold writeMaxData
  split_ifs with needed
  · have due := poised.front (if_pos needed)
    refine writeFrame_goes ample ?_ due (fun _ => ⟨rfl, rfl⟩) fun st grown _ => ?_
    · exact number_filled _
    · refine (same st.written _ _).trans ?_
      rw [grown]
      rfl
  · exact poised.nothing (if_neg needed)

theorem maxStreamsDue_goes {bidi : Bool}
    (same : ∀ w st, later w { conn with st, streams := { conn.streams with
      concurrencyControl := conn.streams.concurrencyControl.updateLocalMaxStreams bidi } } =
        later w conn)
    (poised : Poised pktNumLen room stalled (thenDue (dueMaxStreams bidi) later) conn) :
    Goes pktNumLen room stalled later (writeDue room (maxStreamsDue bidi) conn) := by
  refine writeDue_goes
    (if conn.streams.concurrencyControl.shouldUpdateLocalMaxStreams bidi then
      some (conn.streams.concurrencyControl.localMaxStreamsNext bidi) else none)
    (.maxStreams bidi) ample ?_ ?_ number_filled same poised
  · unfold maxStreamsDue StreamMap.writeMaxStreams
    split_ifs <;> rfl
  · unfold dueMaxStreams
    split_ifs <;> rfl

private theorem dataBlockedDue_goes
    (same : ∀ w st, later w { conn with st, streams := conn.streams.updateDataBlockedAt none } =
      later w conn)
    (poised : Poised pktNumLen room stalled (thenDue dueDataBlocked later) conn) :
    Goes pktNumLen room stalled later (writeDue room dataBlockedDue conn) := by
  refine writeDue_goes conn.streams.sendCapacity.blockedAt .dataBlocked ample ?_ rfl number_filled
    same poised
  unfold dataBlockedDue StreamMap.writeDataBlocked
  cases conn.streams.sendCapacity.blockedAt <;> rfl

theorem streamsBlockedDue_goes {bidi : Bool}
    (same : ∀ w st, later w { conn with st, streams := { conn.streams with
      concurrencyControl :=
        conn.streams.concurrencyControl.updateStreamsBlockedAt bidi none } } = later w conn)
    (poised : Poised pktNumLen room stalled (thenDue (dueStreamsBlocked bidi) later) conn) :
    Goes pktNumLen room stalled later (writeDue room (streamsBlockedDue bidi) conn) := by
  refine writeDue_goes (conn.streams.concurrencyControl.streamsBlockedAt bidi)
    (.streamsBlocked bidi) ample ?_ rfl number_filled same poised
  unfold streamsBlockedDue StreamMap.writeStreamsBlocked
  cases conn.streams.concurrencyControl.streamsBlockedAt bidi <;> rfl

end

variable {pktType : PacketType}

/-- The stream control frames are written kind by kind. -/
theorem tryWriteStreamControlFrames_goes (ample : Ample pktNumLen room)
    (poised : Poised pktNumLen room stalled (dueControl room pktType) conn) :
    Goes pktNumLen room stalled (dueData room pktType)
      (tryWriteStreamControlFrames room pktType conn) := by
  unfold tryWriteStreamControlFrames
  split_ifs with closed
  · exact poised.congr (if_pos closed)
  · have start : Poised pktNumLen room stalled
        (dueStreamControl.foldr thenDue (dueData room pktType)) conn := poised.congr (if_neg closed)
    refine (maxStreamsDue_goes ample (fun w st => rfl) start).andThen fun conn poised => ?_
    refine (maxStreamsDue_goes ample (fun w st => rfl) poised).andThen fun conn poised => ?_
    refine (dataBlockedDue_goes ample (fun w st => rfl) poised).andThen fun conn poised => ?_
    have limits : Poised pktNumLen room stalled
        (thenDue (dueMaxStreamData
          (conn.visits.almostFull.arrange (conn.streams.almostFull.sort (· ≤ ·))))
          ((dueStreamControl.drop 4).foldr thenDue (dueData room pktType))) conn := poised.congr rfl
    refine Fuelled.Leads.andThen (writeMaxStreamData_goes ample (fun conn w streamId => rfl) limits)
      fun conn poised => ?_
    refine (writeMaxData_goes ample (fun w st flowControl => rfl) poised).andThen
      fun conn poised => ?_
    refine (writeEach_goes ample varints_long (poised.congr rfl)).andThen fun conn poised => ?_
    refine (writeEach_goes ample (fun streamId reset => ?_) (poised.congr rfl)).andThen
      fun conn poised => ?_
    · exact (varints_long _ _).trans (Nat.le_add_right _ _)
    refine (writeEach_goes ample varints_long (poised.congr rfl)).andThen fun conn poised => ?_
    refine (streamsBlockedDue_goes ample (fun w st => rfl) poised).andThen fun conn poised => ?_
    exact streamsBlockedDue_goes ample (fun w st => rfl) poised

theorem tryWriteHandshakeDone_goes (ample : Ample pktNumLen room)
    (same : ∀ w st, later w { conn with st, needSendHandshakeDone := false } = later w conn)
    (poised : Poised pktNumLen room stalled (thenDue (dueHandshakeDone pktType) later) conn) :
    Goes pktNumLen room stalled later (tryWriteHandshakeDone room pktType conn) := by
  unfold tryWriteHandshakeDone
  split_ifs with due
  · exact poised.one ample (if_pos due) Nat.zero_lt_one (fun _ => ⟨rfl, rfl⟩) fun w st => same w _
  · exact poised.nothing (if_neg due)

theorem not_poised_nothing (poised : Poised pktNumLen room stalled due conn)
    (nothing : due conn.st.written conn = []) : ¬ stalled :=
  fun stalls => not_stallsFrom_nil (nothing ▸ poised.decides.mpr stalls)

/-- The number that the packet uses stays at the front, so the loop does not end. -/
theorem writeRetireConnectionIds_stuck {seq : Nat} (own : conn.path.dcidSeq = some seq)
    (front : conn.cids.nextDcidToRetire = some seq) (fuel : Nat) :
    writeRetireConnectionIds room fuel conn = none := by
  induction fuel with
  | zero => rfl
  | succ fuel ih =>
    unfold writeRetireConnectionIds
    rw [front]
    dsimp only
    rw [own]
    dsimp only
    rw [if_pos rfl, ih]

private theorem dueRetirements_cons {seq dcidSeq : Nat} {rest : List Nat}
    (own : conn.path.dcidSeq = some dcidSeq) (list : conn.cids.dcidsToRetire = seq :: rest)
    (other : seq ≠ dcidSeq)
    (same : ∀ w st, later w { conn with st, cids := conn.cids.markDcidToRetire seq false } =
      later w conn) (w : Nat) (st : FrameWriteStatus) :
    dueRetirements later w conn = .retireConnectionId seq ::
      dueRetirements later (w + (Frame.retireConnectionId seq).wireLen)
        { conn with st, cids := conn.cids.markDcidToRetire seq false } := by
  have marked : (conn.cids.markDcidToRetire seq false).dcidsToRetire =
      rest.filter fun listed => !listed == seq := by
    have dropped : (seq :: rest).filter (fun listed => decide (listed ≠ seq)) =
        rest.filter fun listed => decide (listed ≠ seq) :=
      List.filter_cons_of_neg (by simp)
    change conn.cids.dcidsToRetire.filter (fun listed => decide (listed ≠ seq)) = _
    rw [list, dropped]
    refine List.filter_congr fun listed _ => ?_
    by_cases equal : listed = seq <;> simp [equal]
  have stays : (seq :: rest).any (fun listed => some listed = conn.path.dcidSeq) =
      (rest.filter fun listed => !listed == seq).any
        (fun listed => some listed = conn.path.dcidSeq) := by
    rw [List.any_filter, List.any_cons, own]
    simp only [Option.some.injEq, other, decide_false, Bool.false_or]
    congr 1
    funext listed
    by_cases equal : listed = seq
    · subst equal
      simp [other]
    · simp [equal]
  have passed : decide (some seq ≠ conn.path.dcidSeq) = true := by simp [own, other]
  simp only [dueRetirements, marked, list, stays, List.eraseDups_cons, List.takeWhile_cons, passed,
    if_true, List.map_cons]
  split_ifs
  · rfl
  · simp only [same, framesLen, List.map_cons, List.sum_cons, List.cons_append, Nat.add_assoc]

section

variable (ample : Ample pktNumLen room)

include ample

private theorem writeRetireConnectionIds_goes {fuel : Nat} (same : ∀ conn w st seq,
      later w { conn with st, cids := conn.cids.markDcidToRetire seq false } = later w conn)
    (active : conn.path.isActive = true) (enough : conn.cids.dcidsToRetire.length < fuel)
    (poised : Poised pktNumLen room stalled (dueRetirements later) conn) :
    Goes pktNumLen room stalled later (writeRetireConnectionIds room fuel conn) := by
  induction fuel generalizing conn with
  | zero => exact absurd enough (Nat.not_lt_zero _)
  | succ fuel ih =>
    obtain ⟨dcidSeq, used⟩ : ∃ dcidSeq, conn.path.dcidSeq = some dcidSeq := by
      unfold Path.isActive at active
      exact Option.isSome_iff_exists.mp (Bool.and_eq_true_iff.mp active).2
    cases list : conn.cids.dcidsToRetire with
    | nil =>
      have none : conn.cids.nextDcidToRetire = none := by
        rw [ConnectionIdMgr.nextDcidToRetire, list]
        rfl
      unfold writeRetireConnectionIds
      rw [none]
      refine poised.congr ?_
      simp only [dueRetirements, list, List.eraseDups_nil, List.takeWhile_nil, List.map_nil,
        List.any_nil]
      rfl
    | cons seq rest =>
      have front : conn.cids.nextDcidToRetire = some seq := by
        rw [ConnectionIdMgr.nextDcidToRetire, list]
        rfl
      by_cases own : seq = dcidSeq
      · subst own
        rw [writeRetireConnectionIds_stuck used front]
        refine not_poised_nothing poised ?_
        simp [dueRetirements, list, used, List.eraseDups_cons]
      · unfold writeRetireConnectionIds
        rw [front]
        dsimp only
        rw [used]
        dsimp only
        rw [if_neg own]
        have due := fun st => dueRetirements_cons used list own
          (fun w st => same conn w st seq) conn.st.written st
        have decides := poised.decides
        rw [due conn.st] at decides
        refine Fuelled.Leads.andThen (@writeFrame_leads _ _ _ (dueRetirements later) _ _ _ _
          ample ?_ decides ?_ fun st grown _ => ?_) fun after reached => ?_
        · exact number_filled _
        · exact fun _ => ⟨rfl, rfl⟩
        · rw [grown]
          exact (List.cons.inj ((due _).symm.trans (due conn.st))).2
        · obtain ⟨poised, _, st, _, rfl⟩ := reached
          have fewer := CidPaths.pending_fewer front
          exact ih active (by dsimp only [elicit]; omega) poised

/-- The ids to announce, by induction on the fuel. -/
theorem writeNewConnectionIds_goes {fuel : Nat} (enough : conn.cids.scidsToAdvertise.length < fuel)
    (poised : Poised pktNumLen room stalled (dueNewConnectionIds later) conn) :
    Goes pktNumLen room stalled later (writeNewConnectionIds room fuel conn) := by
  induction fuel generalizing conn with
  | zero => exact absurd enough (Nat.not_lt_zero _)
  | succ fuel ih =>
    unfold writeNewConnectionIds
    cases front : conn.cids.nextScidToAdvertise with
    | none => exact poised.congr (by rw [dueNewConnectionIds, front])
    | some seq =>
      have due : dueNewConnectionIds later conn.st.written conn =
          (conn.cids.createNewConnectionIdFrame seq).toOption.toList := by
        rw [dueNewConnectionIds, front]
      dsimp only
      cases created : conn.cids.createNewConnectionIdFrame seq with
      | error error =>
        have silent := not_poised_nothing poised (by rw [due, created]; rfl)
        refine iff_of_false (fun halts => ?_) silent
        unfold ConnectionIdMgr.createNewConnectionIdFrame at created
        split at created
        · cases created
          cases halts.1
        · split at created
          · cases created
            cases halts.1
          · cases created
      | ok frame =>
        have long : 3 ≤ frame.wireLen := by
          unfold ConnectionIdMgr.createNewConnectionIdFrame at created
          split at created
          · cases created
          · split at created
            · cases created
            · cases created
              have ids := varints_long seq conn.cids.retirePriorTo
              simp only [Frame.wireLen]
              omega
        have decides := poised.decides
        rw [due, created] at decides
        refine Fuelled.Leads.andThen (@writeLong_leads _ _ _ (dueNewConnectionIds later) _ _
          _ _ ample long decides ?_) fun after reached => ?_
        · exact fun _ => ⟨rfl, rfl⟩
        · obtain ⟨poised, _, st, _, rfl⟩ := reached
          have fewer := CidPaths.advertise_fewer front
          exact ih (by dsimp only [elicit]; omega) poised

theorem tryWriteCidControlFrame_goes (same : ∀ conn w st seq,
      later w { conn with st, cids := conn.cids.markDcidToRetire seq false } = later w conn)
    (poised : Poised pktNumLen room stalled (dueCids pktType later) conn) :
    Goes pktNumLen room stalled later (tryWriteCidControlFrame room pktType conn) := by
  unfold tryWriteCidControlFrame
  split_ifs with closed
  · exact poised.congr (if_pos closed)
  · refine (writeNewConnectionIds_goes ample (Nat.lt_succ_self _)
      (poised.congr (if_neg closed))).andThen fun conn poised => ?_
    split_ifs with inactive
    · exact poised.congr (if_pos inactive)
    · refine writeRetireConnectionIds_goes ample same ?_ (Nat.lt_succ_self _)
        (poised.congr (if_neg inactive))
      rwa [Bool.not_eq_true', Bool.not_eq_false] at inactive

/-- Responses come before the challenge. -/
theorem tryWritePathValidationFrames_goes (poised : Poised pktNumLen room stalled
      (thenDue (duePathResponses pktType) (thenDue (duePathChallenge pktType) later)) conn) :
    Goes pktNumLen room stalled later (tryWritePathValidationFrames room pktType conn) := by
  unfold tryWritePathValidationFrames
  split_ifs with early
  · exact (poised.nothing (if_pos early)).nothing (if_pos early)
  · have oneRtt : ∀ conn, duePathChallenge pktType conn =
        if conn.path.needSendChallenge then [.pathChallenge conn.challenge] else [] :=
      fun _ => if_neg early
    have responses : Poised pktNumLen room stalled
        (thenDue (fun _ => conn.path.recvChals.map .pathResponse)
          (thenDue (duePathChallenge pktType) later)) conn :=
      poised.congr (by simp only [thenDue, duePathResponses, if_neg early])
    refine Fuelled.Leads.andThen (@Fuelled.leads_each_left _ _ _ _ _ _
      (fun challenges => Poised pktNumLen room stalled
        (thenDue (fun _ => challenges.map .pathResponse)
          (thenDue (duePathChallenge pktType) later))) _ _
      (fun data rest conn poised => ?_) responses) fun conn poised => ?_
    · exact writeLong_goes ample (Nat.le_add_left 3 6) (poised.front rfl) fun _ => ⟨rfl, rfl⟩
    · have challenge : Poised pktNumLen room stalled (thenDue (duePathChallenge pktType) later)
          conn := poised.nothing rfl
      dsimp only
      split_ifs with needed
      · exact challenge.long ample (by rw [oneRtt, if_pos needed]) (Nat.le_add_left 3 6)
          fun _ => ⟨rfl, rfl⟩
      · exact challenge.nothing (by rw [oneRtt, if_neg needed])

end

/-- Nothing was written yet, or enough for a sample, after a header that is as long as before. -/
structure Settled (pktNumLen overhead : Nat) (conn : FrameWriter) : Prop where
  begun : conn.st.written = 0 ∨ minPayloadLen ≤ pktNumLen + conn.st.written
  header : conn.st.overhead = overhead

private theorem Settled.not_tiny {overhead : Nat} (settled : Settled pktNumLen overhead conn) :
    ¬ conn.st.Tiny pktNumLen := by
  rintro ⟨some, short⟩
  rcases settled.begun with none | enough
  · omega
  · omega

/-- The steps of a writer before the check of the congestion window. -/
abbrev Settles (pktNumLen room overhead : Nat) (stalled : Prop)
    (due : Nat → FrameWriter → List Frame) : Option (Except Error Unit × FrameWriter) → Prop :=
  Fuelled.Leads (¬ stalled)
    (fun after => Poised pktNumLen room stalled due after ∧ Settled pktNumLen overhead after)
    (Halts pktNumLen stalled)

variable {overhead : Nat}

theorem Poised.settles (poised : Poised pktNumLen room stalled (thenDue frames due) conn)
    (settled : Settled pktNumLen overhead conn)
    (ample : Ample pktNumLen room) (one : frames conn = [frame]) (long : 3 ≤ frame.wireLen)
    (kept : KeepsWritten written)
    (header : ∀ conn, (written conn).st.overhead = conn.st.overhead) :
    Settles pktNumLen room overhead stalled due (writeFrame room frame written conn) := by
  have reaches := @writeLong_leads _ _ _ due _ _ _ _ ample long (poised.front one) kept
  refine reaches.mono (fun after reached => ?_) fun _ _ halts => halts
  obtain ⟨poised, enough, st, same, rfl⟩ := reached
  exact ⟨poised, .inr enough, (header _).trans (same.trans settled.header)⟩

theorem ack_long (ackDelay : Nat) {ackRanges : RangeSet} (filled : ackRanges.isEmpty = false) :
    3 ≤ (Frame.ack ackDelay ackRanges none).wireLen := by
  obtain ⟨first, rest, shape⟩ := Frame.ack_shape filled
  have one := varints_long (first.stop - 1) ackDelay
  simp only [Frame.wireLen, Frame.ackWireLen, shape]
  omega

theorem tryWriteAckFrame_settles (ample : Ample pktNumLen room)
    (settled : Settled pktNumLen overhead conn)
    (poised : Poised pktNumLen room stalled (thenDue dueAck later) conn) :
    Settles pktNumLen room overhead stalled later (tryWriteAckFrame room conn) := by
  unfold tryWriteAckFrame
  split_ifs with idle
  · exact ⟨poised.nothing (if_pos idle), settled⟩
  · refine poised.settles settled ample (if_neg idle) (ack_long _ ?_) (fun _ => ⟨rfl, rfl⟩)
      fun _ => rfl
    simp only [Bool.or_eq_true, not_or, Bool.not_eq_true] at idle
    exact idle.1.1.1

theorem closeFrame_long (some : conn.closeFrame pktType = some frame) : 3 ≤ frame.wireLen := by
  unfold closeFrame at some
  split at some
  · cases some
  · next error _ =>
    have one := varints_long error.errorCode error.reason.length
    split_ifs at some
    · cases some
      simp only [Frame.wireLen]
      omega
    · cases some
      simp only [Frame.wireLen]
      omega

theorem tryWriteCloseFrame_settles (ample : Ample pktNumLen room)
    (settled : Settled pktNumLen overhead conn)
    (poised : Poised pktNumLen room stalled (thenDue (dueClose pktType) later) conn) :
    Settles pktNumLen room overhead stalled later (tryWriteCloseFrame room pktType conn) := by
  unfold tryWriteCloseFrame
  split_ifs with apart
  · exact ⟨poised.nothing (if_pos apart), settled⟩
  · have due : dueClose pktType conn = (conn.closeFrame pktType).toList := if_neg apart
    cases closing : conn.closeFrame pktType with
    | none => exact ⟨poised.nothing (by rw [due, closing]; rfl), settled⟩
    | some frame =>
      exact poised.settles settled ample (by rw [due, closing]; rfl) (closeFrame_long closing)
        (fun _ => ⟨rfl, rfl⟩) fun _ => rfl

/-- Whether only ACK and CONNECTION_CLOSE frames may be sent. -/
def limited (conn : FrameWriter) : Bool := !conn.st.isProbe && !conn.recovery.canSend

theorem checkCongestion_settles (settled : Settled pktNumLen overhead conn)
    (same : ∀ w pacing, later w { conn with st := { conn.st with pacing } } = later w conn)
    (poised : Poised pktNumLen room stalled
      (fun w conn => if conn.limited then [] else later w conn) conn) :
    Settles pktNumLen room overhead stalled later (checkCongestion conn) := by
  unfold checkCongestion
  split_ifs with full
  · have silent := not_poised_nothing poised (if_pos full)
    exact iff_of_false (fun halts => settled.not_tiny halts.2) silent
  · have unlimited : ¬ conn.limited = true := full
    refine ⟨⟨poised.blank, ?_⟩, settled.begun, settled.header⟩
    have decides := poised.decides
    rw [if_neg unlimited, ← same _ true] at decides
    exact decides

theorem writeFrame_room {outLen : Nat} {frame : Frame} {written : FrameWriter → FrameWriter}
    {post : FrameWriter → Prop} (fits : conn.st.written + frame.wireLen ≤ outLen)
    (silent : ¬ stalled)
    (reached : ∀ st : FrameWriteStatus, st.written = conn.st.written + frame.wireLen →
      post (written { conn with st })) :
    Fuelled.Leads (¬ stalled) post (Halts pktNumLen stalled)
      (writeFrame outLen frame written conn) := by
  unfold writeFrame
  have attempt := writeFrameToPacket_attempt frame outLen conn.st
  generalize writeFrameToPacket frame outLen conn.st = result at attempt
  cases attempt with
  | full short => exact absurd short (Nat.not_lt_of_le fits)
  | fails _ other _ => exact iff_of_false (fun halts => other halts.1) silent
  | writes _ len => exact reached _ (by rw [← len]; exact List.length_append)

/-- A probe is far longer than a sample, however long its header. -/
theorem tryWritePmtuProbeFrames_goes {bufLen : Nat} {first : Bool}
    (short : pktType = .oneRtt → conn.st.overhead + minPayloadLen ≤ defaultSendUdpPayloadSize)
    (same : ∀ w dplpmtud, later w { conn with dplpmtud } = later w conn)
    (poised : Poised pktNumLen room stalled
      (fun w conn => if conn.probes bufLen pktType first then [] else later w conn) conn) :
    Goes pktNumLen room stalled later (tryWritePmtuProbeFrames bufLen pktType first conn) := by
  unfold tryWritePmtuProbeFrames
  split_ifs with early
  · have off : conn.probes bufLen pktType first = false := if_pos early
    exact poised.congr (by rw [off]; rfl)
  · have large := conn.dplpmtud.getProbeSize_large conn.peerLarge
    have unfolded : conn.probes bufLen pktType first =
        !(!conn.path.isValidated || !(conn.dplpmtud.getProbeSize conn.peerLarge).2.shouldProbe ||
          (conn.dplpmtud.getProbeSize conn.peerLarge).1 > bufLen ||
          (conn.dplpmtud.getProbeSize conn.peerLarge).1 > conn.recovery.congestionWindow ||
          conn.recovery.inRecovery) := if_neg early
    simp only [Bool.or_eq_true, not_or, Bool.not_eq_true, Bool.not_eq_false',
      decide_eq_true_eq, not_not, ne_eq] at early
    obtain ⟨⟨⟨⟨oneRtt, _⟩, _⟩, _⟩, alone⟩ := early
    have empty : conn.st.frames = [] := List.isEmpty_iff.mp alone
    have header := short oneRtt
    have blank : conn.st.written = 0 := congrArg List.length (poised.blank empty)
    generalize conn.dplpmtud.getProbeSize conn.peerLarge = probe at large unfolded
    obtain ⟨probeSize, dplpmtud⟩ := probe
    dsimp only at large unfolded ⊢
    split_ifs with unsuited tooShort
    · refine ⟨poised.blank, ?_⟩
      have decides := poised.decides
      rw [if_neg (by rw [unfolded, unsuited]; decide), ← same _ dplpmtud] at decides
      exact decides
    · have silent := not_poised_nothing poised (if_pos (by rw [unfolded]; simpa using unsuited))
      exact iff_of_false (fun halts => by cases halts.1) silent
    · have silent := not_poised_nothing poised (if_pos (by rw [unfolded]; simpa using unsuited))
      simp only [Bool.or_eq_true, not_or, decide_eq_true_eq, Nat.not_lt] at unsuited
      obtain ⟨⟨⟨_, fits⟩, _⟩, _⟩ := unsuited
      unfold defaultSendUdpPayloadSize minPayloadLen at *
      refine Fuelled.Leads.andThen (@writeFrame_room _ _ _ _ _ _
        (fun after => after.st.written = 1) ?_ silent fun st grown => ?_) fun after one => ?_
      · change conn.st.written + 1 ≤ bufLen
        omega
      · rw [blank] at grown
        exact grown
      · refine Fuelled.Leads.andThen (@writeFrame_room _ _ _ _ _ _
          (fun after => minPayloadLen ≤ after.st.written) ?_ silent fun st grown => ?_)
          fun after enough => ?_
        · rw [one]
          simp only [Frame.wireLen]
          omega
        · rw [one] at grown
          simp only [Frame.wireLen] at grown
          change minPayloadLen ≤ st.written
          unfold minPayloadLen
          omega
        · exact iff_of_false (fun halts => absurd halts.2.2 (by omega)) silent

end Steps

end FrameWriter

end Tquic.Connection
